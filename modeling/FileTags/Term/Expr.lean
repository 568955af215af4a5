import FileTags.Text.Ranges

/-!
# Search expressions

The syntax of a search term: tags, comparisons and bookmarks under negation, conjunction and
disjunction. Every node knows the offset in the term where it starts.
-/

set_option autoImplicit false

namespace FileTags

inductive Comparator
  | equal
  | notEqual
  | less
  | lessEqual
  | greater
  | greaterEqual
  deriving DecidableEq, Repr

namespace Comparator

def symbol : Comparator → Text
  | .equal => ['=', '=']
  | .notEqual => ['!', '=']
  | .less => ['<']
  | .lessEqual => ['<', '=']
  | .greater => ['>']
  | .greaterEqual => ['>', '=']

def all : List Comparator := [.equal, .notEqual, .lessEqual, .greaterEqual, .less, .greater]

def ofSymbol? (t : Text) : Option Comparator := all.find? (·.symbol == t)

theorem ofSymbol?_symbol (c : Comparator) : ofSymbol? c.symbol = some c := by cases c <;> rfl

end Comparator

inductive Expr
  | tag (offset : Nat) (pattern : Text)
  | comparison (offset : Nat) (tag : Text) (op : Comparator) (value : Text)
  | bookmark (offset : Nat) (name : Text)
  | not (offset : Nat) (operand : Expr)
  | and (offset : Nat) (operands : List Expr)
  | or (offset : Nat) (operands : List Expr)
  deriving Repr

namespace Expr

def start : Expr → Nat
  | .tag n _ | .comparison n _ _ _ | .bookmark n _ | .not n _ | .and n _ | .or n _ => n

def conjunction : List Expr → Expr
  | [e] => e
  | es => .and ((es.head?.map start).getD 0) es

def disjunction : List Expr → Expr
  | [e] => e
  | es => .or ((es.head?.map start).getD 0) es

end Expr

end FileTags

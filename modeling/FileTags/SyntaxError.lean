import FileTags.Term.Assembly
import FileTags.Text.Place

/-!
# Syntax errors

A syntax error names the text, the place in it and what was expected there.
-/

set_option autoImplicit false

namespace FileTags

inductive TextKind
  | tagList
  | searchTerm
  deriving DecidableEq, Repr

inductive SyntaxReason
  | expectedEnd (kind : TextKind)
  | misplaced (m : Term.Misplaced)
  | nestsTooDeeply
  deriving DecidableEq, Repr

def SyntaxReason.message : SyntaxReason → String
  | .expectedEnd .tagList => "Invalid tag list: Expected end of text"
  | .expectedEnd .searchTerm => "Invalid search term: Expected end of text"
  | .misplaced m => s!"Invalid search term: {m.message}"
  | .nestsTooDeeply => "Search term nests too deeply"

structure SyntaxError where
  text : Text
  reason : SyntaxReason
  position : Nat
  line : Nat
  column : Nat
  deriving DecidableEq, Repr

namespace SyntaxError

def message (e : SyntaxError) : String :=
  s!"{e.reason.message} (at char {e.position}, line {e.line}, col {e.column})"

/-- An error at an offset; line and column are counted in `seen`, which may differ from the text
itself in its tabs. -/
def locate (text seen : Text) (reason : SyntaxReason) (offset : Nat) : SyntaxError :=
  ⟨text, reason, offset, Text.line seen offset, Text.column seen offset⟩

end SyntaxError

/-- Reads a search term. Offsets count in the term with its tabs expanded; a misplaced token is
reported with its line and column in the term as given. -/
def Expr.ofTerm (term : Text) : Except SyntaxError Expr :=
  let expanded := Text.expandTabs term
  match Term.tokens expanded with
  | .error offset => .error (.locate term expanded (.expectedEnd .searchTerm) offset)
  | .ok tokens =>
    match Term.assemble term.length tokens with
    | .error (m, offset) => .error (.locate term term (.misplaced m) offset)
    | .ok e => .ok e

end FileTags

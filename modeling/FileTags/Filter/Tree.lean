import FileTags.Term.Expr
import FileTags.Text.Written

/-!
# Trees

Syntax trees of any shape: nodes of every kind with any children, and things that are no nodes.
Search expressions are trees of a known shape; trees from elsewhere may have others.
-/

set_option autoImplicit false

namespace FileTags

inductive Rule
  | tagWithValue
  | or
  | and
  | not
  | comparison
  | tag
  | bookmark
  deriving DecidableEq, Repr

namespace Rule

def name : Rule → String
  | .tagWithValue => "tag_with_value"
  | .or => "or"
  | .and => "and"
  | .not => "not"
  | .comparison => "comparison"
  | .tag => "tag"
  | .bookmark => "bookmark"

def all : List Rule := [.tagWithValue, .or, .and, .not, .comparison, .tag, .bookmark]

def ofName? (s : String) : Option Rule := all.find? (·.name == s)

end Rule

inductive Tree
  | node (rule : Rule) (children : List Tree) (offset : Nat)
  | text (t : Text)
  /-- Anything else, known by its kind and by how it is written. -/
  | other (kind written : Text)
  deriving Repr

namespace Tree

mutual

def size : Tree → Nat
  | .node _ children _ => sizeAll children + 1
  | .text _ => 1
  | .other _ _ => 1

def sizeAll : List Tree → Nat
  | [] => 0
  | t :: ts => t.size + sizeAll ts

end

mutual

def written : Tree → Text
  | .node rule children offset =>
    Text.ofString "SyntaxNode(rule=<Rule." ++ Text.ofString rule.name.toUpper ++
      Text.ofString ": '" ++
      Text.ofString rule.name ++ Text.ofString "'>, children=(" ++ writtenAll children ++
      Text.ofString "), loc=" ++ Text.ofNat offset ++ [.char ')']
  | .text t => Text.quoted t
  | .other _ written => written

def writtenAll : List Tree → Text
  | [] => []
  | [t] => t.written ++ [.char ',']
  | [t, u] => t.written ++ [.char ',', .char ' '] ++ u.written
  | t :: ts => t.written ++ [.char ',', .char ' '] ++ writtenAll ts

end

def plain : Tree → Text
  | .text t => t
  | t => t.written

def kind : Tree → Text
  | .node _ _ _ => Text.ofString "SyntaxNode"
  | .text _ => Text.ofString "str"
  | .other kind _ => kind

end Tree

mutual

def Expr.toTree : Expr → Tree
  | .tag n p => .node .tag [.text p] n
  | .comparison n t op v => .node .comparison [.text t, .text op.symbol, .text v] n
  | .bookmark n name => .node .bookmark [.text name] n
  | .not n e => .node .not [e.toTree] n
  | .and n es => .node .and (Expr.toTrees es) n
  | .or n es => .node .or (Expr.toTrees es) n

def Expr.toTrees : List Expr → List Tree
  | [] => []
  | e :: es => e.toTree :: Expr.toTrees es

end

end FileTags

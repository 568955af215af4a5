import FileTags.Filter.Compile

/-!
# Steps of compilation

While a term is compiled one can be told of the terms that are looked at and of the bookmarks that
are replaced. The steps end at the first error. They are those of `Filter.ofTerm`, which visits the
leaves of a term from left to right.
-/

set_option autoImplicit false

namespace FileTags

inductive CompileStep
  | compiling (term : Text)
  | expanded (name term : Text)
  deriving DecidableEq, Repr

def CompileStep.message : CompileStep → Text
  | .compiling term => Text.ofString "Compiling search term: " ++ Text.quoted term
  | .expanded name term =>
    Text.ofString "Expanded bookmark " ++ Text.quoted name ++ Text.ofString " to " ++
      Text.quoted term

structure Trace where
  steps : List CompileStep
  succeeded : Bool

namespace Trace

def failed : Trace := ⟨[], false⟩

def done : Trace := ⟨[], true⟩

def behind (steps : List CompileStep) (t : Trace) : Trace := ⟨steps ++ t.steps, t.succeeded⟩

def andThen (t u : Trace) : Trace := if t.succeeded then u.behind t.steps else t

end Trace

namespace Filter

def leafTrace (bookmark : Text → Trace) (rule : Rule) (children : List Tree) : Trace :=
  match rule, children with
  | .bookmark, name :: _ => bookmark name.plain
  | rule, children =>
    match ofLeaf (fun _ => .error .missingPart) rule children with
    | .ok _ => .done
    | .error _ => .failed

mutual

def treeTrace (bookmark : Text → Trace) : Tree → Trace
  | .node rule children _ =>
    match Connective.ofRule? rule with
    | none => leafTrace bookmark rule children
    | some _ => treesTrace bookmark children
  | _ => .failed

def treesTrace (bookmark : Text → Trace) : List Tree → Trace
  | [] => .done
  | t :: ts => (treeTrace bookmark t).andThen (treesTrace bookmark ts)

end

def bookmarkTrace (resolve : Option Resolver) (next : List Text → Text → Trace)
    (expanding : List Text) (name : Text) : Trace :=
  match resolve with
  | none => .failed
  | some lookUp =>
    if expanding.contains name then .failed
    else
      match lookUp name with
      | .ok term => (next (name :: expanding) term).behind [.expanded name term]
      | .error _ => .failed

def termTrace (resolve : Option Resolver) (next : List Text → Text → Trace) (expanding : List Text)
    (term : Text) : Trace :=
  Trace.behind [.compiling term] <|
    match Expr.ofTerm term with
    | .ok e => treeTrace (bookmarkTrace resolve next expanding) e.toTree
    | .error _ => .failed

def traceAt (resolve : Option Resolver) : Nat → List Text → Text → Trace
  | 0 => termTrace resolve fun _ _ => .failed
  | depth + 1 => termTrace resolve (traceAt resolve depth)

def trace (resolve : Option Resolver) (term : Text) : List CompileStep :=
  (traceAt resolve depthLimit [] term).steps

end Filter

end FileTags

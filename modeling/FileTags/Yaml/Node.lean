import FileTags.Yaml.Kind

/-!
# Nodes of YAML

A document is a tree of nodes, each of a kind. Aliases are replaced by the nodes that they refer to;
an alias inside its own node is left as a cycle. Keys of the kind `merge` bring in the entries of
other maps, in front of the map's own.
-/

set_option autoImplicit false

namespace FileTags.Yaml

inductive Node
  | scalar (kind : Kind) (value : Text)
  | sequence (kind : Kind) (items : List Node)
  | mapping (kind : Kind) (entries : List (Node × Node))
  | cycle (isMapping : Bool)

namespace Node

def kind : Node → Kind
  | scalar k _ => k
  | sequence k _ => k
  | mapping k _ => k
  | cycle isMapping => if isMapping then .map else .sequence

def withKind (k : Kind) : Node → Node
  | scalar _ value => scalar k value
  | sequence _ items => sequence k items
  | mapping _ entries => mapping k entries
  | cycle isMapping => cycle isMapping

def empty : Node := scalar .null []

def isCollection (n : Node) : Bool :=
  match n.kind with
  | .sequence | .map | .set | .orderedMap | .pairs => true
  | _ => false

def text? : Nat → Node → Option Text
  | _, scalar _ value => some value
  | fuel + 1, mapping _ entries =>
    match entries.find? fun e => e.1.kind == .default with
    | some e => text? fuel e.2
    | none => none
  | _, _ => none

/-- The entries of a map behind those that its merge keys bring in; `none` when such a key has no
maps. -/
def merged? : Nat → List (Node × Node) → Option (List (Node × Node))
  | 0, _ => none
  | fuel + 1, entries => do
    let source? : Node → Option (List (Node × Node))
      | mapping _ es => merged? fuel es
      | cycle _ => some []
      | _ => none
    let sources? : Node → Option (List (Node × Node))
      | sequence _ items => do return (← items.mapM source?).reverse.flatten
      | n => source? n
    let brought ← (entries.filter fun e => e.1.kind == .merge).mapM fun e => sources? e.2
    let own := (entries.filter fun e => e.1.kind != .merge).map fun e =>
      if e.1.kind == .default then (e.1.withKind .text, e.2) else e
    return brought.flatten ++ own

end Node

end FileTags.Yaml

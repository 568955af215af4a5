import FileTags.Yaml.Node
import FileTags.Yaml.Layout

/-!
# Documents of YAML

A text holds one document, or none. Its tokens are read into a node by recursive descent. An empty
place where a node is due counts as an empty scalar. The number that the readers take first bounds
their calls; four for each token are enough.
-/

set_option autoImplicit false

namespace FileTags.Yaml

/-- The tokens ahead, the meaning of handles, and the nodes that anchors have named so far. -/
structure Reader where
  tokens : List Token
  handles : List (Text × Text)
  anchors : List (Text × Node)

abbrev Reading := StateT Reader (Except YamlFault)

/-- Where a node stands: between brackets, in a block, or as part of an entry, where items need no
indentation of their own. -/
inductive Place
  | flow
  | block
  | entry
  deriving DecidableEq, Repr

namespace Reader

def defaultHandles : List (Text × Text) := [(['!'], ['!']), (['!', '!'], Kind.namespaceText)]

def ofTokens (tokens : List Token) : Reader := ⟨tokens, defaultHandles, []⟩

def fail {α : Type} : Reading α := throw .malformed

def peek : Reading Token := do
  match (← get).tokens with
  | [] => fail
  | .fault e :: _ => throw e
  | t :: _ => return t

def skip : Reading Unit := modify fun r => { r with tokens := r.tokens.tail }

def name (anchor : Option Text) (n : Node) : Reading Unit :=
  match anchor with
  | none => pure ()
  | some a => modify fun r => { r with anchors := (a, n) :: r.anchors }

/-! ## Anchors and tags -/

def fullTag (handle : Option Text) (suffix : Text) : Reading Text := do
  match handle with
  | none => return suffix
  | some h =>
    match (← get).handles.lookup h with
    | some start => return start ++ suffix
    | none => fail

def tag? : Reading (Option (Option Text × Text)) := do
  match ← peek with
  | .tag handle suffix =>
    skip
    return some (handle, suffix)
  | _ => return none

def anchor? : Reading (Option Text) := do
  match ← peek with
  | .anchor a =>
    skip
    return some a
  | _ => return none

def properties : Reading (Option Text × Option Text) := do
  let early ← anchor?
  let tag ← tag?
  let anchor ← if early.isNone && tag.isSome then anchor? else pure early
  match tag with
  | none => return (anchor, none)
  | some (handle, suffix) => return (anchor, some (← fullTag handle suffix))

def isOpen (tag : Option Text) : Bool := tag.isNone || tag == some [.char '!']

def collectionKind (own : Kind) (tag : Option Text) : Kind :=
  if isOpen tag then own else Kind.ofTag (tag.getD [])

def scalarKind (s : Scalar) (tag : Option Text) : Kind :=
  match tag with
  | none => if s.plain then Kind.ofPlain s.value else .text
  | some t => if t == [.char '!'] then Kind.ofPlain s.value else Kind.ofTag t

def checkAnchor (anchor : Option Text) : Reading Unit := do
  match anchor with
  | none => return ()
  | some a => if ((← get).anchors.lookup a).isSome then fail else return ()

def aliased (a : Text) : Reading Node := do
  match (← get).anchors.lookup a with
  | some n => return n
  | none => fail

/-! ## Nodes -/

mutual

def node (place : Place) : Nat → Reading Node
  | 0 => fail
  | fuel + 1 => do
    match ← peek with
    | .alias a =>
      skip
      aliased a
    | _ =>
      let (anchor, tag) ← properties
      let token ← peek
      checkAnchor anchor
      let items (read : Reading (List Node)) : Reading Node := do
        name anchor (.cycle false)
        let n := Node.sequence (collectionKind .sequence tag) (← read)
        name anchor n
        return n
      let entries (read : Reading (List (Node × Node))) : Reading Node := do
        name anchor (.cycle true)
        let n := Node.mapping (collectionKind .map tag) (← read)
        name anchor n
        return n
      let scalar (s : Scalar) : Reading Node := do
        let n := Node.scalar (scalarKind s tag) s.value
        name anchor n
        return n
      match token, place with
      | .scalar s, _ => do
        skip
        scalar s
      | .flowSequenceStart, _ => do
        skip
        items (flowItems true fuel)
      | .flowMappingStart, _ => do
        skip
        entries (flowEntries true fuel)
      | .blockEntry, .entry => items (entryItems fuel)
      | .blockSequenceStart, .block | .blockSequenceStart, .entry => do
        skip
        items (blockItems fuel)
      | .blockMappingStart, .block | .blockMappingStart, .entry => do
        skip
        entries (blockEntries fuel)
      | _, _ => if anchor.isSome || tag.isSome then scalar ⟨[], true⟩ else fail

def nodeUnless (stops : List Token) (place : Place) : Nat → Reading Node
  | 0 => fail
  | fuel + 1 => do
    if stops.contains (← peek) then return Node.empty else node place fuel

def valueUnless (stops : List Token) (place : Place) : Nat → Reading Node
  | 0 => fail
  | fuel + 1 => do
    if (← peek) = .value then
      skip
      nodeUnless stops place fuel
    else return Node.empty

def blockItems : Nat → Reading (List Node)
  | 0 => fail
  | fuel + 1 => do
    match ← peek with
    | .blockEntry =>
      skip
      let item ← nodeUnless [.blockEntry, .blockEnd] .block fuel
      return item :: (← blockItems fuel)
    | .blockEnd =>
      skip
      return []
    | _ => fail

def entryItems : Nat → Reading (List Node)
  | 0 => fail
  | fuel + 1 => do
    match ← peek with
    | .blockEntry =>
      skip
      let item ← nodeUnless [.blockEntry, .key, .value, .blockEnd] .block fuel
      return item :: (← entryItems fuel)
    | _ => return []

def blockEntries : Nat → Reading (List (Node × Node))
  | 0 => fail
  | fuel + 1 => do
    match ← peek with
    | .key =>
      skip
      let key ← nodeUnless [.key, .value, .blockEnd] .entry fuel
      let value ← valueUnless [.key, .value, .blockEnd] .entry fuel
      return (key, value) :: (← blockEntries fuel)
    | .blockEnd =>
      skip
      return []
    | _ => fail

/-- A key with its sign, and the value behind it, before one of the tokens that end an entry. -/
def flowEntry (stops : List Token) : Nat → Reading (Node × Node)
  | 0 => fail
  | fuel + 1 => do
    skip
    let key ← nodeUnless (.value :: stops) .flow fuel
    let value ← valueUnless stops .flow fuel
    return (key, value)

def flowItems (first : Bool) : Nat → Reading (List Node)
  | 0 => fail
  | fuel + 1 => do
    if (← peek) = .flowSequenceEnd then
      skip
      return []
    else
      if !first then
        if (← peek) = .flowEntry then skip else fail
      match ← peek with
      | .flowSequenceEnd =>
        skip
        return []
      | .key =>
        let entry ← flowEntry [.flowEntry, .flowSequenceEnd] fuel
        return .mapping .map [entry] :: (← flowItems false fuel)
      | _ =>
        let item ← node .flow fuel
        return item :: (← flowItems false fuel)

def flowEntries (first : Bool) : Nat → Reading (List (Node × Node))
  | 0 => fail
  | fuel + 1 => do
    if (← peek) = .flowMappingEnd then
      skip
      return []
    else
      if !first then
        if (← peek) = .flowEntry then skip else fail
      match ← peek with
      | .flowMappingEnd =>
        skip
        return []
      | .key =>
        let entry ← flowEntry [.flowEntry, .flowMappingEnd] fuel
        return entry :: (← flowEntries false fuel)
      | _ =>
        let key ← node .flow fuel
        return (key, Node.empty) :: (← flowEntries false fuel)

end

/-! ## Documents -/

/-- Reads directives. The version must be 1 and stand once; a handle is given one meaning only. -/
def directives : Nat → Bool → List (Text × Text) → Reading Unit
  | 0, _, _ => fail
  | fuel + 1, versioned, handles => do
    match ← peek with
    | .version major =>
      skip
      if versioned || major != 1 then fail else directives fuel true handles
    | .tagHandle handle start =>
      skip
      if (handles.lookup handle).isSome then fail
      else directives fuel versioned ((handle, start) :: handles)
    | .otherDirective =>
      skip
      directives fuel versioned handles
    | _ => modify fun r => { r with handles := handles ++ defaultHandles }

def isBetween : Token → Bool
  | .version _ | .tagHandle _ _ | .otherDirective | .documentStart => true
  | _ => false

def document (fuel : Nat) : Reading (Option Node) := do
  let first ← peek
  if first = .streamEnd then return none
  else if isBetween first then
    directives fuel false []
    if (← peek) = .documentStart then
      skip
      let next ← peek
      if isBetween next || next = .documentEnd || next = .streamEnd then return some Node.empty
      else return some (← node .block fuel)
    else fail
  else return some (← node .block fuel)

def ending : Nat → Reading Unit
  | 0 => fail
  | fuel + 1 => do
    match ← peek with
    | .streamEnd => return ()
    | .documentEnd =>
      skip
      ending fuel
    | _ =>
      directives fuel false []
      discard peek
      fail

end Reader

def Node.ofTokens? (tokens : List Token) : Except YamlFault (Option Node) :=
  let fuel := 4 * (tokens.length + 1)
  let reading : Reading (Option Node) := do
    let n ← Reader.document fuel
    Reader.ending fuel
    return n
  (reading.run (Reader.ofTokens tokens)).map Prod.fst

end FileTags.Yaml

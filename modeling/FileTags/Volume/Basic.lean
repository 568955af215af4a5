import FileTags.Volume.Fault
import FileTags.Volume.Path

/-!
# Volumes

A volume is a tree of folders, files and symbolic links, with a table of attributes beside it. Names
and the targets of links are bytes. A place is the list of names that lead there, innermost first.
Paths are followed name by name, through at most forty links.
-/

set_option autoImplicit false

namespace FileTags

abbrev Place := List Blob

inductive Node
  | folder
  | file (content : Blob)
  | link (target : Blob)
  deriving DecidableEq, Repr

inductive AttributeCall
  | get
  | set
  | remove
  deriving DecidableEq, Repr

structure Volume where
  nodes : List (Place × Node)
  /-- The attributes of a place by their names. -/
  attributes : List ((Place × Text) × Blob)
  /-- Calls on a place that fail, whatever is there. -/
  faults : List ((Place × AttributeCall) × SystemError)
  /-- Whether there are attributes at all. -/
  hasAttributes : Bool
  /-- Where relative paths start. -/
  work : Place

/-- The last step of a path: a name in a folder, or a folder itself. -/
structure Slot where
  folder : Place
  name : Option Blob
  deriving DecidableEq, Repr

namespace Volume

def node? (v : Volume) (p : Place) : Option Node :=
  if p = [] then some .folder else v.nodes.lookup p

def isFolder (v : Volume) (p : Place) : Bool := v.node? p == some .folder

def nameLimit : Nat := 255

def pathLimit : Nat := 4095

def linkLimit : Nat := 40

def slash : UInt8 := 47

def dot : Blob := [46]

def dots : Blob := [46, 46]

/-- The names of a path in order. A slash at the end asks for a folder, as a dot does. -/
def stepsOf (path : Blob) : List Blob :=
  let names := (Text.split slash path).filter fun name => !name.isEmpty
  if path.getLast? = some slash ∧ names ≠ [] then names ++ [dot] else names

def workPath (v : Volume) : Path := ⟨1, v.work.reverse.map Text.ofBytes⟩

def rootOf (here : Place) (path : Blob) : Place := if path.head? = some slash then [] else here

/-- Follows names from a place; `next` goes on behind a link, from where it starts with the names it
leads through. -/
def followWith (v : Volume) (next : Place → List Blob → Except SystemError Place) (here : Place) :
    List Blob → Except SystemError Place
  | [] => .ok here
  | name :: rest =>
    if !v.isFolder here then .error .notDirectory
    else if name = dot then v.followWith next here rest
    else if name = dots then v.followWith next here.tail rest
    else if name.length > nameLimit then .error .nameTooLong
    else
      match v.node? (name :: here) with
      | none => .error .noEntry
      | some (.link target) => next (rootOf here target) (stepsOf target ++ rest)
      | some _ => v.followWith next (name :: here) rest

def follow (v : Volume) : Nat → Place → List Blob → Except SystemError Place
  | 0 => v.followWith fun _ _ => .error .loop
  | links + 1 => v.followWith (v.follow links)

def checkPath (path : Blob) : Except SystemError Unit :=
  if path = [] then .error .noEntry else if path.length > pathLimit then .error .nameTooLong
  else .ok ()

def place (v : Volume) (path : Blob) : Except SystemError Place := do
  checkPath path
  v.follow linkLimit (rootOf v.work path) (stepsOf path)

def slot (v : Volume) (path : Blob) : Except SystemError Slot := do
  checkPath path
  let steps := stepsOf path
  let folder ← v.follow linkLimit (rootOf v.work path) steps.dropLast
  match steps.getLast? with
  | none => return ⟨folder, none⟩
  | some name =>
    if !v.isFolder folder then .error .notDirectory
    else if name = dot then return ⟨folder, none⟩
    else if name = dots then return ⟨folder.tail, none⟩
    else if name.length > nameLimit then .error .nameTooLong
    else return ⟨folder, some name⟩

def located {α : Type} (path : Text) (lookup : Blob → Except SystemError α) :
    Except VolumeFault α :=
  match Text.unfit? path with
  | some e => .error (.unfit e)
  | none => (lookup (Utf8.bytes path)).mapError fun e => .system e path none

def status (v : Volume) (path : Text) : Except VolumeFault Node :=
  located path fun b => do return (v.node? (← v.place b)).getD .folder

def meansAbsent (e : SystemError) : Bool :=
  e.number == 2 || e.number == 20 || e.number == 9 || e.number == 40

/-- Asks a question about what stands at a path; where nothing is there the answer is no. -/
def asks (lookup : Except VolumeFault Bool) : Except VolumeFault Bool :=
  match lookup with
  | .error (.unfit _) => .ok false
  | .error (.system e path second) =>
    if meansAbsent e then .ok false else .error (.system e path second)
  | .ok b => .ok b

def exists? (v : Volume) (path : Text) : Except VolumeFault Bool :=
  asks ((v.status path).map fun _ => true)

def isFile? (v : Volume) (path : Text) : Except VolumeFault Bool :=
  asks ((v.status path).map fun n => n matches .file _)

def isFolder? (v : Volume) (path : Text) : Except VolumeFault Bool :=
  asks ((v.status path).map fun n => n matches .folder)

def atSlot? (v : Volume) (s : Slot) : Option Node :=
  match s.name with
  | none => some .folder
  | some name => v.node? (name :: s.folder)

def isLink? (v : Volume) (path : Text) : Except VolumeFault Bool :=
  asks <| located path fun b => do
    match v.atSlot? (← v.slot b) with
    | none => .error .noEntry
    | some n => return n matches .link _

def readLink (v : Volume) (path : Text) : Except VolumeFault Text :=
  located path fun b => do
    match v.atSlot? (← v.slot b) with
    | none => .error .noEntry
    | some (.link target) => return Text.ofBytes target
    | some _ => .error .invalid

def readFile (v : Volume) (path : Text) : Except VolumeFault Blob :=
  located path fun b => do
    match v.node? (← v.place b) with
    | some (.file content) => return content
    | _ => .error .isDirectory

def children (v : Volume) (folder : Place) : List (Blob × Node) :=
  v.nodes.filterMap fun e =>
    match e.1 with
    | name :: above => if above = folder then some (name, e.2) else none
    | [] => none

def list (v : Volume) (path : Text) : Except VolumeFault (List (Text × Node)) :=
  located path fun b => do
    let p ← v.place b
    if v.isFolder p then return (v.children p).map fun e => (Text.ofBytes e.1, e.2)
    else .error .notDirectory

/-! ## Changes -/

def create (v : Volume) (s : Slot) (n : Node) : Except SystemError Volume :=
  match s.name, v.atSlot? s with
  | some name, none => .ok { v with nodes := v.nodes ++ [(name :: s.folder, n)] }
  | _, _ => .error .alreadyThere

def makeFolder (v : Volume) (path : Text) : Except VolumeFault Volume :=
  located path fun b => do v.create (← v.slot b) .folder

def makeLink (v : Volume) (target path : Text) : Except VolumeFault Volume :=
  match Text.unfit? target, Text.unfit? path with
  | some e, _ => .error (.unfit e)
  | none, some e => .error (.unfit e)
  | none, none =>
    (do
      checkPath (Utf8.bytes target)
      v.create (← v.slot (Utf8.bytes path)) (.link (Utf8.bytes target)) :
        Except SystemError Volume).mapError
        fun e => .system e target (some path)

def removeLink (v : Volume) (path : Text) : Except VolumeFault Volume :=
  located path fun b => do
    let s ← v.slot b
    match s.name, v.atSlot? s with
    | some name, some (.link _) =>
      return { v with nodes := v.nodes.filter fun e => e.1 != name :: s.folder }
    | _, none => .error .noEntry
    | _, some _ => .error .isDirectory

/-- What a folder that could not be made means for one who wants it there: nothing, if there is
one. -/
def tolerate (v : Volume) (path : Text) (e : VolumeFault) : Except VolumeFault Unit :=
  if e.isAbsence || e.isUnfit then .error e
  else do if ← v.isFolder? path then return () else .error e

/-- Makes a folder where none is; `above` makes what is missing above it. What has been made stays
when a later step fails. -/
def ensureWith (above : Volume → Except VolumeFault Unit × Volume) (p : Path) (v : Volume) :
    Except VolumeFault Unit × Volume :=
  match v.makeFolder p.text with
  | .ok made => (.ok (), made)
  | .error e =>
    if e.isAbsence && !p.names.isEmpty then
      match above v with
      | (.error e, v) => (.error e, v)
      | (.ok (), v) =>
        match v.makeFolder p.text with
        | .ok made => (.ok (), made)
        | .error e => (v.tolerate p.text e, v)
    else (v.tolerate p.text e, v)

def ensureAbove (slashes : Nat) : List Text → Volume → Except VolumeFault Unit × Volume
  | [] => ensureWith (fun v => (.ok (), v)) ⟨slashes, []⟩
  | name :: above => ensureWith (ensureAbove slashes above) ⟨slashes, (name :: above).reverse⟩

def ensureFolder (p : Path) : Volume → Except VolumeFault Unit × Volume :=
  ensureAbove p.slashes p.names.reverse

end Volume

end FileTags

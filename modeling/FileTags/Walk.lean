import FileTags.Filter.Message
import FileTags.Session
import FileTags.Settings.Basic
import FileTags.TagMap.Store
import FileTags.TaggedFile

/-!
# Walking folders

A walk starts at some roots. It first lists the files, and then reads the tags of each and tests
them with a filter. A root that is a file is listed itself; a folder is listed with all that is
below it and not left out by the settings. Files whose tags cannot be read are counted and told of,
and the others are found all the same.
-/

set_option autoImplicit false

namespace FileTags

structure WalkStats where
  scanned : Nat
  matched : Nat
  folders : Nat
  ignored : Nat
  errors : Nat
  deriving DecidableEq, Repr

namespace WalkStats

def zero : WalkStats := ⟨0, 0, 0, 0, 0⟩

def add (a b : WalkStats) : WalkStats :=
  ⟨a.scanned + b.scanned, a.matched + b.matched, a.folders + b.folders, a.ignored + b.ignored,
    a.errors + b.errors⟩

instance : Add WalkStats := ⟨add⟩

end WalkStats

structure Listing where
  files : List Path
  folders : Nat
  ignored : Nat
  missing : Nat
  notes : List Note

namespace Listing

def empty : Listing := ⟨[], 0, 0, 0, []⟩

def append (a b : Listing) : Listing :=
  ⟨a.files ++ b.files, a.folders + b.folders, a.ignored + b.ignored, a.missing + b.missing,
    a.notes ++ b.notes⟩

instance : Append Listing := ⟨append⟩

def join (ls : List Listing) : Listing := ls.foldr append empty

def stats (l : Listing) : WalkStats := ⟨0, 0, l.folders, l.ignored, l.missing⟩

end Listing

inductive WalkFault
  /-- It cannot be told whether a root is there. -/
  | badLookup (e : VolumeFault)
  /-- A value is too long to be compared. -/
  | tooManyDigits (e : Text.TooManyDigits)
  /-- A path that does not show. -/
  | badPath (e : FieldIssue)
  deriving DecidableEq, Repr

def WalkFault.message : WalkFault → Text
  | .badLookup e => e.message
  | .tooManyDigits e => Text.ofString e.message
  | .badPath e => e.remark?.getD []

namespace Walk

/-! ## Listing files -/

def ignoring (name : Text) : Note := ⟨.debug, Text.ofString "Ignoring " ++ name⟩

def below (folder name : Text) : Text :=
  if folder.getLast? = some (.char '/') then folder ++ name else folder ++ .char '/' :: name

def leadsToFolder (v : Volume) (folder : Text) (e : Text × Node) : Bool :=
  match e.2 with
  | .folder => true
  | .file _ => false
  | .link _ =>
    match v.isFolder? (below folder e.1) with
    | .ok b => b
    | .error _ => false

def isEntered (s : Settings) (e : Text × Node) : Bool :=
  s.recursive && !s.ignores e.1 && (s.followLinks || !(e.2 matches .link _))

def listEntries (s : Settings) (folder : Text) (folders others : List Text) : Listing :=
  let names := others.mergeSort Text.le
  let left := names.filter s.ignores
  let skipped := if s.recursive then folders.filter s.ignores else []
  ⟨(names.filter fun name => !s.ignores name).map fun name =>
    Path.ofText folder ++ Path.ofText name, 1, left.length, 0,
    (skipped ++ left).map ignoring⟩

/-- Lists a folder, and folders below it to a depth. A folder that cannot be read is passed over. -/
def listFolder (s : Settings) (v : Volume) : Nat → Text → Listing
  | 0, _ => .empty
  | depth + 1, folder =>
    match v.list folder with
    | .error _ => .empty
    | .ok entries =>
      let folders := entries.filter (leadsToFolder v folder)
      let others := entries.filter fun e => !leadsToFolder v folder e
      listEntries s folder (folders.map Prod.fst) (others.map Prod.fst) ++
        Listing.join ((folders.filter (isEntered s)).map fun e =>
          listFolder s v depth (below folder e.1))

/-- Paths are limited in length, and so the depth of folders is. -/
def depthLimit : Nat := Volume.pathLimit + 1

def listRoot (s : Settings) (v : Volume) (root : Text) : Except VolumeFault Listing := do
  let p := Path.ofText root
  if ← v.exists? p.text then
    if ← v.isFile? p.text then return ⟨[p], 0, 0, 0, []⟩
    else
      let walking : Note := ⟨.info, Text.ofString "Walking directory tree: " ++ p.text⟩
      return ⟨[], 0, 0, 0, [walking]⟩ ++ listFolder s v depthLimit p.text
  else return ⟨[], 0, 0, 1, [⟨.warning, Text.ofString "Root path does not exist: " ++ p.text⟩]⟩

def listRoots (s : Settings) (v : Volume) : List Text → Listing × Option VolumeFault
  | [] => (.empty, none)
  | root :: roots =>
    match listRoot s v root with
    | .error e => (.empty, some e)
    | .ok l =>
      let (rest, fault) := listRoots s v roots
      (l ++ rest, fault)

/-! ## Testing files -/

inductive Outcome
  | found (file : TaggedFile)
  | rejected
  | unread (e : TagFault)
  | stopped (e : WalkFault)
  deriving DecidableEq, Repr

def test (s : Settings) (v : Volume) (filter : Option Filter) (p : Path) : Outcome :=
  match v.tags s.tagAttribute p.text with
  | .error e => .unread e
  | .ok m =>
    match (filter.map fun f => f.evaluate m).getD (.ok true) with
    | .error e => .stopped (.tooManyDigits e)
    | .ok false => .rejected
    | .ok true =>
      match TaggedFile.ofPath v.workPath p.text m with
      | .ok file => .found file
      | .error e => .stopped (.badPath e)

def unreadNotes (tested : List (Path × Outcome)) : List Note :=
  tested.filterMap fun t =>
    match t.2 with
    | .unread e =>
      some ⟨.warning,
        Text.ofString "Error reading tags of " ++ t.1.text ++ .char ':' :: .char ' ' :: e.message⟩
    | _ => none

structure Result where
  files : List TaggedFile
  stats : WalkStats
  notes : List Note
  fault : Option WalkFault

def collect : List Outcome → List TaggedFile × WalkStats × Option WalkFault
  | [] => ([], .zero, none)
  | .stopped e :: _ => ([], .zero, some e)
  | .found file :: rest =>
    let (files, stats, fault) := collect rest
    (file :: files, ⟨1, 1, 0, 0, 0⟩ + stats, fault)
  | .rejected :: rest =>
    let (files, stats, fault) := collect rest
    (files, ⟨1, 0, 0, 0, 0⟩ + stats, fault)
  | .unread _ :: rest =>
    let (files, stats, fault) := collect rest
    (files, ⟨1, 0, 0, 0, 1⟩ + stats, fault)

def run (s : Settings) (v : Volume) (filter : Option Filter) (roots : List Text) : Result :=
  let (listing, fault) := listRoots s v roots
  let tested := listing.files.map fun p => (p, test s v filter p)
  let notes := listing.notes ++ unreadNotes tested
  match fault with
  | some e => ⟨[], listing.stats, notes, some (.badLookup e)⟩
  | none =>
    let (files, stats, fault) := collect (tested.map Prod.snd)
    ⟨files, listing.stats + stats, notes, fault⟩

end Walk

end FileTags

import FileTags.Filter.Message
import FileTags.Filter.Trace
import FileTags.Session

/-!
# Bookmarks

A bookmark is a symbolic link whose target is a search term; nothing has to be at the target. The
bookmarks of a folder stand for their terms in other terms. A term is saved only if it compiles.
-/

set_option autoImplicit false

namespace FileTags

namespace Volume

/-- The term that a link stands for. A target that is no text shows halves, and is no term. -/
def bookmarkTerm (v : Volume) (path : Text) : Except CompileError Text :=
  match v.readLink path with
  | .ok term => if Text.isWhole term then .ok term else .error (.bookmark (.notText path))
  | .error (.unfit e) => .error (.unfit e)
  | .error e => .error (.bookmark (.unreadable path e))

end Volume

structure BookmarkFolder where
  path : Path
  deriving DecidableEq, Repr

namespace BookmarkFolder

def ofPath (homes : Homes) (p : Path) : Except NoHome BookmarkFolder := (p.expandUser homes).map .mk

/-- The path of a bookmark. A name that is an absolute path is used as it is. -/
def pathFor (b : BookmarkFolder) (name : Text) : Path := b.path ++ Path.ofText name

def resolve (b : BookmarkFolder) (v : Volume) (name : Text) : Except CompileError Text :=
  v.bookmarkTerm (b.pathFor name).text

def compile (b : BookmarkFolder) (v : Volume) (term : Text) : Except CompileError Filter :=
  Filter.ofTerm (some (b.resolve v)) term

def compileNoted (b : BookmarkFolder) (term : Text) : Action CompileError Filter := do
  let v := (← get).volume
  Action.noteAll ((Filter.trace (some (b.resolve v)) term).map fun step => ⟨.debug, step.message⟩)
  ofExcept (b.compile v term)

def writeFault (link : Text) : VolumeFault → CompileError
  | .unfit e => .unfit e
  | e => .bookmark (.unwritable link e)

/-- Puts a link to a term at a path, in the place of a link that is there. A link that has been
taken away stays away when the new one cannot be made. -/
def putLink (link term : Text) (v : Volume) : Except VolumeFault Unit × Volume :=
  match v.isLink? link with
  | .error e => (.error e, v)
  | .ok isLink =>
    match if isLink then v.removeLink link else .ok v with
    | .error e => (.error e, v)
    | .ok cleared =>
      match cleared.makeLink term link with
      | .error e => (.error e, cleared)
      | .ok made => (.ok (), made)

def writeLink (link : Path) (term : Text) (v : Volume) : Except VolumeFault Unit × Volume :=
  match v.ensureFolder link.parent with
  | (.error e, v) => (.error e, v)
  | (.ok (), v) => putLink link.text term v

def save (b : BookmarkFolder) (name term : Text) : Action CompileError Path := do
  discard (b.compileNoted term)
  let link := b.pathFor name
  Action.advance fun v =>
    let (outcome, v) := writeLink link term v
    (outcome.mapError (writeFault link.text), v)
  Action.note .info (Text.ofString "Saved bookmark " ++ Text.quoted name ++ Text.ofString " -> " ++
    Text.quoted term)
  return link

end BookmarkFolder

inductive BookmarkError
  | noHome (e : NoHome)
  | compile (e : CompileError)
  deriving DecidableEq, Repr

def Volume.bookmark (homes : Homes) (v : Volume) (p : Path) : Except BookmarkError Filter := do
  let term ← (v.bookmarkTerm p.text).mapError .compile
  let folder ← (BookmarkFolder.ofPath homes p.parent).mapError .noHome
  (folder.compile v term).mapError .compile

end FileTags

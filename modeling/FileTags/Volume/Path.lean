import FileTags.Text.Blank
import FileTags.Text.Split
import FileTags.Text.System

/-!
# Paths

A path is kept as the slashes it starts with and its names. Empty names and single dots are dropped
when a path is read; double dots stay. Two slashes in front are kept, any other number is one.
-/

set_option autoImplicit false

namespace FileTags

/-- The folders of the users of a machine: one's own, and those of others by name. -/
structure Homes where
  own : Text
  others : List (Blob × Text)

/-- A path starts with the name of a user that does not exist, or that nobody can have. -/
inductive NoHome
  | unknown
  | unfit (e : UnfitText)
  deriving DecidableEq, Repr

def NoHome.message : NoHome → Text
  | .unknown => Text.ofString "Could not determine home directory."
  | .unfit e => e.message

structure Path where
  slashes : Nat
  names : List Text
  deriving DecidableEq, Repr

namespace Path

def isName (name : Text) : Bool := !name.isEmpty && name != [.char '.']

def ofText (t : Text) : Path :=
  let count := (t.takeWhile (· == .char '/')).length
  ⟨if count > 2 then 1 else count, (Text.split (.char '/') t).filter isName⟩

def isAbsolute (p : Path) : Bool := p.slashes != 0

def text (p : Path) : Text :=
  if p.slashes = 0 ∧ p.names = [] then [.char '.']
  else List.replicate p.slashes (.char '/') ++ Text.join [.char '/'] p.names

def append (p q : Path) : Path := if q.isAbsolute then q else ⟨p.slashes, p.names ++ q.names⟩

instance : Append Path := ⟨append⟩

def parent (p : Path) : Path := ⟨p.slashes, p.names.dropLast⟩

def absolute (p work : Path) : Path := work ++ p

/-- Replaces a first name that starts with a tilde by the folder of the user it names. -/
def expandUser (homes : Homes) (p : Path) : Except NoHome Path :=
  match p.slashes, p.names with
  | 0, ('~' :: user) :: rest =>
    match Text.unfit? user with
    | some e => .error (.unfit e)
    | none =>
      match if user.isEmpty then some homes.own else homes.others.lookup (Utf8.bytes user) with
      | some home => .ok (ofText home ++ ⟨0, rest⟩)
      | none => .error .unknown
  | _, _ => .ok p

end Path

end FileTags

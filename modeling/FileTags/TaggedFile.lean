import FileTags.Field
import FileTags.TagMap.Basic
import FileTags.Volume.Path

/-!
# Tagged files

A tagged file is a file with its tags. It is known by its path from the root, which shows some sign.
-/

set_option autoImplicit false

namespace FileTags

structure TaggedFile where
  path : Text
  tags : TagMap
  deriving DecidableEq, Repr

inductive TaggedFileIssue
  | path (issue : FieldIssue)
  | tags (issue : FieldIssue)
  | value (name : Text) (issue : FieldIssue)
  deriving DecidableEq, Repr

namespace TaggedFile

def checkPath (work : Path) (path : Text) : Except FieldIssue Text :=
  if !Text.isWhole path then .error .badText
  else if path.isEmpty then .error .emptyText
  else if (Text.strip path).isEmpty then .error .blankPath
  else .ok ((Path.ofText path).absolute work).text

def ofPath (work : Path) (path : Text) (m : TagMap) : Except FieldIssue TaggedFile := do
  return ⟨← checkPath work path, m⟩

def checkValue (d : Datum) : Except FieldIssue (Option Text) :=
  match d with
  | .null => .ok none
  | d => some <$> d.readText

def readEntries : List (Datum × Datum) → List (Text × Option Text) × List TaggedFileIssue
  | [] => ([], [])
  | (.text name, d) :: rest =>
    let (tags, issues) := readEntries rest
    match checkValue d with
    | .ok value => ((name, value) :: tags, issues)
    | .error e => (tags, .value name e :: issues)
  | _ :: rest => readEntries rest

def readTags (d : Datum) : Except (List TaggedFileIssue) TagMap :=
  match d with
  | .map entries =>
    let (tags, issues) := readEntries entries
    if issues.isEmpty then .ok (TagMap.ofList tags) else .error issues
  | _ => .error [.tags .notMap]

def ofData (work : Path) (path tags : Datum) : Except (List TaggedFileIssue) TaggedFile :=
  match path.readText.bind (checkPath work), readTags tags with
  | .ok p, .ok m => .ok ⟨p, m⟩
  | .ok _, .error es => .error es
  | .error e, .ok _ => .error [.path e]
  | .error e, .error es => .error (.path e :: es)

end TaggedFile

end FileTags

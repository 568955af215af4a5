import FileTags.Datum

/-!
# Fields

The fields of what is made from data have a kind each. A value of another kind is an issue; some
issues have a remark of their own.
-/

set_option autoImplicit false

namespace FileTags

inductive FieldIssue
  | notText
  | badText
  | emptyText
  | blankAttribute
  | attributeWithoutSpace (name : Text)
  | blankFolder
  | unfit (e : UnfitText)
  | blankPath
  | notInteger
  | badNumeral
  | longNumeral
  | fraction
  | notFinite
  | tooSmall
  | tooLarge
  | notBoolean
  | badBoolean
  | notMap
  deriving DecidableEq, Repr

def FieldIssue.remark? : FieldIssue → Option Text
  | .blankAttribute => some (Text.ofString "Attribute name cannot be empty")
  | .attributeWithoutSpace name =>
    some (Text.ofString "Attribute name must include a namespace such as 'user.': " ++ name)
  | .blankFolder => some (Text.ofString "Bookmark directory cannot be empty")
  | .unfit e => some e.message
  | .blankPath => some (Text.ofString "File path cannot be empty")
  | _ => none

namespace Datum

def readText (d : Datum) : Except FieldIssue Text :=
  match d with
  | .text t => .ok t
  | .bytes b => (Utf8.decode b).mapError fun _ => .badText
  | _ => .error .notText

/-- The text that a datum is, for a field that looks at the text: it cannot have halves. -/
def wholeText (d : Datum) : Except FieldIssue Text := do
  let t ← d.readText
  if Text.isWhole t then return t else .error .badText

end Datum

end FileTags

import FileTags.TagMap.Codec
import FileTags.Volume.Attribute

/-!
# Tags of files

The tags of a file are stored as a tag list in one of its attributes, in UTF-8. A file without the
attribute has no tags.
-/

set_option autoImplicit false

namespace FileTags

inductive TagFault
  | unsupported (path : Text)
  | inaccessible (call : AttributeCall) (path : Text) (e : VolumeFault)
  | notUtf8 (path : Text) (e : Utf8Fault)
  | malformed (e : SyntaxError)
  /-- A path that nothing can have. -/
  | badPath (e : UnfitText)
  /-- Tags with halves, which cannot be stored. -/
  | unencodable (e : EncodeFault)
  deriving DecidableEq, Repr

def AttributeCall.verb : AttributeCall → String
  | .get => "read"
  | .set => "write"
  | .remove => "delete"

namespace TagFault

def message : TagFault → Text
  | .unsupported _ => Text.ofString "Extended attributes are not supported on this platform"
  | .inaccessible call path e =>
    Text.ofString s!"Cannot {call.verb} tags of " ++ path ++ .char ':' :: .char ' ' :: e.message
  | .notUtf8 path _ => Text.ofString "Tags of " ++ path ++ Text.ofString " are not valid UTF-8"
  | .malformed e => Text.ofString e.message
  | .badPath e => e.message
  | .unencodable e => e.message

def isForeseen : TagFault → Bool
  | .badPath _ | .unencodable _ => false
  | _ => true

def ofVolume (call : AttributeCall) (path : Text) : VolumeFault → TagFault
  | .unfit e => .badPath e
  | e => .inaccessible call path e

end TagFault

def VolumeFault.isMissingData : VolumeFault → Bool
  | .system e _ _ => e.number == SystemError.noData.number
  | .unfit _ => false

namespace Volume

def requireAttributes (v : Volume) (path : Text) : Except TagFault Unit :=
  if v.hasAttributes then .ok () else .error (.unsupported path)

def readBlob (v : Volume) (name path : Text) : Except TagFault (Option Blob) := do
  v.requireAttributes path
  match v.getAttribute path name with
  | .ok blob => return some blob
  | .error e => if e.isMissingData then return none else .error (.ofVolume .get path e)

def writeBlob (v : Volume) (name path : Text) (blob : Blob) : Except TagFault Volume := do
  v.requireAttributes path
  (v.setAttribute path name blob).mapError (.ofVolume .set path)

def deleteBlob (v : Volume) (name path : Text) : Except TagFault Volume := do
  v.requireAttributes path
  match v.removeAttribute path name with
  | .ok w => return w
  | .error e => if e.isMissingData then return v else .error (.ofVolume .remove path e)

def tagsOfBlob (path : Text) (blob : Blob) : Except TagFault TagMap := do
  let t ← (Utf8.decode blob).mapError (.notUtf8 path)
  (TagMap.decode t).mapError .malformed

def tags (v : Volume) (name path : Text) : Except TagFault TagMap := do
  match ← v.readBlob name path with
  | none => return TagMap.empty
  | some blob => tagsOfBlob path blob

def storeTags (v : Volume) (name path : Text) (m : TagMap) : Except TagFault Volume := do
  let blob ← (Utf8.encode m.encode).mapError .unencodable
  v.writeBlob name path blob

end Volume

end FileTags

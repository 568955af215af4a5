import FileTags.Text.Utf8

/-!
# Texts of the system

The system takes and gives bytes. What it gives is read as UTF-8, where a byte that belongs to no
character is shown as one of the halves from 0xdc80 to 0xdcff; in what it is given such a half is
its byte again. Other halves it cannot be given, and no null character either.
-/

set_option autoImplicit false

namespace FileTags

inductive UnfitText
  | unencodable (e : EncodeFault)
  | embeddedNull
  deriving DecidableEq, Repr

def UnfitText.message : UnfitText → Text
  | .unencodable e => e.message
  | .embeddedNull => Text.ofString "embedded null byte"

namespace Rune

def isStray : Rune → Bool
  | char _ => false
  | half n => n.val < 0x480 || 0x500 ≤ n.val

def ofByte (b : UInt8) : Rune := half ⟨0x400 + b.toNat, by have := b.toNat_lt; omega⟩

end Rune

namespace Text

def unfit? (t : Text) : Option UnfitText :=
  match EncodeFault.find? Rune.isStray 0 t with
  | some e => some (.unencodable e)
  | none => if .char '\x00' ∈ t then some .embeddedNull else none

/-- The bytes as a text; the first `pending` of them belong to a character that has been read. -/
def ofBytesFrom : Nat → Blob → Text
  | _, [] => []
  | pending + 1, _ :: bytes => ofBytesFrom pending bytes
  | 0, b :: bytes =>
    match Utf8.first b bytes with
    | .ok (c, following) => .char c :: ofBytesFrom following bytes
    | .error _ => .ofByte b :: ofBytesFrom 0 bytes

def ofBytes (bytes : Blob) : Text := ofBytesFrom 0 bytes

end Text

end FileTags

import FileTags.Text.Written

/-!
# Texts as bytes

Texts are stored as UTF-8. Writing refuses halves, of which UTF-8 has none. Reading refuses what is
no shortest encoding of a character, and tells where the first fault is, how many bytes it spans and
what kind it has.
-/

set_option autoImplicit false

namespace FileTags

abbrev Blob := List UInt8

inductive Utf8Reason
  | start
  | continuation
  | ending
  deriving DecidableEq, Repr

def Utf8Reason.message : Utf8Reason → String
  | .start => "invalid start byte"
  | .continuation => "invalid continuation byte"
  | .ending => "unexpected end of data"

structure Utf8Fault where
  reason : Utf8Reason
  position : Nat
  length : Nat
  first : UInt8
  deriving DecidableEq, Repr

def Utf8Fault.message (e : Utf8Fault) : Text :=
  let place :=
    if e.length = 1 then Text.ofString "byte 0x" ++ Text.hex 2 e.first.toNat ++
      Text.ofString " in position " ++ Text.ofNat e.position
    else Text.ofString "bytes in position " ++ Text.ofNat e.position ++
      .char '-' :: Text.ofNat (e.position + e.length - 1)
  Text.ofString "'utf-8' codec can't decode " ++ place ++ Text.ofString (": " ++ e.reason.message)

structure EncodeFault where
  first : Rune
  position : Nat
  length : Nat
  deriving DecidableEq, Repr

namespace EncodeFault

def message (e : EncodeFault) : Text :=
  let place :=
    if e.length = 1 then
      Text.ofString " '" ++ Text.escaped e.first.toNat ++ Text.ofString "' in position " ++
        Text.ofNat e.position
    else Text.ofString "s in position " ++ Text.ofNat e.position ++
      .char '-' :: Text.ofNat (e.position + e.length - 1)
  Text.ofString "'utf-8' codec can't encode character" ++ place ++
    Text.ofString ": surrogates not allowed"

def find? (fails : Rune → Bool) : Nat → Text → Option EncodeFault
  | _, [] => none
  | position, c :: rest =>
    if fails c then some ⟨c, position, (rest.takeWhile Rune.isHalf).length + 1⟩
    else find? fails (position + 1) rest

end EncodeFault

namespace Utf8

def continuation (n : Nat) : UInt8 := UInt8.ofNat (128 + n % 64)

def encodeChar (c : Char) : Blob :=
  let n := c.toNat
  if n < 128 then [UInt8.ofNat n]
  else if n < 2048 then [UInt8.ofNat (192 + n / 64), continuation n]
  else if n < 65536 then [UInt8.ofNat (224 + n / 4096), continuation (n / 64), continuation n]
  else [UInt8.ofNat (240 + n / 262144), continuation (n / 4096), continuation (n / 64),
    continuation n]

def runeBytes : Rune → Blob
  | .char c => encodeChar c
  | .half n => [UInt8.ofNat n]

def bytes (t : Text) : Blob := t.flatMap runeBytes

def encode (t : Text) : Except EncodeFault Blob :=
  match EncodeFault.find? Rune.isHalf 0 t with
  | some e => .error e
  | none => .ok (bytes t)

/-- What a first byte announces: its own bits, how many bytes follow, and the bounds of the next
one. -/
structure Lead where
  bits : Nat
  following : Nat
  low : Nat
  high : Nat

def lead? (b : Nat) : Option Lead :=
  if b < 128 then some ⟨b, 0, 128, 191⟩
  else if b < 194 then none
  else if b < 224 then some ⟨b - 192, 1, 128, 191⟩
  else if b = 224 then some ⟨0, 2, 160, 191⟩
  else if b = 237 then some ⟨13, 2, 128, 159⟩
  else if b < 240 then some ⟨b - 224, 2, 128, 191⟩
  else if b = 240 then some ⟨0, 3, 144, 191⟩
  else if b = 244 then some ⟨4, 3, 128, 143⟩
  else if b < 244 then some ⟨b - 240, 3, 128, 191⟩
  else none

/-- The code point that `following` more bytes complete. A fault comes with the number of bytes
before it. -/
def complete (bits following low high taken : Nat) (bytes : Blob) : Except (Utf8Reason × Nat) Nat :=
  match following, bytes with
  | 0, _ => .ok bits
  | _ + 1, [] => .error (.ending, taken)
  | following + 1, b :: bytes =>
    if low ≤ b.toNat ∧ b.toNat ≤ high then
      complete (64 * bits + (b.toNat - 128)) following 128 191 (taken + 1) bytes
    else .error (.continuation, taken)

def first (b : UInt8) (bytes : Blob) : Except (Utf8Reason × Nat) (Char × Nat) :=
  match lead? b.toNat with
  | none => .error (.start, 1)
  | some lead =>
    (complete lead.bits lead.following lead.low lead.high 1 bytes).map fun code =>
      (Char.ofNat code, lead.following)

def decodeFrom (position : Nat) : Nat → Blob → Except Utf8Fault Text
  | _, [] => .ok []
  | pending + 1, _ :: bytes => decodeFrom (position + 1) pending bytes
  | 0, b :: bytes =>
    match first b bytes with
    | .error (reason, length) => .error ⟨reason, position, length, b⟩
    | .ok (c, following) => (decodeFrom (position + 1) following bytes).map (.char c :: ·)

def decode (bytes : Blob) : Except Utf8Fault Text := decodeFrom 0 0 bytes

end Utf8

end FileTags

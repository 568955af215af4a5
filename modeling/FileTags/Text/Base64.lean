import FileTags.Text.Utf8

/-!
# Bytes as letters

Bytes are written in base 64 with four letters for three bytes. Reading passes over all other signs.
It ends where equals signs fill up a group of four, and refuses letters that are left over without
them.
-/

set_option autoImplicit false

namespace FileTags.Base64

def letterValue? (c : Rune) : Option Nat :=
  if 'A' ≤ c && c ≤ 'Z' then some (c.toNat - 65)
  else if 'a' ≤ c && c ≤ 'z' then some (c.toNat - 71)
  else if '0' ≤ c && c ≤ '9' then some (c.toNat + 4)
  else if c = '+' then some 62
  else if c = '/' then some 63
  else none

/-- Reads on within a group: `place` letters of it have been read, `left` is what they say beyond
whole bytes, and `signs` equals signs came last. -/
def decodeFrom (place left signs : Nat) : Text → Option Blob
  | [] => if place = 0 then some [] else none
  | c :: rest =>
    if c = '=' then
      if 2 ≤ place ∧ 4 ≤ place + signs + 1 then some []
      else decodeFrom place left (if 2 ≤ place then signs + 1 else signs) rest
    else
      match letterValue? c, place with
      | none, _ => decodeFrom place left signs rest
      | some n, 0 => decodeFrom 1 n 0 rest
      | some n, 1 => (decodeFrom 2 (n % 16) 0 rest).map (UInt8.ofNat (left * 4 + n / 16) :: ·)
      | some n, 2 => (decodeFrom 3 (n % 4) 0 rest).map (UInt8.ofNat (left * 16 + n / 4) :: ·)
      | some n, _ => (decodeFrom 0 0 0 rest).map (UInt8.ofNat (left * 64 + n) :: ·)

def decode (t : Text) : Option Blob := decodeFrom 0 0 0 t

end FileTags.Base64

/-!
# Runes

The signs that texts are made of. Most are characters. The halves of surrogate pairs are none, but a
half that stands alone is a sign of a text all the same: the texts that a system gives show a byte
that belongs to no character as a half.
-/

set_option autoImplicit false

namespace FileTags

/-- A character, or the half with the code point 0xd800 + n. -/
inductive Rune
  | char (c : Char)
  | half (n : Fin 0x800)
  deriving DecidableEq, Repr

namespace Rune

instance : Coe Char Rune := ⟨char⟩

instance : Inhabited Rune := ⟨' '⟩

def isHalf : Rune → Bool
  | char _ => false
  | half _ => true

def toNat : Rune → Nat
  | char c => c.toNat
  | half n => 0xd800 + n

def ofNat (n : Nat) : Rune :=
  if h : 0xd800 ≤ n ∧ n < 0xe000 then half ⟨n - 0xd800, by omega⟩ else char (Char.ofNat n)

instance : LE Rune := ⟨fun a b => a.toNat ≤ b.toNat⟩

instance : LT Rune := ⟨fun a b => a.toNat < b.toNat⟩

instance (a b : Rune) : Decidable (a ≤ b) := inferInstanceAs (Decidable (a.toNat ≤ b.toNat))

instance (a b : Rune) : Decidable (a < b) := inferInstanceAs (Decidable (a.toNat < b.toNat))

@[simp]
theorem char_le_char {c d : Char} : char c ≤ char d ↔ c ≤ d := Iff.rfl

end Rune

end FileTags

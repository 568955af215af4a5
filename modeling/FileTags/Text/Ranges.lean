import FileTags.Text.Rune

/-!
# Texts and sets of code points

Texts are ordered by their code points. A set of code points is written as an ascending list of
closed ranges. Looking a code point up stops at the first range that lies beyond it.
-/

set_option autoImplicit false

namespace FileTags

/-- Texts are sequences of runes; offsets count runes. -/
abbrev Text := List Rune

namespace Text

def ofString (s : String) : Text := s.toList.map .char

theorem ofString_inj {s t : String} : ofString s = ofString t ↔ s = t := by
  rw [ofString, ofString, List.map_inj_right fun _ _ h => Rune.char.inj h, String.toList_inj]

/-- There are no halves in the text. -/
def isWhole (t : Text) : Bool := t.all fun c => !c.isHalf

@[simp]
theorem isWhole_append {s t : Text} : isWhole (s ++ t) = (isWhole s && isWhole t) := List.all_append

theorem isWhole_iff_forall {t : Text} : isWhole t = true ↔ ∀ c ∈ t, c.isHalf = false := by
  simp [isWhole]

theorem isWhole_iff {t : Text} : isWhole t = true ↔ ∃ cs : List Char, t = cs.map .char := by
  constructor
  · intro h
    induction t with
    | nil => exact ⟨[], rfl⟩
    | cons c t ih =>
      obtain ⟨hc, ht⟩ := Bool.and_eq_true_iff.mp h
      obtain ⟨cs, rfl⟩ := ih ht
      cases c with
      | char d => exact ⟨d :: cs, rfl⟩
      | half => cases hc
  · rintro ⟨cs, rfl⟩
    simp [isWhole, Rune.isHalf]

def le : Text → Text → Bool
  | [], _ => true
  | _ :: _, [] => false
  | c :: cs, d :: ds => if c = d then le cs ds else c < d

abbrev Ranges := List (Nat × Nat)

def inRanges (n : Nat) : Ranges → Bool
  | [] => false
  | (lo, hi) :: rest => if n < lo then false else if n ≤ hi then true else inRanges n rest

end Text

end FileTags

import FileTags.Text.Numeral
import FileTags.Text.Written
import Mathlib.Data.List.Basic

/-!
# Reading and writing integers

A text spells an integer when it is a sign, if any, in front of digits. Reading finds exactly the
integer that a text spells, unless its digits are too many, and reads back what writing makes of an
integer.
-/

set_option autoImplicit false

namespace FileTags.Text

def IsSign (sign : Text) : Prop := sign = [] ∨ sign = [.char '+'] ∨ sign = [.char '-']

def IsDigits (digits : Text) : Prop := digits ≠ [] ∧ ∀ c ∈ digits, .char '0' ≤ c ∧ c ≤ .char '9'

def numberOf (digits : Text) : Nat := Nat.ofDigitChars 10 (digits.map fun c => Char.ofNat c.toNat) 0

def Spells (t : Text) (n : Int) : Prop :=
  ∃ sign digits, t = sign ++ digits ∧ IsSign sign ∧ IsDigits digits ∧
    n = if sign = [.char '-'] then -(numberOf digits : Int) else numberOf digits

/-- If the text is an integer it has at most as many digits as can be read. -/
def ShortNumeral (t : Text) : Prop :=
  ∀ sign digits, t = sign ++ digits → IsSign sign → IsDigits digits → digits.length ≤ digitLimit

theorem isDigits_iff (digits : Text) : IsDigits digits ↔
    (!digits.isEmpty && digits.all isDigit) = true := by
  simp [IsDigits, isDigit]

theorem naturalOf_eq_numberOf {digits : Text} (hd : ∀ c ∈ digits, .char '0' ≤ c ∧ c ≤ .char '9') :
    naturalOf digits = numberOf digits := by
  suffices h : ∀ n, digits.foldl (fun n c => 10 * n + digitValue c) n =
      Nat.ofDigitChars 10 (digits.map fun c => Char.ofNat c.toNat) n from h 0
  intro n
  rw [Nat.ofDigitChars, List.foldl_map]
  refine List.foldl_ext _ _ _ fun k c hc => ?_
  cases c with
  | char c => simp [digitValue, Rune.toNat]
  | half m =>
    have hle : 0xd800 + m.val ≤ 57 := (hd _ hc).2
    omega

theorem signedDigits?_append {sign digits : Text} (hs : IsSign sign) (hd : IsDigits digits) :
    signedDigits? (sign ++ digits) = some (decide (sign = [.char '-']), digits) := by
  have hall := (isDigits_iff digits).mp hd
  rcases hs with rfl | rfl | rfl
  · obtain ⟨hne, hmem⟩ := hd
    cases digits with
    | nil => exact absurd rfl hne
    | cons c rest =>
      have hc := hmem c (by simp)
      have hminus : c ≠ .char '-' := by rintro rfl; exact absurd hc (by decide)
      have hplus : c ≠ .char '+' := by rintro rfl; exact absurd hc (by decide)
      simp only [List.nil_append, signedDigits?]
      split
      · next h => simp_all
      · next h => simp_all
      · rw [if_pos hall]
        rfl
  · simp only [List.singleton_append, signedDigits?]
    rw [if_pos hall]
    rfl
  · simp only [List.singleton_append, signedDigits?]
    rw [if_pos hall]
    rfl

theorem of_signedDigits? {t digits : Text} {negative : Bool}
    (h : signedDigits? t = some (negative, digits)) :
    ∃ sign, IsSign sign ∧ IsDigits digits ∧ t = sign ++ digits ∧
    negative = decide (sign = [.char '-']) := by
  have hparts : ∀ (b : Bool) (ds : Text),
    (if !ds.isEmpty && ds.all isDigit then some (b, ds) else none) =
      some (negative, digits) → IsDigits digits ∧ ds = digits ∧ b = negative := by
    intro b ds hb
    rw [isDigits_iff]
    split at hb
    · next hds => simp_all
    · simp at hb
  simp only [signedDigits?] at h
  split at h
  · obtain ⟨hd, rfl, rfl⟩ := hparts _ _ h
    exact ⟨[.char '-'], .inr (.inr rfl), hd, rfl, rfl⟩
  · obtain ⟨hd, rfl, rfl⟩ := hparts _ _ h
    exact ⟨[.char '+'], .inr (.inl rfl), hd, rfl, rfl⟩
  · obtain ⟨hd, rfl, rfl⟩ := hparts _ _ h
    exact ⟨[], .inl rfl, hd, rfl, rfl⟩

theorem Spells.unique {t : Text} {m n : Int} (hm : Spells t m) (hn : Spells t n) : m = n := by
  obtain ⟨sign, digits, rfl, hs, hd, rfl⟩ := hm
  obtain ⟨sign', digits', ht, hs', hd', rfl⟩ := hn
  have hparts := signedDigits?_append hs hd
  rw [ht, signedDigits?_append hs' hd'] at hparts
  obtain ⟨hsign, rfl⟩ : (sign' = [.char '-'] ↔ sign = [.char '-']) ∧ digits' = digits := by
    simpa using hparts
  simp only [hsign]

/-- A sign and digits are read as their number, if the digits are not too many. -/
theorem readInteger_append {sign digits : Text} (hs : IsSign sign) (hd : IsDigits digits) :
    readInteger (sign ++ digits) =
      if digits.length ≤ digitLimit then
        .ok (some (if sign = [.char '-'] then -(numberOf digits : Int) else numberOf digits))
      else .error ⟨digits.length⟩ := by
  rw [readInteger, signedDigits?_append hs hd, ← naturalOf_eq_numberOf hd.2]
  by_cases hl : digits.length ≤ digitLimit
  · have hn : readNatural digits = .ok (naturalOf digits) := if_neg (by omega)
    rw [if_pos hl]
    by_cases hm : sign = [.char '-'] <;> simp only [hn, hm, decide_true, decide_false] <;> rfl
  · have hn : readNatural digits = .error ⟨digits.length⟩ := if_pos (by omega)
    rw [if_neg hl]
    by_cases hm : sign = [.char '-'] <;> simp only [hn, hm, decide_true, decide_false] <;> rfl

theorem readInteger_of_not_numeral {t : Text} (h : signedDigits? t = none) :
    readInteger t = .ok none := by
  rw [readInteger, h]

theorem spells_iff_of_readInteger {t : Text} {r : Option Int} (h : readInteger t = .ok r)
    (n : Int) :
    Spells t n ↔ r = some n := by
  constructor
  · rintro ⟨sign, digits, rfl, hs, hd, rfl⟩
    rw [readInteger_append hs hd] at h
    split at h
    · exact (Except.ok.inj h).symm
    · cases h
  · rintro rfl
    cases hd : signedDigits? t with
    | none =>
      rw [readInteger_of_not_numeral hd] at h
      cases h
    | some p =>
      obtain ⟨sign, hsign, hdigits, rfl, -⟩ := of_signedDigits? hd
      rw [readInteger_append hsign hdigits] at h
      refine ⟨sign, p.2, rfl, hsign, hdigits, ?_⟩
      split at h
      · exact (Option.some.inj (Except.ok.inj h)).symm
      · cases h

theorem readInteger_ok_of_short {t : Text} (h : ShortNumeral t) : ∃ r, readInteger t = .ok r := by
  cases hd : signedDigits? t with
  | none => exact ⟨none, readInteger_of_not_numeral hd⟩
  | some p =>
    obtain ⟨sign, hsign, hdigits, rfl, -⟩ := of_signedDigits? hd
    exact ⟨_, (readInteger_append hsign hdigits).trans (if_pos (h sign p.2 rfl hsign hdigits))⟩

theorem shortNumeral_of_length {t : Text} (h : t.length ≤ digitLimit) : ShortNumeral t := by
  rintro sign digits rfl - -
  simp only [List.length_append] at h
  omega

theorem isDigits_ofNat (n : Nat) : IsDigits (ofNat n) := by
  refine ⟨by simp [ofNat], fun c hc => ?_⟩
  obtain ⟨d, hd, rfl⟩ := List.mem_map.mp hc
  have hdigit := Nat.isDigit_of_mem_toDigits (by decide) (by decide) hd
  simpa [Char.isDigit, Char.le_def] using hdigit

theorem numberOf_ofNat (n : Nat) : numberOf (ofNat n) = n := by
  simp [numberOf, ofNat, Function.comp_def, Rune.toNat]

/-- An integer with few enough digits is read back from what is written for it. -/
theorem readInteger_ofInt {n : Int} (h : (ofNat n.natAbs).length ≤ digitLimit) :
    readInteger (ofInt n) = .ok (some n) := by
  cases n with
  | ofNat k =>
    have hread := readInteger_append (.inl rfl) (isDigits_ofNat k)
    change (ofNat k).length ≤ digitLimit at h
    rw [if_pos h, numberOf_ofNat] at hread
    exact hread
  | negSucc k =>
    have hread := readInteger_append (.inr (.inr rfl)) (isDigits_ofNat (k + 1))
    change (ofNat (k + 1)).length ≤ digitLimit at h
    rw [if_pos h, numberOf_ofNat] at hread
    exact hread

end FileTags.Text

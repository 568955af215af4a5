import FileTags.Proofs.Text.Utf8
import FileTags.Text.System

/-!
# Texts of the system

The text that shows some bytes can be given back to the system, and has these bytes. A text without
halves is shown for its own bytes.
-/

set_option autoImplicit false

namespace FileTags

theorem EncodeFault.find?_eq_none_iff {fails : Rune → Bool} {position : Nat} {t : Text} :
    find? fails position t = none ↔ ∀ c ∈ t, fails c = false := by
  induction t generalizing position with
  | nil => simp [find?]
  | cons c t ih =>
    rw [find?]
    cases hc : fails c <;> simp [hc, ih]

namespace Utf8

variable {t : Text}

theorem encode_eq_ok_iff {b : Blob} : encode t = .ok b ↔ Text.isWhole t = true ∧ bytes t = b := by
  have hwhole : Text.isWhole t = true ↔ EncodeFault.find? Rune.isHalf 0 t = none := by
    simp [EncodeFault.find?_eq_none_iff, Text.isWhole]
  rw [encode, hwhole]
  split
  · next h => simp [h]
  · next h => simp [h]

theorem encode_of_isWhole (h : Text.isWhole t = true) : encode t = .ok (bytes t) :=
  encode_eq_ok_iff.mpr ⟨h, rfl⟩

end Utf8

namespace Text

variable {s t : Text} {b : Blob}

theorem unfit?_eq_none_iff : unfit? t = none ↔ (∀ c ∈ t, c.isStray = false) ∧ .char '\x00' ∉ t := by
  have hstray : (∀ c ∈ t, c.isStray = false) ↔ EncodeFault.find? Rune.isStray 0 t = none :=
    EncodeFault.find?_eq_none_iff.symm
  rw [unfit?, hstray]
  split
  · next h => simp [h]
  · next h => simp [h]

theorem unfit?_append : unfit? (s ++ t) = none ↔ unfit? s = none ∧ unfit? t = none := by
  simp only [unfit?_eq_none_iff, List.mem_append, or_imp, forall_and, not_or]
  tauto

theorem unfit?_cons {c : Rune} :
    unfit? (c :: t) = none ↔ c.isStray = false ∧ c ≠ .char '\x00' ∧ unfit? t = none := by
  rw [unfit?_eq_none_iff, unfit?_eq_none_iff, List.forall_mem_cons, List.mem_cons, not_or, ne_comm]
  tauto

/-! ## Bytes that are shown -/

theorem ofBytesFrom_pending (passed rest : Blob) :
    ofBytesFrom passed.length (passed ++ rest) = ofBytesFrom 0 rest := by
  induction passed with
  | nil => rfl
  | cons b passed ih => exact ih

theorem ofBytesFrom_drop (n : Nat) (b : Blob) : ofBytesFrom n b = ofBytesFrom 0 (b.drop n) := by
  induction b generalizing n with
  | nil => cases n <;> rfl
  | cons x b ih =>
    cases n with
    | zero => rfl
    | succ n => exact ih n

/-- What the bytes show first: a character with all its bytes, or a half for one byte that is none
of ASCII. -/
theorem ofBytes_cons (x : UInt8) (b : Blob) :
    (∃ c rest, x :: b = Utf8.encodeChar c ++ rest ∧ ofBytes (x :: b) = .char c :: ofBytes rest) ∨
      (128 ≤ x.toNat ∧ ofBytes (x :: b) = .ofByte x :: ofBytes b) := by
  cases h : Utf8.first x b with
  | ok read =>
    obtain ⟨c, following⟩ := read
    refine .inl ⟨c, b.drop following, (Utf8.encodeChar_of_first h).symm, ?_⟩
    simp only [ofBytes, ofBytesFrom, h]
    rw [ofBytesFrom_drop]
  | error e =>
    refine .inr ⟨Utf8.le_of_first_error h, ?_⟩
    simp only [ofBytes, ofBytesFrom, h]

theorem encodeChar_ne_nil (c : Char) : Utf8.encodeChar c ≠ [] := by
  obtain ⟨b, following, h, -⟩ := Utf8.first_encodeChar c []
  rw [h]
  exact List.cons_ne_nil _ _

theorem runeBytes_ofByte (x : UInt8) : Utf8.runeBytes (.ofByte x) = [x] := by
  simp only [Rune.ofByte, Utf8.runeBytes, List.cons.injEq, and_true]
  apply UInt8.toNat_inj.mp
  have hx := x.toNat_lt
  rw [UInt8.toNat_ofNat']
  omega

theorem bytes_ofBytes (b : Blob) : Utf8.bytes (ofBytes b) = b := by
  induction hn : b.length using Nat.strongRecOn generalizing b with
  | _ n ih =>
    cases b with
    | nil => rfl
    | cons x b =>
      rcases ofBytes_cons x b with ⟨c, rest, hb, h⟩ | ⟨-, h⟩
      · have hlength := congrArg List.length hb
        have hpos := List.length_pos_iff.mpr (encodeChar_ne_nil c)
        rw [List.length_append] at hlength
        rw [h, Utf8.bytes_cons, ih rest.length (by omega) rest rfl, hb]
        rfl
      · rw [h, Utf8.bytes_cons, runeBytes_ofByte, ih b.length (by simp_all; omega) b rfl]
        rfl

theorem ofBytes_encodeChar (c : Char) (rest : Blob) :
    ofBytes (Utf8.encodeChar c ++ rest) = .char c :: ofBytes rest := by
  obtain ⟨b, following, hc, hfirst⟩ := Utf8.first_encodeChar c rest
  simp only [hc, List.cons_append, ofBytes, ofBytesFrom, hfirst]
  rw [ofBytesFrom_pending]

theorem ofBytes_bytes (h : isWhole t = true) : ofBytes (Utf8.bytes t) = t := by
  obtain ⟨cs, rfl⟩ := isWhole_iff.mp h
  induction cs with
  | nil => rfl
  | cons c cs ih =>
    rw [List.map_cons, Utf8.bytes_cons, Utf8.runeBytes, ofBytes_encodeChar,
      ih (isWhole_iff.mpr ⟨cs, rfl⟩)]

/-! ## Bytes of ASCII -/

theorem mem_encodeChar {c : Char} {x : UInt8} (h : x ∈ Utf8.encodeChar c) :
    x.toNat = c.toNat ∨ 128 ≤ x.toNat := by
  have hvalid := Utf8.code_cases c
  simp only [Utf8.encodeChar] at h
  repeat' split at h
  all_goals
    simp only [List.mem_cons, List.not_mem_nil, or_false] at h
    rcases h with rfl | rfl | rfl | rfl <;>
      first
      | exact .inl (Utf8.toNat_ofNat (by omega))
      | exact .inr (by rw [Utf8.toNat_continuation]; omega)
      | exact .inr (by rw [Utf8.toNat_ofNat (by omega)]; omega)

theorem eq_of_mem_runeBytes {c : Rune} {x : UInt8} (hc : c.isStray = false)
    (h : x ∈ Utf8.runeBytes c) (hx : x.toNat < 128) :
    c = .char (Char.ofNat x.toNat) := by
  cases c with
  | char c =>
    have hcode := (mem_encodeChar h).resolve_right (by omega)
    rw [hcode, Char.ofNat_toNat]
  | half n =>
    obtain rfl := List.mem_singleton.mp h
    simp only [Rune.isStray, Bool.or_eq_false_iff, decide_eq_false_iff_not] at hc
    rw [UInt8.toNat_ofNat'] at hx
    omega

theorem runeBytes_ne_nil (c : Rune) : Utf8.runeBytes c ≠ [] := by
  cases c with
  | char c => exact encodeChar_ne_nil c
  | half => exact List.cons_ne_nil _ _

theorem bytes_eq_nil : Utf8.bytes t = [] ↔ t = [] := by
  cases t with
  | nil => simp
  | cons c t => simp [Utf8.bytes_cons, runeBytes_ne_nil]

theorem mem_of_mem_bytes {x : UInt8} (ht : unfit? t = none) (h : x ∈ Utf8.bytes t)
    (hx : x.toNat < 128) :
    .char (Char.ofNat x.toNat) ∈ t := by
  obtain ⟨c, hc, hmem⟩ := List.mem_flatMap.mp h
  exact eq_of_mem_runeBytes ((unfit?_eq_none_iff.mp ht).1 c hc) hmem hx ▸ hc

theorem eq_of_ascii (ht : unfit? t = none) (h : ∀ x ∈ Utf8.bytes t, x.toNat < 128) :
    t = (Utf8.bytes t).map fun x => .char (Char.ofNat x.toNat) := by
  induction t with
  | nil => rfl
  | cons c t ih =>
    obtain ⟨hc, -, hrest⟩ := unfit?_cons.mp ht
    rw [Utf8.bytes_cons] at h ⊢
    obtain ⟨x, hx⟩ := List.exists_mem_of_ne_nil _ (runeBytes_ne_nil c)
    have hascii := h x (List.mem_append_left _ hx)
    obtain rfl := eq_of_mem_runeBytes hc hx hascii
    have hcode : (Char.ofNat x.toNat).toNat = x.toNat := by
      rw [Char.ofNat, dif_pos (.inl (by omega))]
      rfl
    have hbytes : Utf8.runeBytes (.char (Char.ofNat x.toNat)) = [x] := by
      rw [Utf8.runeBytes, Utf8.encodeChar, hcode, if_pos hascii, Utf8.ofNat_eq rfl]
    rw [hbytes, List.map_append, List.map_singleton,
      ← ih hrest fun y hy => h y (List.mem_append_right _ hy)]
    rfl

/-- Bytes without a zero are shown as a text that can be given to the system. -/
theorem unfit?_ofBytes (h : (0 : UInt8) ∉ b) : unfit? (ofBytes b) = none := by
  induction hn : b.length using Nat.strongRecOn generalizing b with
  | _ n ih =>
    cases b with
    | nil => rfl
    | cons x b =>
      rcases ofBytes_cons x b with ⟨c, rest, hb, hshown⟩ | ⟨hx, hshown⟩
      · have hlength := congrArg List.length hb
        have hpos := List.length_pos_iff.mpr (encodeChar_ne_nil c)
        rw [List.length_append] at hlength
        have hzero : c ≠ '\x00' := by
          rintro rfl
          exact h (hb ▸ List.mem_append_left _ (by decide))
        rw [hshown, unfit?_cons]
        exact ⟨rfl, by simpa using hzero,
          ih rest.length (by omega) (fun hr => h (hb ▸ List.mem_append_right _ hr)) rfl⟩
      · have hx' := x.toNat_lt
        rw [hshown, unfit?_cons]
        refine ⟨?_, nofun,
          ih b.length (by simp_all; omega) (fun hr => h (List.mem_cons_of_mem _ hr)) rfl⟩
        simp only [Rune.ofByte, Rune.isStray, Bool.or_eq_false_iff, decide_eq_false_iff_not]
        omega

end Text

end FileTags

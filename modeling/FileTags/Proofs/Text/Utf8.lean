import FileTags.Text.Utf8
import Mathlib.Data.List.Basic

/-!
# Reading bytes back

What is written for a character announces how many bytes follow, and those give its code point back;
and bytes that are read as a character are the ones written for it. So a text without halves, and no
other, is read back from its bytes.
-/

set_option autoImplicit false

namespace FileTags.Utf8

theorem toNat_ofNat {n : Nat} (h : n < 256) : (UInt8.ofNat n).toNat = n := by
  rw [UInt8.toNat_ofNat']
  exact Nat.mod_eq_of_lt h

theorem ofNat_eq {n : Nat} {b : UInt8} (h : n = b.toNat) : UInt8.ofNat n = b := by
  rw [h, UInt8.ofNat_toNat]

theorem toNat_continuation (n : Nat) : (continuation n).toNat = 128 + n % 64 :=
  toNat_ofNat (by omega)

theorem complete_continuation (bits following low high taken n : Nat) (bytes : Blob)
    (hlow : low ≤ 128 + n % 64) (hhigh : 128 + n % 64 ≤ high) :
    complete bits (following + 1) low high taken (continuation n :: bytes) =
      complete (64 * bits + n % 64) following 128 191 (taken + 1) bytes := by
  rw [complete, if_pos (by rw [toNat_continuation]; exact ⟨hlow, hhigh⟩), toNat_continuation,
    Nat.add_sub_cancel_left]

theorem complete_nothing (bits low high taken : Nat) (bytes : Blob) :
    complete bits 0 low high taken bytes = .ok bits := by
  cases bytes <;> rfl

theorem complete_succ_eq_ok {bits following low high taken code : Nat} {bytes : Blob}
    (h : complete bits (following + 1) low high taken bytes = .ok code) :
    ∃ b rest, bytes = b :: rest ∧ low ≤ b.toNat ∧ b.toNat ≤ high ∧
      complete (64 * bits + (b.toNat - 128)) following 128 191 (taken + 1) rest = .ok code := by
  cases bytes with
  | nil => cases h
  | cons b rest =>
    rw [complete] at h
    split at h
    · next hb => exact ⟨b, rest, rfl, hb.1, hb.2, h⟩
    · cases h

/-! ## The widths of characters -/

/-- The first byte announces one more, which may be any that continues a character. -/
theorem lead?_two {n : Nat} (h : 128 ≤ n) (h' : n < 2048) :
    lead? (192 + n / 64) = some ⟨n / 64, 1, 128, 191⟩ := by
  rw [lead?, if_neg (by omega), if_neg (by omega), if_pos (by omega), Nat.add_sub_cancel_left]

/-- The first byte announces two more. The next one is within the bounds, since the code point is no
surrogate and needs that width. -/
theorem lead?_three {n : Nat} (h : 2048 ≤ n) (h' : n < 65536) (hn : n < 55296 ∨ 57343 < n) :
    ∃ low high, lead? (224 + n / 4096) = some ⟨n / 4096, 2, low, high⟩ ∧ low ≤ 128 + n / 64 % 64 ∧
    128 + n / 64 % 64 ≤ high := by
  rw [lead?, if_neg (by omega), if_neg (by omega), if_neg (by omega)]
  by_cases h0 : n / 4096 = 0
  · exact ⟨160, 191, by simp [h0], by omega, by omega⟩
  by_cases h13 : n / 4096 = 13
  · exact ⟨128, 159, by simp [h13], by omega, by omega⟩
  · refine ⟨128, 191, ?_, by omega, by omega⟩
    rw [if_neg (by omega), if_neg (by omega), if_pos (by omega), Nat.add_sub_cancel_left]

/-- The first byte announces three more. The next one is within the bounds, since the code point is
one and needs that width. -/
theorem lead?_four {n : Nat} (h : 65536 ≤ n) (h' : n < 1114112) :
    ∃ low high, lead? (240 + n / 262144) = some ⟨n / 262144, 3, low, high⟩ ∧
      low ≤ 128 + n / 4096 % 64 ∧ 128 + n / 4096 % 64 ≤ high := by
  rw [lead?, if_neg (by omega), if_neg (by omega), if_neg (by omega), if_neg (by omega),
    if_neg (by omega), if_neg (by omega)]
  by_cases h0 : n / 262144 = 0
  · exact ⟨144, 191, by simp [h0], by omega, by omega⟩
  by_cases h4 : n / 262144 = 4
  · exact ⟨128, 143, by simp [h4], by omega, by omega⟩
  · refine ⟨128, 191, ?_, by omega, by omega⟩
    rw [if_neg (by omega), if_neg (by omega), if_pos (by omega), Nat.add_sub_cancel_left]

theorem code_cases (c : Char) : c.toNat < 55296 ∨ 57343 < c.toNat ∧ c.toNat < 1114112 := c.valid

theorem first_of_lead? {b : UInt8} {bytes : Blob} {bits following low high code : Nat}
    (hlead : lead? b.toNat = some ⟨bits, following, low, high⟩)
    (hcode : complete bits following low high 1 bytes = .ok code) :
    first b bytes = .ok (Char.ofNat code, following) := by
  rw [first, hlead]
  simp only [hcode]
  rfl

theorem first_encodeChar (c : Char) (rest : Blob) :
    ∃ b following, encodeChar c = b :: following ∧
    first b (following ++ rest) = .ok (c, following.length) := by
  have hvalid := code_cases c
  generalize hn : c.toNat = n at hvalid
  obtain rfl : c = Char.ofNat n := by rw [← hn, Char.ofNat_toNat]
  simp only [encodeChar, hn]
  split
  · next h =>
    refine ⟨_, [], rfl, first_of_lead? ?_ (complete_nothing n 128 191 1 _)⟩
    rw [toNat_ofNat (by omega), lead?, if_pos h]
    rfl
  split
  · next h h2 =>
    refine ⟨_, [continuation n], rfl,
      first_of_lead? (toNat_ofNat (n := 192 + n / 64) (by omega) ▸ lead?_two (by omega) h2) ?_⟩
    rw [List.singleton_append, List.length_singleton,
      complete_continuation _ _ _ _ _ _ _ (by omega) (by omega), complete_nothing]
    congr 1
    omega
  split
  · next h h2 h3 =>
    obtain ⟨low, high, hlead, hlow, hhigh⟩ := lead?_three (by omega) h3 (by omega)
    rw [← toNat_ofNat (n := 224 + n / 4096) (by omega)] at hlead
    refine ⟨_, [continuation (n / 64), continuation n], rfl, first_of_lead? hlead ?_⟩
    simp only [List.cons_append, List.nil_append, List.length_cons, List.length_nil]
    rw [complete_continuation _ _ _ _ _ _ _ hlow hhigh,
      complete_continuation _ _ _ _ _ _ _ (by omega) (by omega), complete_nothing]
    congr 1
    omega
  · next h h2 h3 =>
    obtain ⟨low, high, hlead, hlow, hhigh⟩ := lead?_four (n := n) (by omega) (by omega)
    rw [← toNat_ofNat (n := 240 + n / 262144) (by omega)] at hlead
    refine ⟨_, [continuation (n / 4096), continuation (n / 64), continuation n], rfl,
      first_of_lead? hlead ?_⟩
    simp only [List.cons_append, List.nil_append, List.length_cons, List.length_nil]
    rw [complete_continuation _ _ _ _ _ _ _ hlow hhigh,
      complete_continuation _ _ _ _ _ _ _ (by omega) (by omega),
      complete_continuation _ _ _ _ _ _ _ (by omega) (by omega), complete_nothing]
    congr 1
    omega

/-! ## Bytes that are read -/

theorem encodeChar_ofNat {n : Nat} (h : n < 55296 ∨ 57343 < n ∧ n < 1114112) :
    encodeChar (Char.ofNat n) =
      if n < 128 then [UInt8.ofNat n]
      else if n < 2048 then [UInt8.ofNat (192 + n / 64), continuation n]
      else if n < 65536 then [UInt8.ofNat (224 + n / 4096), continuation (n / 64), continuation n]
      else [UInt8.ofNat (240 + n / 262144), continuation (n / 4096), continuation (n / 64),
        continuation n] := by
  have hcode : (Char.ofNat n).toNat = n := by
    rw [Char.ofNat, dif_pos h]
    rfl
  rw [encodeChar, hcode]

/-- What a first byte announces: the bounds of the next byte keep out what would be written shorter,
the halves, and what is no code point. -/
theorem lead?_cases {n bits following low high : Nat}
    (h : lead? n = some ⟨bits, following, low, high⟩) :
    (n < 128 ∧ bits = n ∧ following = 0) ∨
    (194 ≤ n ∧ n < 224 ∧ bits = n - 192 ∧ following = 1 ∧ low = 128 ∧ high = 191) ∨
    (224 ≤ n ∧ n < 240 ∧ bits = n - 224 ∧ following = 2 ∧ 128 ≤ low ∧ high ≤ 191 ∧
      (n = 224 → 160 ≤ low) ∧ (n = 237 → high ≤ 159)) ∨
    (240 ≤ n ∧ n ≤ 244 ∧ bits = n - 240 ∧ following = 3 ∧ 128 ≤ low ∧ high ≤ 191 ∧
      (n = 240 → 144 ≤ low) ∧ (n = 244 → high ≤ 143)) := by
  rw [lead?] at h
  repeat' split at h
  all_goals
    simp only [Option.some.injEq, Lead.mk.injEq, reduceCtorEq] at h
    try omega

/-- Bytes that are read as a character are the ones written for it. -/
theorem encodeChar_of_first {b : UInt8} {bytes : Blob} {c : Char} {following : Nat}
    (h : first b bytes = .ok (c, following)) :
    encodeChar c ++ bytes.drop following = b :: bytes := by
  rw [first] at h
  cases hlead : lead? b.toNat with
  | none => simp [hlead] at h
  | some lead =>
    obtain ⟨bits, k, low, high⟩ := lead
    simp only [hlead] at h
    cases hcode : complete bits k low high 1 bytes with
    | error e => simp [hcode, Except.map] at h
    | ok code =>
      rw [hcode] at h
      obtain ⟨rfl, rfl⟩ := Prod.mk.inj (Except.ok.inj h)
      rcases lead?_cases hlead with ⟨hb, hbits, hk⟩ | ⟨hb, hb', hbits, hk, hlow, hhigh⟩ |
        ⟨hb, hb', hbits, hk, hlow, hhigh, hshort, hhalf⟩
          | ⟨hb, hb', hbits, hk, hlow, hhigh, hshort, hlast⟩ <;>
        rw [hk, hbits] at hcode <;> rw [hk]
      · rw [complete_nothing] at hcode
        obtain rfl := Except.ok.inj hcode
        rw [encodeChar_ofNat (.inl (by omega)), if_pos hb, ofNat_eq (b := b) rfl]
        rfl
      · obtain ⟨b₁, rest, rfl, h₁, h₁', hcode⟩ := complete_succ_eq_ok hcode
        rw [complete_nothing] at hcode
        obtain rfl := Except.ok.inj hcode
        rw [encodeChar_ofNat (.inl (by omega)), if_neg (by omega), if_pos (by omega),
          ofNat_eq (b := b) (by omega), continuation,
          ofNat_eq (b := b₁) (by omega)]
        rfl
      · obtain ⟨b₁, rest, rfl, h₁, h₁', hcode⟩ := complete_succ_eq_ok hcode
        obtain ⟨b₂, rest, rfl, h₂, h₂', hcode⟩ := complete_succ_eq_ok hcode
        rw [complete_nothing] at hcode
        obtain rfl := Except.ok.inj hcode
        rw [encodeChar_ofNat (by omega), if_neg (by omega), if_neg (by omega), if_pos (by omega),
          ofNat_eq (b := b) (by omega),
          continuation, ofNat_eq (b := b₁) (by omega), continuation, ofNat_eq (b := b₂) (by omega)]
        rfl
      · obtain ⟨b₁, rest, rfl, h₁, h₁', hcode⟩ := complete_succ_eq_ok hcode
        obtain ⟨b₂, rest, rfl, h₂, h₂', hcode⟩ := complete_succ_eq_ok hcode
        obtain ⟨b₃, rest, rfl, h₃, h₃', hcode⟩ := complete_succ_eq_ok hcode
        rw [complete_nothing] at hcode
        obtain rfl := Except.ok.inj hcode
        rw [encodeChar_ofNat (by omega), if_neg (by omega), if_neg (by omega), if_neg (by omega),
          ofNat_eq (b := b) (by omega),
          continuation, ofNat_eq (b := b₁) (by omega), continuation, ofNat_eq (b := b₂) (by omega),
            continuation,
          ofNat_eq (b := b₃) (by omega)]
        rfl

theorem le_of_first_error {b : UInt8} {bytes : Blob} {e : Utf8Reason × Nat}
    (h : first b bytes = .error e) : 128 ≤ b.toNat := by
  by_contra hb
  rw [first, lead?, if_pos (by omega)] at h
  simp [complete_nothing, Except.map] at h

/-! ## Texts -/

variable {s t : Text} {b : Blob}

def ofString (s : String) : Blob := bytes (Text.ofString s)

@[simp] theorem bytes_nil : bytes [] = [] := rfl

theorem bytes_cons (c : Rune) (t : Text) : bytes (c :: t) = runeBytes c ++ bytes t :=
  List.flatMap_cons

@[simp]
theorem bytes_append : bytes (s ++ t) = bytes s ++ bytes t := List.flatMap_append

theorem decodeFrom_drop (position n : Nat) (b : Blob) :
    decodeFrom position n b = decodeFrom (position + n) 0 (b.drop n) := by
  induction b generalizing position n with
  | nil => cases n <;> rfl
  | cons x b ih =>
    cases n with
    | zero => rfl
    | succ n =>
      rw [decodeFrom, ih, List.drop_succ_cons]
      congr 1
      omega

theorem decodeFrom_encodeChar (c : Char) (position : Nat) (rest : Blob) :
    decodeFrom position 0 (encodeChar c ++ rest) =
      (decodeFrom (position + (encodeChar c).length) 0 rest).map (.char c :: ·) := by
  obtain ⟨b, following, hc, hfirst⟩ := first_encodeChar c rest
  rw [hc, List.cons_append, decodeFrom, hfirst]
  dsimp only
  rw [decodeFrom_drop, List.drop_left, List.length_cons, Nat.add_assoc, Nat.add_comm 1]

theorem decodeFrom_bytes (cs : List Char) (position : Nat) :
    decodeFrom position 0 (bytes (cs.map .char)) = .ok (cs.map .char) := by
  induction cs generalizing position with
  | nil => rfl
  | cons c cs ih =>
    rw [List.map_cons, bytes_cons, runeBytes, decodeFrom_encodeChar, ih]
    rfl

theorem decode_bytes (h : Text.isWhole t = true) : decode (bytes t) = .ok t := by
  obtain ⟨cs, rfl⟩ := Text.isWhole_iff.mp h
  exact decodeFrom_bytes cs 0

theorem whole_of_decodeFrom {position : Nat} (h : decodeFrom position 0 b = .ok t) :
    Text.isWhole t = true ∧ bytes t = b := by
  induction hn : b.length using Nat.strongRecOn generalizing position b t with
  | _ n ih =>
    cases b with
    | nil =>
      obtain rfl := Except.ok.inj h
      exact ⟨rfl, rfl⟩
    | cons x b =>
      rw [decodeFrom] at h
      cases hfirst : first x b with
      | error e => simp [hfirst] at h
      | ok read =>
        obtain ⟨c, following⟩ := read
        simp only [hfirst, decodeFrom_drop _ following] at h
        cases hrest : decodeFrom (position + 1 + following) 0 (b.drop following) with
        | error e => simp [hrest, Except.map] at h
        | ok rest =>
          obtain rfl : .char c :: rest = t := by simpa [hrest, Except.map] using h
          have hshort : (b.drop following).length < n := by
            rw [← hn, List.length_drop, List.length_cons]
            omega
          obtain ⟨hwhole, hbytes⟩ := ih _ hshort hrest rfl
          rw [bytes_cons, hbytes]
          exact ⟨hwhole, encodeChar_of_first hfirst⟩

theorem decode_eq_ok_iff : decode b = .ok t ↔ Text.isWhole t = true ∧ bytes t = b :=
  ⟨whole_of_decodeFrom, fun ⟨hwhole, hbytes⟩ => hbytes ▸ decode_bytes hwhole⟩

end FileTags.Utf8

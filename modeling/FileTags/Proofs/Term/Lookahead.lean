import FileTags.Proofs.Term.Operand

/-!
# Looking ahead

A token depends on what stands behind it: where a word may end, what follows a group, and where a
pattern stops. All of this is the same in front of two texts that differ only from where one of them
begins a bookmark and the other a group, or from where one of them ends and the other closes a
group.
-/

set_option autoImplicit false

namespace FileTags.Term

open Text

inductive Alike : Text → Text → Prop
  | same (t : Text) : Alike t t
  | group (t u : Text) : Alike (.char '\x7b' :: t) (.char '(' :: u)
  | stop (u : Text) : Alike [] (.char ')' :: u)
  | cons (c : Rune) {t u : Text} (h : Alike t u) : Alike (c :: t) (c :: u)

namespace Alike

variable {t u s : Text}

theorem append (h : Alike t u) (x : Text) : Alike (x ++ t) (x ++ u) := by
  induction x with
  | nil => exact h
  | cons c x ih => exact .cons c ih

theorem skipGap (h : Alike t u) : Alike (skipGap t) (skipGap u) := by
  induction h with
  | same t => exact .same _
  | group t u => exact .group t u
  | stop u => exact .stop u
  | @cons c t u h ih =>
    cases hc : isGap c with
    | true => simpa [Text.skipGap, hc] using ih
    | false => simpa [Text.skipGap, hc] using h.cons c

theorem skipGap_eq (h : Alike t u) (ht : Text.skipGap t = t) : Text.skipGap u = u := by
  cases h with
  | same => exact ht
  | group t u => rfl
  | stop u => rfl
  | @cons c t u h =>
    cases hc : isGap c with
    | false => exact skipGap_eq_self hc u
    | true =>
      have hlen := length_skipGap (c :: t)
      simp [ht, hc] at hlen

theorem endsWord (h : Alike t u) : endsWord t = endsWord u := by
  cases h <;> rfl

def Plain (s : Text) : Prop := ∀ c ∈ s, c ∉ [.char '\x7b', .char '(', .char ')']

instance (s : Text) : Decidable (Plain s) :=
  decidable_of_iff (s.all (· ∉ [.char '\x7b', .char '(', .char ')']) = true)
    (by simp only [List.all_eq_true, decide_eq_true_eq, Plain])

theorem startsWith (h : Alike t u) (hs : Plain s) : startsWith t s = startsWith u s := by
  induction s generalizing t u with
  | nil => cases t <;> cases u <;> rfl
  | cons d s ih =>
    have hd := hs d (by simp)
    simp only [List.mem_cons, List.not_mem_nil, or_false, not_or] at hd
    cases h with
    | same => rfl
    | group t u =>
      rw [Text.startsWith, Text.startsWith, beq_eq_false_iff_ne.mpr (Ne.symm hd.1),
        beq_eq_false_iff_ne.mpr (Ne.symm hd.2.1)]
      rfl
    | stop u => simp [Text.startsWith, Ne.symm hd.2.2]
    | cons c h => rw [Text.startsWith, Text.startsWith, ih h fun c hc => hs c (by simp [hc])]

theorem drop (h : Alike t u) (hs : Plain s) (ht : Text.startsWith t s = true) :
    Alike (t.drop s.length) (u.drop s.length) := by
  induction s generalizing t u with
  | nil => exact h
  | cons d s ih =>
    have hd := hs d (by simp)
    simp only [List.mem_cons, List.not_mem_nil, or_false, not_or] at hd
    cases h with
    | same => exact .same _
    | group t u => simp [Text.startsWith, Ne.symm hd.1] at ht
    | stop u => cases ht
    | cons c h =>
      rw [Text.startsWith, Bool.and_eq_true] at ht
      exact ih h (fun c hc => hs c (by simp [hc])) ht.2

theorem isWordOperator (h : Alike t u) (upper lower : Text) (hu : Plain upper) (hl : Plain lower)
    (hlen : lower.length = upper.length) :
    isWordOperator upper lower t = isWordOperator upper lower u := by
  rw [Term.isWordOperator, Term.isWordOperator, ← h.startsWith hu, ← h.startsWith hl]
  by_cases hsu : Text.startsWith t upper = true
  · rw [(h.drop hu hsu).endsWord]
  · by_cases hsl : Text.startsWith t lower = true
    · rw [← hlen, (h.drop hl hsl).endsWord]
    · simp [hsu, hsl]

theorem notLength? (h : Alike t u) : notLength? t = notLength? u := by
  rw [Term.notLength?, Term.notLength?,
    h.isWordOperator [.char 'N', .char 'O', .char 'T'] [.char 'n', .char 'o',
    .char 't'] (by decide) (by decide) rfl,
     h.startsWith (s := [.char '!']) (by decide),
    h.startsWith (s := [.char '!', .char '=']) (by decide)]

theorem andLength? (h : Alike t u) : andLength? t = andLength? u := by
  rw [Term.andLength?, Term.andLength?,
    h.isWordOperator [.char 'A', .char 'N', .char 'D'] [.char 'a', .char 'n',
    .char 'd'] (by decide) (by decide) rfl,
    h.startsWith (by decide)]

theorem orLength? (h : Alike t u) : orLength? t = orLength? u := by
  rw [Term.orLength?, Term.orLength?,
    h.isWordOperator [.char 'O', .char 'R'] [.char 'o', .char 'r'] (by decide) (by decide) rfl,
    h.startsWith (by decide)]

theorem mayFollowGroup (h : Alike t u) : mayFollowGroup t = mayFollowGroup u := by
  have hskip := h.skipGap
  rw [Term.mayFollowGroup, Term.mayFollowGroup]
  generalize Text.skipGap t = v at hskip ⊢
  generalize Text.skipGap u = w at hskip ⊢
  cases hskip with
  | same => rfl
  | group t u => rfl
  | stop u => rfl
  | @cons c t u h =>
    by_cases hc : c = .char ')'
    · subst hc
      rfl
    · have hop := h.cons c
      simp [hc, hop.andLength?, hop.orLength?]

theorem comparatorAt? (h : Alike t u) : comparatorAt? t = comparatorAt? u := by
  have hplain : ∀ c : Comparator, Plain c.symbol := by
    intro c
    cases c <;> decide
  simp only [Term.comparatorAt?, h.startsWith (hplain _)]

theorem startsConnective (h : Alike t u) : startsConnective t = startsConnective u := by
  rw [Term.startsConnective, Term.startsConnective, h.startsWith (by decide),
    h.startsWith (s := [.char '|', .char '|']) (by decide)]

theorem startsOperator (h : Alike t u) : startsOperator t = startsOperator u := by
  simp only [Term.startsOperator, h.startsConnective]
  rw [h.startsWith (s := [.char '=', .char '=']) (by decide),
    h.startsWith (s := [.char '!', .char '=']) (by decide),
    h.startsWith (s := [.char '<']) (by decide),
    h.startsWith (s := [.char '>']) (by decide)]

/-- Where a pattern ends in front of one of the texts it ends in front of the other. A backslash at
the end would escape what follows in the other. -/
theorem halts (h : Alike t u) (ht : t ≠ [.char '\\']) (hr : runLength? 0 0 t = some 0) :
    runLength? 0 0 u = some 0 := by
  have hmap : ∀ {r : Option Nat} {n : Nat}, r.map (· + (n + 1)) ≠ some 0 := by
    intro r n
    cases r <;> simp
  cases h with
  | same => exact hr
  | group t u => exact absurd hr hmap
  | stop u => rfl
  | @cons c t u h =>
    by_cases hc : c ∈ special
    · simp only [special, List.mem_cons, List.not_mem_nil, or_false] at hc
      rcases hc with rfl | rfl | rfl | rfl
      · cases t with
        | nil => exact absurd rfl ht
        | cons d t =>
          rw [runLength?_escape] at hr
          exact absurd hr hmap
      · rw [runLength?, if_neg (by decide), if_pos rfl] at hr
        split at hr
        · exact absurd hr hmap
        · cases hr
      · exact absurd hr hmap
      · rfl
    · rw [runLength?_plain hc] at hr ⊢
      rw [← (h.cons c).startsConnective, ← (h.cons c).startsOperator]
      split at hr
      · next hstop => rw [if_pos hstop]; rfl
      · exact absurd hr hmap

end Alike

/-- Units in front of one text are units in front of one that looks alike. -/
theorem RunBefore.alike {k : Nat} {x s t : Text} (h : RunBefore s k x) (ha : Alike s t)
    (hs : s ≠ [.char '\\']) : RunBefore t k x := by
  induction h with
  | nil h => exact .nil (ha.halts hs h)
  | escape h ih => exact .escape ih
  | cls hb h ih => exact .cls hb ih
  | opening h ih => exact .opening ih
  | closing h ih => exact .closing ih
  | @plain k c x hc hb hs ho h ih =>
    have hx := (ha.append x).cons c
    exact .plain hc hb (hx.startsConnective ▸ hs) (fun hk => hx.startsOperator ▸ ho hk) ih

theorem runLength?_le {depth pending n : Nat} {t : Text} (h : runLength? depth pending t = some n) :
    n ≤ t.length := by
  induction t generalizing depth pending n with
  | nil =>
    rw [runLength?] at h
    split at h <;> simp_all
  | cons c t ih =>
    have hmap : ∀ {depth pending : Nat}, (runLength? depth pending t).map (· + 1) = some n →
        n ≤ (c :: t).length := by
      intro depth pending h
      obtain ⟨m, hm, rfl⟩ := Option.map_eq_some_iff.mp h
      have := ih hm
      simp only [List.length_cons]
      omega
    cases pending with
    | succ pending => exact hmap h
    | zero =>
      cases depth <;> rw [runLength?] at h
      all_goals repeat' split at h
      all_goals first
        | exact hmap h
        | cases h <;> exact Nat.zero_le _

/-- The pattern at the head of a text, and what stands behind it. -/
theorem patternLength?_split {t : Text} {n : Nat} (h : patternLength? t = some n) :
    ∃ x s, t = x ++ s ∧ x.length = n ∧ RunBefore s 0 x ∧ x ≠ [] ∧ x ∉ keywords := by
  rw [patternLength?] at h
  split at h
  · next m hm =>
    split at h
    · cases h
    · next hne =>
      obtain rfl := Option.some.inj h
      have hlen : (t.take m).length = m := List.length_take_of_le (runLength?_le hm)
      refine ⟨t.take m, t.drop m, (List.take_append_drop m t).symm, hlen, ?_, ?_,
        fun hk => hne (.inr hk)⟩
      · refine runBefore_of_length (Nat.le_refl _) ?_
        rw [List.take_append_drop, hlen, hm]
      · rintro hnil
        rw [hnil] at hlen
        exact hne (.inl hlen.symm)
  · cases h

theorem RunBefore.patternLength? {x s : Text} (h : RunBefore s 0 x) (hne : x ≠ [])
    (hk : x ∉ keywords) :
    patternLength? (x ++ s) = some x.length := by
  rw [FileTags.Term.patternLength?, h.length]
  simp [hne, hk]

end FileTags.Term

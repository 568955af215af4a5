import FileTags.Proofs.Term.Lookahead
import Mathlib.Data.List.TakeWhile

/-!
# The token at the head of a text

What is read at the head of a text, by the kind of the token: the tests that come before it fail,
and its own succeeds. An operand that is no bookmark is a pattern and the gap behind it, or two
patterns with a comparison operator between them.
-/

set_option autoImplicit false

namespace FileTags.Term

open Text

/-! ## Patterns and comparisons -/

structure PatternBefore (s p : Text) : Prop where
  run : RunBefore s 0 p
  ne_nil : p ≠ []
  not_keyword : p ∉ keywords

namespace PatternBefore

variable {s t p : Text}

theorem patternLength? (h : PatternBefore s p) : patternLength? (p ++ s) = some p.length :=
  h.run.patternLength? h.ne_nil h.not_keyword

theorem alike (h : PatternBefore s p) (ha : Alike s t) (hs : s ≠ [.char '\\']) :
    PatternBefore t p :=
  ⟨h.run.alike ha hs, h.ne_nil, h.not_keyword⟩

theorem isPattern (h : PatternBefore s p) : IsPattern p :=
  isPattern_iff.mpr ⟨h.run.run, h.ne_nil, h.not_keyword⟩

theorem of_length {n : Nat} (h : Term.patternLength? t = some n) :
    ∃ p s, t = p ++ s ∧ p.length = n ∧ PatternBefore s p := by
  obtain ⟨p, s, ht, hn, hrun, hne, hk⟩ := patternLength?_split h
  exact ⟨p, s, ht, hn, hrun, hne, hk⟩

end PatternBefore

inductive ComparisonBefore (offset : Nat) (s : Text) : Text → Expr → Prop
  | tag {p g : Text} (hp : PatternBefore (g ++ s) p) (hg : IsGap g) (hs : skipGap s = s)
      (hn : ∀ op ∈ comparatorAt? s, patternLength? (skipGap (s.drop op.symbol.length)) = none) :
      ComparisonBefore offset s (p ++ g) (.tag offset p)
  | pair {p g g' v : Text} {op : Comparator}
      (hp : PatternBefore (g ++ (op.symbol ++ (g' ++ (v ++ s)))) p) (hg : IsGap g)
      (hop : comparatorAt? (op.symbol ++ (g' ++ (v ++ s))) = some op) (hg' : IsGap g')
        (hv : PatternBefore s v) :
      ComparisonBefore offset s (p ++ (g ++ (op.symbol ++ (g' ++ v)))) (.comparison offset p op v)

theorem exists_gap (t : Text) : ∃ g, IsGap g ∧ t = g ++ skipGap t :=
  ⟨t.takeWhile isGap, List.all_eq_true.mp List.all_takeWhile, List.takeWhile_append_dropWhile.symm⟩

theorem startsWith_of_comparatorAt? {t : Text} {op : Comparator} (h : comparatorAt? t = some op) :
    ∃ s, t = op.symbol ++ s := by
  have hstarts : startsWith t op.symbol = true :=
    List.find?_some (p := fun c : Comparator => startsWith t c.symbol) h
  obtain ⟨s, hs⟩ := startsWith_iff.mp hstarts
  exact ⟨s, hs.symm⟩

theorem comparison?_split {offset n : Nat} {t : Text} {e : Expr}
    (h : comparison? offset t = some (e, n)) :
    ∃ x s, t = x ++ s ∧ x.length = n ∧ ComparisonBefore offset s x e := by
  obtain ⟨k, hk, hcase⟩ := comparison?_eq_some h
  obtain ⟨p, t, rfl, rfl, hp⟩ := PatternBefore.of_length hk
  obtain ⟨g, hg, hgap⟩ := exists_gap t
  rw [List.drop_left, List.take_left] at hcase
  generalize hrest : skipGap t = u at hcase hgap
  subst hgap
  have hfirst : skipGap u = u := by rw [← hrest, skipGap_skipGap]
  rcases hcase with ⟨rfl, rfl, hvalue⟩ | ⟨op, m, hop, hm, rfl, rfl⟩
  · refine ⟨p ++ g, u, by simp, ?_, .tag hp hg hfirst hvalue⟩
    simp only [List.length_append]
    omega
  · obtain ⟨w, rfl⟩ := startsWith_of_comparatorAt? hop
    rw [List.drop_left] at hm ⊢
    obtain ⟨g', hg', hgap'⟩ := exists_gap w
    generalize skipGap w = y at hm hgap' ⊢
    subst hgap'
    obtain ⟨v, r, rfl, rfl, hv⟩ := PatternBefore.of_length hm
    rw [List.drop_left, List.take_left]
    refine ⟨p ++ (g ++ (op.symbol ++ (g' ++ v))), r, by simp, ?_, .pair hp hg hop hg' hv⟩
    simp only [List.length_append]
    omega

theorem ComparisonBefore.ne_nil {offset : Nat} {x s : Text} {e : Expr}
    (h : ComparisonBefore offset s x e) : x ≠ [] := by
  cases h with
  | tag hp => simp [hp.ne_nil]
  | pair hp => simp [hp.ne_nil]

theorem ComparisonBefore.eq_some {offset : Nat} {x s : Text} {e : Expr}
    (h : ComparisonBefore offset s x e) :
    comparison? offset (x ++ s) = some (e, x.length) := by
  cases h with
  | @tag p g hp hg hs hn =>
    have hlen := hp.patternLength?
    have hskip : skipGap (g ++ s) = s := by rw [skipGap_append hg, hs]
    have htake : (p ++ (g ++ s)).length - s.length = (p ++ g).length := by
      simp only [List.length_append]
      omega
    simp only [comparison?, List.append_assoc, hlen, List.drop_left, List.take_left, hskip, htake]
    cases hop : comparatorAt? s with
    | none => rfl
    | some op => simp only [hn op hop, Option.map_none, Option.getD_none]
  | @pair p g g' v op hp hg hop hg' hv =>
    have hlen := hp.patternLength?
    have hbehind : skipGap (g ++ (op.symbol ++ (g' ++ (v ++ s)))) =
        op.symbol ++ (g' ++ (v ++ s)) := by
      rw [skipGap_append hg, comparator_head_not_gap]
    have hvalue : skipGap (g' ++ (v ++ s)) = v ++ s := by
      rw [skipGap_append hg', hv.isPattern.skipGap_eq]
    simp only [comparison?, List.append_assoc, hlen, List.drop_left, List.take_left, hbehind, hop,
      hvalue, hv.patternLength?, Option.map_some, Option.getD_some, List.length_append]
    congr 2
    omega

/-- Behind an operand on its own comes no operator of comparison, so the operand is the same in
front of a text that looks alike. -/
theorem ComparisonBefore.alike {offset : Nat} {x s t : Text} {e : Expr}
    (h : ComparisonBefore offset s x e) (ha : Alike s t)
    (hs : s ≠ [.char '\\']) (hc : comparatorAt? (skipGap s) = none) :
    ComparisonBefore offset t x e := by
  cases h with
  | @tag p g hp hg hskip hn =>
    have hgap : g ++ s ≠ [.char '\\'] := by
      intro h
      rcases List.append_eq_singleton_iff.mp h with ⟨-, h⟩ | ⟨rfl, -⟩
      · exact hs h
      · exact absurd (hg (.char '\\') (by simp)) (by decide)
    refine .tag (hp.alike (ha.append g) hgap) hg (ha.skipGap_eq hskip) ?_
    rw [hskip] at hc
    rw [← ha.comparatorAt?, hc]
    simp
  | @pair p g g' v op hp hg hop hg' hv =>
    have hgap : g ++ (op.symbol ++ (g' ++ (v ++ s))) ≠ [.char '\\'] := by
      intro h
      have hsymbol : 1 ≤ op.symbol.length := by cases op <;> decide
      have hvalue := List.length_pos_iff.mpr hv.ne_nil
      have hlen := congrArg List.length h
      simp only [List.length_append, List.length_singleton] at hlen
      omega
    have hvalue := ((ha.append v).append g').append op.symbol
    exact .pair (hp.alike (hvalue.append g) hgap) hg (hvalue.comparatorAt? ▸ hop) hg'
      (hv.alike ha hs)

/-! ## Operators and bookmarks -/

theorem startsWith_of_isWordOperator {upper lower t : Text}
    (h : isWordOperator upper lower t = true) :
    startsWith t upper = true ∨ startsWith t lower = true := by
  rw [isWordOperator, Bool.and_eq_true, Bool.or_eq_true] at h
  exact h.1

theorem notLength?_eq_some {t : Text} {n : Nat} (h : notLength? t = some n) :
    ∃ w ∈ Symbol.not.spellings, startsWith t w = true ∧ w.length = n := by
  rw [notLength?] at h
  split at h
  · next hw =>
    rcases startsWith_of_isWordOperator hw with hs | hs
    · exact ⟨_, by decide, hs, Option.some.inj h⟩
    · exact ⟨_, by decide, hs, Option.some.inj h⟩
  · split at h
    · next hs => exact ⟨[.char '!'], by decide, ((Bool.and_eq_true _ _).mp hs).1, Option.some.inj h⟩
    · cases h

theorem andLength?_eq_some {t : Text} {n : Nat} (h : andLength? t = some n) :
    ∃ w ∈ Symbol.and.spellings, startsWith t w = true ∧ w.length = n := by
  rw [andLength?] at h
  split at h
  · next hw =>
    rcases startsWith_of_isWordOperator hw with hs | hs
    · exact ⟨_, by decide, hs, Option.some.inj h⟩
    · exact ⟨_, by decide, hs, Option.some.inj h⟩
  · split at h
    · next hs => exact ⟨[.char '&', .char '&'], by decide, hs, Option.some.inj h⟩
    · cases h

theorem orLength?_eq_some {t : Text} {n : Nat} (h : orLength? t = some n) :
    ∃ w ∈ Symbol.or.spellings, startsWith t w = true ∧ w.length = n := by
  rw [orLength?] at h
  split at h
  · next hw =>
    rcases (Bool.or_eq_true _ _).mp hw with hw | hs
    · rcases startsWith_of_isWordOperator hw with hs | hs
      · exact ⟨_, by decide, hs, Option.some.inj h⟩
      · exact ⟨_, by decide, hs, Option.some.inj h⟩
    · exact ⟨[.char '|', .char '|'], by decide, hs, Option.some.inj h⟩
  · cases h

def IsInside (inside : Text) : Prop :=
  inside ≠ [] ∧ ∀ c ∈ inside, c ≠ .char '\x7b' ∧ c ≠ .char '\x7d'

theorem bookmark?_eq_some {t name : Text} {n : Nat} (h : bookmark? t = some (name, n)) :
    ∃ inside rest, t = .char '\x7b' :: (inside ++ [.char '\x7d']) ++ rest ∧ inside.length + 2 = n ∧
    IsInside inside ∧ name = strip inside := by
  unfold bookmark? at h
  split at h
  · next rest =>
    simp only at h
    generalize hinside : rest.takeWhile (fun c => c != .char '\x7b' && c != .char '\x7d') = inside
      at h
    split at h
    · next after hdrop =>
      split at h
      · cases h
      · next hne =>
        obtain ⟨rfl, rfl⟩ := Prod.mk.inj (Option.some.inj h)
        refine ⟨inside, after, ?_, rfl, ⟨by simpa using hne, fun c hc => ?_⟩, rfl⟩
        · have hrest :=
            @List.takeWhile_append_dropWhile _ (fun c =>
              c != .char '\x7b' && c != .char '\x7d') rest
          rw [hinside] at hrest
          rw [← hrest, List.drop_left] at hdrop
          rw [← hrest, hdrop]
          simp
        · rw [← hinside] at hc
          simpa using List.mem_takeWhile_imp hc
    · cases h
  · cases h

/-! ## Tokens -/

inductive TokenAt (behind offset : Nat) (t : Text) : Token → Nat → Prop
  | opening (h : opensGroup t = true) : TokenAt behind offset t (.symbol .opening offset) 1
  | closing (ho : opensGroup t = false) (h : startsWith t [.char ')'] = true) :
      TokenAt behind offset t (.symbol .closing offset) 1
  | not {n : Nat} (ho : opensGroup t = false) (hc : startsWith t [.char ')'] = false)
      (h : notLength? t = some n) :
      TokenAt behind offset t (.symbol .not behind) n
  | and {n : Nat} (ho : opensGroup t = false) (hc : startsWith t [.char ')'] = false)
      (hn : notLength? t = none)
      (h : andLength? t = some n) : TokenAt behind offset t (.symbol .and behind) n
  | or {n : Nat} (ho : opensGroup t = false) (hc : startsWith t [.char ')'] = false)
      (hn : notLength? t = none)
      (ha : andLength? t = none) (h : orLength? t = some n) :
        TokenAt behind offset t (.symbol .or behind) n
  | bookmark {name : Text} {n : Nat} (ho : opensGroup t = false)
      (hc : startsWith t [.char ')'] = false) (hn : notLength? t = none)
      (ha : andLength? t = none) (hr : orLength? t = none) (h : bookmark? t = some (name, n)) :
      TokenAt behind offset t (.operand (.bookmark offset name)) n
  | comparison {e : Expr} {n : Nat} (ho : opensGroup t = false)
      (hc : startsWith t [.char ')'] = false) (hn : notLength? t = none)
      (ha : andLength? t = none) (hr : orLength? t = none) (hb : bookmark? t = none)
        (h : comparison? offset t = some (e, n)) :
      TokenAt behind offset t (.operand e) n

theorem token?_eq_some_iff {behind offset n : Nat} {t : Text} {token : Token} :
    token? behind offset t = some (token, n) ↔ TokenAt behind offset t token n := by
  constructor
  · intro h
    rw [token?] at h
    cases ho : opensGroup t with
    | true =>
      obtain ⟨rfl, rfl⟩ : .symbol .opening offset = token ∧ 1 = n := by simpa [ho] using h
      exact .opening ho
    | false =>
      rw [ho, if_neg (by decide)] at h
      cases hc : startsWith t [.char ')'] with
      | true =>
        obtain ⟨rfl, rfl⟩ : .symbol .closing offset = token ∧ 1 = n := by simpa [hc] using h
        exact .closing ho hc
      | false =>
        rw [hc, if_neg (by decide)] at h
        cases hn : notLength? t with
        | some k =>
          obtain ⟨rfl, rfl⟩ : .symbol .not behind = token ∧ k = n := by simpa [hn] using h
          exact .not ho hc hn
        | none =>
          cases ha : andLength? t with
          | some k =>
            obtain ⟨rfl, rfl⟩ : .symbol .and behind = token ∧ k = n := by simpa [hn, ha] using h
            exact .and ho hc hn ha
          | none =>
            cases hr : orLength? t with
            | some k =>
              obtain ⟨rfl, rfl⟩ : .symbol .or behind = token ∧ k = n := by
                simpa [hn, ha, hr] using h
              exact .or ho hc hn ha hr
            | none =>
              cases hb : bookmark? t with
              | some p =>
                obtain ⟨rfl, rfl⟩ : .operand (.bookmark offset p.1) = token ∧ p.2 = n := by
                  simpa [hn, ha, hr, hb] using h
                exact .bookmark ho hc hn ha hr hb
              | none =>
                simp only [hn, ha, hr, hb] at h
                obtain ⟨⟨e, k⟩, he, heq⟩ := Option.map_eq_some_iff.mp h
                obtain ⟨rfl, rfl⟩ := Prod.mk.inj heq
                exact .comparison ho hc hn ha hr hb he
  · intro h
    rw [token?]
    cases h <;> simp [*]

/-- The text that a token takes, by the kind of the token, in front of the text behind it. -/
inductive TokenText (offset : Nat) (s : Text) : Token → Text → Prop
  | opening (n : Nat) : TokenText offset s (.symbol .opening n) [.char '(']
  | closing (n : Nat) : TokenText offset s (.symbol .closing n) [.char ')']
  | operator {k : Symbol} {x : Text} (n : Nat) (hx : x ∈ k.spellings) :
      TokenText offset s (.symbol k n) x
  | bookmark {inside : Text} (h : IsInside inside) :
      TokenText offset s (.operand (.bookmark offset (strip inside)))
        (.char '\x7b' :: (inside ++ [.char '\x7d']))
  | comparison {x : Text} {e : Expr} (h : ComparisonBefore offset s x e) :
      TokenText offset s (.operand e) x

theorem TokenAt.split {behind offset n : Nat} {t : Text} {token : Token}
    (h : TokenAt behind offset t token n) :
    ∃ x s, t = x ++ s ∧ x.length = n ∧ TokenText offset s token x := by
  have hprefix : ∀ {w : Text}, startsWith t w = true → ∃ s, t = w ++ s := fun hs =>
    (startsWith_iff.mp hs).imp fun _ hs => hs.symm
  cases h with
  | opening h =>
    rw [opensGroup, Bool.and_eq_true] at h
    obtain ⟨s, rfl⟩ := hprefix h.1
    exact ⟨_, s, rfl, rfl, .opening offset⟩
  | closing ho h =>
    obtain ⟨s, rfl⟩ := hprefix h
    exact ⟨_, s, rfl, rfl, .closing offset⟩
  | not ho hc h =>
    obtain ⟨w, hw, hs, hn⟩ := notLength?_eq_some h
    obtain ⟨s, rfl⟩ := hprefix hs
    exact ⟨w, s, rfl, hn, .operator behind hw⟩
  | and ho hc hn h =>
    obtain ⟨w, hw, hs, hlen⟩ := andLength?_eq_some h
    obtain ⟨s, rfl⟩ := hprefix hs
    exact ⟨w, s, rfl, hlen, .operator behind hw⟩
  | or ho hc hn ha h =>
    obtain ⟨w, hw, hs, hlen⟩ := orLength?_eq_some h
    obtain ⟨s, rfl⟩ := hprefix hs
    exact ⟨w, s, rfl, hlen, .operator behind hw⟩
  | bookmark ho hc hn ha hr h =>
    obtain ⟨inside, s, rfl, hn, hinside, rfl⟩ := bookmark?_eq_some h
    exact ⟨_, s, rfl, by simpa using hn, .bookmark hinside⟩
  | comparison ho hc hn ha hr hb h =>
    obtain ⟨x, s, rfl, hn, hbefore⟩ := comparison?_split h
    exact ⟨x, s, rfl, hn, .comparison hbefore⟩

theorem TokenAt.text {behind offset : Nat} {x s : Text} {token : Token}
    (h : TokenAt behind offset (x ++ s) token x.length) :
    TokenText offset s token x := by
  obtain ⟨y, r, hsplit, hlen, htext⟩ := h.split
  obtain ⟨rfl, rfl⟩ := List.append_inj hsplit hlen.symm
  exact htext

theorem TokenText.ne_nil {offset : Nat} {x s : Text} {token : Token}
    (h : TokenText offset s token x) : x ≠ [] := by
  cases h with
  | opening | closing | bookmark => simp
  | operator n hx =>
    obtain ⟨c, u, rfl, -, -⟩ := spelling_head hx
    simp
  | comparison h => exact h.ne_nil

theorem TokenText.head_not_gap {offset : Nat} {x s : Text} {token : Token}
    (h : TokenText offset s token x) :
    ∃ c y, x = c :: y ∧ isGap c = false := by
  have hpattern : ∀ {r p : Text} (y : Text), PatternBefore r p →
      ∃ c z, p ++ y = c :: z ∧ isGap c = false := by
    intro r p y hp
    obtain ⟨c, z, rfl, hc⟩ := hp.isPattern.eq_cons
    exact ⟨c, z ++ y, rfl, hc⟩
  cases h with
  | opening | closing | bookmark => exact ⟨_, _, rfl, by decide⟩
  | operator n hx =>
    obtain ⟨c, y, hx, hc, -⟩ := spelling_head hx
    exact ⟨c, y, hx, hc⟩
  | comparison h =>
    cases h with
    | tag hp => exact hpattern _ hp
    | pair hp => exact hpattern _ hp

theorem TokenAt.skipGap_eq {behind offset n : Nat} {t : Text} {token : Token}
    (h : TokenAt behind offset t token n) :
    skipGap t = t := by
  obtain ⟨x, s, rfl, -, htext⟩ := h.split
  obtain ⟨c, y, rfl, hc⟩ := htext.head_not_gap
  exact skipGap_eq_self hc (y ++ s)

theorem TokenAt.mayFollowGroup {behind offset m n : Nat} {t : Text} {k : Symbol}
    (h : TokenAt behind offset t (.symbol k m) n)
    (hk : k = .closing ∨ k = .and ∨ k = .or) : mayFollowGroup t = true := by
  rw [Term.mayFollowGroup, h.skipGap_eq]
  cases h with
  | opening | not => simp at hk
  | closing ho h =>
    obtain ⟨s, rfl⟩ := startsWith_iff.mp h
    rfl
  | and ho hc hn h => split <;> simp [h]
  | or ho hc hn ha h => split <;> simp [h]

theorem TokenAt.comparatorAt?_eq_none {behind offset n : Nat} {t : Text} {token : Token}
    (h : TokenAt behind offset t token n) :
    comparatorAt? t = none := by
  cases hop : comparatorAt? t with
  | none => rfl
  | some op =>
    obtain ⟨s, rfl⟩ := startsWith_of_comparatorAt? hop
    exfalso
    cases h with
    | opening h => cases op <;> simp [opensGroup, startsWith, Comparator.symbol] at h
    | closing ho h => cases op <;> simp [startsWith, Comparator.symbol] at h
    | not ho hc h => cases op <;>
        simp [notLength?, isWordOperator, startsWith, Comparator.symbol] at h
    | and ho hc hn h => cases op <;>
        simp [andLength?, isWordOperator, startsWith, Comparator.symbol] at h
    | or ho hc hn ha h => cases op <;>
        simp [orLength?, isWordOperator, startsWith, Comparator.symbol] at h
    | bookmark ho hc hn ha hr h => cases op <;> simp [bookmark?, Comparator.symbol] at h
    | comparison ho hc hn ha hr hb h =>
      obtain ⟨k, hk, -⟩ := comparison?_eq_some h
      cases op <;>
        simp [patternLength?, runLength?, runLength?.runEnd, startsOperator, startsConnective,
          startsWith, Comparator.symbol] at hk

theorem PatternBefore.ne_backslash {s p : Text} (h : PatternBefore s p) : p ≠ [.char '\\'] := by
  rintro rfl
  cases h.run with
  | plain hc => simp [special] at hc

theorem TokenText.ne_backslash {offset : Nat} {x s : Text} {token : Token}
    (h : TokenText offset s token x) : x ≠ [.char '\\'] := by
  cases h with
  | opening | closing | bookmark => simp
  | @operator k x n hx =>
    rintro rfl
    cases k <;> simp [Symbol.spellings] at hx
  | comparison h =>
    intro hx
    cases h with
    | tag hp =>
      rcases List.append_eq_singleton_iff.mp hx with ⟨hnil, -⟩ | ⟨hp', -⟩
      · exact hp.ne_nil hnil
      · exact hp.ne_backslash hp'
    | pair hp =>
      rcases List.append_eq_singleton_iff.mp hx with ⟨hnil, -⟩ | ⟨hp', -⟩
      · exact hp.ne_nil hnil
      · exact hp.ne_backslash hp'

end FileTags.Term

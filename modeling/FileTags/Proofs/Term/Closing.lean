import FileTags.Proofs.Term.Run

/-!
# Closing parentheses

The look-ahead of a group scans for the parenthesis that closes it, and passes over escapes, classes
and what stands in braces. It passes over everything whose parentheses are paired in it, and so over
every pattern, as long as the braces of the pattern close inside it.
-/

set_option autoImplicit false

namespace FileTags.Term

open Text

def braceCloses : Text → Bool
  | [] => false
  | c :: rest => c == .char '\x7d' || (!special.contains c && braceCloses rest)

/-- Whether all opening braces close so, where escapes and classes are passed over. The number says
how many characters belong to what has been read already. -/
def bracesClose : Nat → Text → Bool
  | _, [] => true
  | pending + 1, _ :: rest => bracesClose pending rest
  | 0, c :: rest =>
    if c = .char '\\' then bracesClose 1 rest
    else if c = .char '[' then bracesClose (((classLength? rest).getD 1) - 1) rest
    else (c != .char '\x7b' || braceCloses rest) && bracesClose 0 rest

/-- The scan for the parenthesis that closes a group passes over the text, whatever stands behind
it. -/
def Passed (t : Text) : Prop :=
  ∀ (depth : Int) (rest : Text), 1 ≤ depth →
    closeDistance? depth 0 (t ++ rest) = (closeDistance? depth 0 rest).map (· + t.length)

theorem closeDistance?_skip (depth : Int) (u rest : Text) :
    closeDistance? depth u.length (u ++ rest) =
      (closeDistance? depth 0 rest).map (· + u.length) := by
  induction u with
  | nil => simp
  | cons c u ih =>
    rw [List.length_cons, List.cons_append, closeDistance?, ih, Option.map_map]
    rfl

theorem bracesClose_skip (u rest : Text) :
    bracesClose u.length (u ++ rest) = bracesClose 0 rest := by
  induction u with
  | nil => rfl
  | cons c u ih => rw [List.length_cons, List.cons_append, bracesClose, ih]

theorem bracesClose_cons {c : Rune} (h : c ≠ .char '\\' ∧ c ≠ .char '[') (t : Text) :
    bracesClose 0 (c :: t) = ((c != .char '\x7b' || braceCloses t) && bracesClose 0 t) := by
  rw [bracesClose, if_neg h.1, if_neg h.2]

theorem bracesClose_of_plain {t : Text} (h : ∀ c ∈ t, c ∉ .char '\x7b' :: special) :
    bracesClose 0 t = true := by
  induction t with
  | nil => rfl
  | cons c t ih =>
    have hc := h c (by simp)
    simp only [special, List.mem_cons, List.not_mem_nil, or_false, not_or] at hc
    simp [bracesClose, hc, ih fun d hd => h d (by simp [hd])]

theorem passed_nil : Passed [] := by
  intro depth rest hd
  simp

theorem Passed.append {t u : Text} (ht : Passed t) (hu : Passed u) : Passed (t ++ u) := by
  intro depth rest hd
  rw [List.append_assoc, ht depth _ hd, hu depth _ hd, Option.map_map, List.length_append]
  congr 1
  funext n
  simp only [Function.comp_apply]
  omega

theorem Passed.cons {c : Rune} {t : Text} (hc : c ∉ .char '\x7b' :: special) (ht : Passed t) :
    Passed (c :: t) := by
  intro depth rest hd
  simp only [special, List.mem_cons, List.not_mem_nil, or_false, not_or] at hc
  obtain ⟨h1, h2, h3, h4, h5⟩ := hc
  rw [List.cons_append, closeDistance?, if_neg h2, if_neg h3, if_neg h1, if_neg h4, if_neg h5,
    ht depth _ hd, Option.map_map]
  rfl

theorem closeDistance?_opening (depth : Int) (rest : Text) :
    closeDistance? depth 0 (.char '(' :: rest) = (closeDistance? (depth + 1) 0 rest).map (· + 1) :=
      rfl

theorem closeDistance?_closing {depth : Int} (h : depth ≠ 1) (rest : Text) :
    closeDistance? depth 0 (.char ')' :: rest) =
      (closeDistance? (depth - 1) 0 rest).map (· + 1) := by
  rw [closeDistance?, if_neg (by decide), if_neg (by decide), if_neg (by decide),
    if_neg (by decide), if_pos rfl, if_neg h]

theorem closeDistance?_escape (depth : Int) (c : Rune) (rest : Text) :
    closeDistance? depth 0 (.char '\\' :: c :: rest) =
      (closeDistance? depth 0 rest).map (· + 2) := by
  rw [closeDistance?, if_pos rfl,
    show closeDistance? depth 1 (c :: rest) = _ from closeDistance?_skip depth [c] rest,
    Option.map_map]
  rfl

theorem closeDistance?_class {b : Text} (hb : IsClassRest b) (depth : Int) (rest : Text) :
    closeDistance? depth 0 (.char '[' :: (b ++ rest)) =
      (closeDistance? depth 0 rest).map (· + (b.length + 1)) := by
  rw [closeDistance?, if_neg (by decide), if_pos rfl, hb rest, Option.getD_some, Nat.add_sub_cancel,
    closeDistance?_skip,
    Option.map_map]
  rfl

theorem findIdx?_close {inside : Text} (h : .char '\x7d' ∉ inside) (rest : Text) :
    (inside ++ .char '\x7d' :: rest).findIdx? (· == .char '\x7d') = some inside.length := by
  induction inside with
  | nil => rfl
  | cons c inside ih =>
    simp only [List.mem_cons, not_or] at h
    simp [List.findIdx?_cons, Ne.symm h.1, ih h.2]

theorem findIdx?_close_eq_none {t : Text} (h : .char '\x7d' ∉ t) :
    t.findIdx? (· == .char '\x7d') = none := by
  rw [List.findIdx?_eq_none_iff]
  intro c hc
  exact beq_eq_false_iff_ne.mpr fun heq => h (heq ▸ hc)

theorem closeDistance?_braces {inside : Text} (h : .char '\x7d' ∉ inside) (depth : Int)
    (rest : Text) :
    closeDistance? depth 0 (.char '\x7b' :: (inside ++ .char '\x7d' :: rest)) =
      (closeDistance? depth 0 rest).map (· + (inside.length + 2)) := by
  rw [closeDistance?, if_neg (by decide), if_neg (by decide), if_pos rfl, findIdx?_close h]
  have hskip := closeDistance?_skip depth (inside ++ [.char '\x7d']) rest
  simp only [List.length_append, List.length_singleton, List.append_assoc, List.singleton_append]
    at hskip
  simp only [Option.map_some, Option.getD_some, hskip, Option.map_map]
  rfl

theorem Passed.group {t : Text} (h : Passed t) : Passed (.char '(' :: (t ++ [.char ')'])) := by
  intro depth rest hd
  simp only [List.cons_append, List.append_assoc, List.nil_append, closeDistance?_opening,
    h (depth + 1) _ (by omega),
    closeDistance?_closing (show depth + 1 ≠ 1 by omega), Option.map_map, Int.add_sub_cancel]
  congr 1
  funext n
  simp
  omega

theorem passed_braces {inside : Text} (h : .char '\x7d' ∉ inside) :
    Passed (.char '\x7b' :: (inside ++ [.char '\x7d'])) := by
  intro depth rest hd
  rw [List.cons_append, List.append_assoc, List.singleton_append, closeDistance?_braces h]
  simp

/-- The parenthesis in front of a text that is passed over closes behind it. -/
theorem Passed.groupClose {t : Text} (h : Passed t) (rest : Text) :
    groupClose? (.char '(' :: (t ++ .char ')' :: rest)) 0 = some (t.length + 1) := by
  have hclose : closeDistance? 1 0 (.char ')' :: rest) = some 0 := rfl
  rw [groupClose?, List.drop_zero, closeDistance?_opening, show (0 : Int) + 1 = 1 from rfl,
    h 1 _ (by omega), hclose]
  simp

theorem braceCloses_split {t : Text} (h : braceCloses t = true) :
    ∃ inside after, t = inside ++ .char '\x7d' :: after ∧ .char '\x7d' ∉ inside ∧
    ∀ c ∈ inside, c ∉ special := by
  induction t with
  | nil => cases h
  | cons c t ih =>
    by_cases hc : c = .char '\x7d'
    · subst hc
      exact ⟨[], t, rfl, by simp, by simp⟩
    · simp only [braceCloses, Bool.or_eq_true, beq_iff_eq, hc, false_or, Bool.and_eq_true] at h
      obtain ⟨inside, after, rfl, hn, hs⟩ := ih h.2
      refine ⟨c :: inside, after, rfl, by simp [Ne.symm hc, hn], ?_⟩
      intro d hd
      rcases List.mem_cons.mp hd with rfl | hd
      · simpa using h.1
      · exact hs d hd

theorem Run.drop_plain {k : Nat} {u v : Text} (h : Run k (u ++ v)) (hu : ∀ c ∈ u, c ∉ special) :
    Run k v := by
  induction u with
  | nil => exact h
  | cons c u ih =>
    have hc := hu c (by simp)
    refine ih ?_ fun d hd => hu d (by simp [hd])
    rw [List.cons_append] at h
    generalize u ++ v = w at h ⊢
    cases h with
    | plain _ _ _ _ h => exact h
    | escape | cls | opening | closing => simp [special] at hc

theorem bracesClose_drop_plain {u v : Text} (h : bracesClose 0 (u ++ v) = true)
    (hu : ∀ c ∈ u, c ∉ special) :
    bracesClose 0 v = true := by
  induction u with
  | nil => exact h
  | cons c u ih =>
    have hc := hu c (by simp)
    simp only [special, List.mem_cons, List.not_mem_nil, or_false, not_or] at hc
    rw [List.cons_append, bracesClose_cons ⟨hc.1, hc.2.1⟩, Bool.and_eq_true] at h
    exact ih h.2 fun d hd => hu d (by simp [hd])

theorem bracesClose_escape (c : Rune) (t : Text) :
    bracesClose 0 (.char '\\' :: c :: t) = bracesClose 0 t := by
  rw [bracesClose, if_pos rfl, bracesClose]

theorem bracesClose_class {b : Text} (hb : IsClassRest b) (t : Text) :
    bracesClose 0 (.char '[' :: (b ++ t)) = bracesClose 0 t := by
  rw [bracesClose, if_neg (by decide), if_pos rfl, hb t, Option.getD_some, Nat.add_sub_cancel,
    bracesClose_skip]

/-- Braces that close have plain characters in them, and what stands behind them has its braces
closed as well. -/
theorem bracesClose_braces {t : Text} (h : bracesClose 0 (.char '\x7b' :: t) = true) :
    ∃ inside after, t = (inside ++ [.char '\x7d']) ++ after ∧ .char '\x7d' ∉ inside ∧
    (∀ c ∈ inside ++ [.char '\x7d'], c ∉ special) ∧
      bracesClose 0 after = true := by
  rw [bracesClose_cons (by decide), Bool.and_eq_true] at h
  obtain ⟨inside, after, rfl, hn, hplain⟩ := braceCloses_split (by simpa using h.1)
  have hplain' : ∀ c ∈ inside ++ [.char '\x7d'], c ∉ special := by
    intro c hc
    rcases List.mem_append.mp hc with hc | hc
    · exact hplain c hc
    · rw [List.mem_singleton.mp hc]
      decide
  have hsplit : inside ++ .char '\x7d' :: after = (inside ++ [.char '\x7d']) ++ after := by simp
  refine ⟨inside, after, hsplit, hn, hplain', ?_⟩
  rw [hsplit] at h
  exact bracesClose_drop_plain h.2 hplain'

/-! ## Nested texts -/

/-- A text made of escapes, classes, braces, groups and plain characters, so that each of its
parentheses has its partner in it. -/
inductive Nested : Text → Prop
  | nil : Nested []
  | escape (c : Rune) {t : Text} (h : Nested t) : Nested (.char '\\' :: c :: t)
  | cls {b t : Text} (hb : IsClassRest b) (h : Nested t) : Nested (.char '[' :: (b ++ t))
  | braces {inside t : Text} (hi : .char '\x7d' ∉ inside) (h : Nested t) :
      Nested (.char '\x7b' :: (inside ++ .char '\x7d' :: t))
  | group {t u : Text} (ht : Nested t) (hu : Nested u) : Nested (.char '(' :: (t ++ .char ')' :: u))
  | plain {c : Rune} {t : Text} (hc : c ∉ .char '\x7b' :: special) (h : Nested t) : Nested (c :: t)

theorem Nested.append {t u : Text} (ht : Nested t) (hu : Nested u) : Nested (t ++ u) := by
  induction ht with
  | nil => exact hu
  | escape c _ ih => exact .escape c ih
  | cls hb _ ih => simpa using Nested.cls hb ih
  | braces hi _ ih => simpa using Nested.braces hi ih
  | group h _ _ ih => simpa using Nested.group h ih
  | plain hc _ ih => exact .plain hc ih

theorem nested_of_plain {t : Text} (h : ∀ c ∈ t, c ∉ .char '\x7b' :: special) : Nested t := by
  induction t with
  | nil => exact .nil
  | cons c t ih => exact .plain (h c (by simp)) (ih fun d hd => h d (by simp [hd]))

theorem passed_escape (c : Rune) : Passed [.char '\\', c] :=
  fun depth rest _ => closeDistance?_escape depth c rest

theorem passed_class {b : Text} (hb : IsClassRest b) : Passed (.char '[' :: b) :=
  fun depth rest _ => closeDistance?_class hb depth rest

theorem Nested.passed {t : Text} (h : Nested t) : Passed t := by
  induction h with
  | nil => exact passed_nil
  | escape c _ ih => exact (passed_escape c).append ih
  | cls hb _ ih => exact (passed_class hb).append ih
  | braces hi _ ih => simpa using (passed_braces hi).append ih
  | group _ _ iht ihu => simpa using iht.group.append ihu
  | plain hc _ ih => exact ih.cons hc

theorem passed_of_plain {t : Text} (h : ∀ c ∈ t, c ∉ .char '\x7b' :: special) : Passed t :=
  (nested_of_plain h).passed

/-- A run that goes up to a higher depth comes to the parenthesis that closes it. By induction on
the length, since what is in parentheses comes before what is behind them. -/
theorem Run.closes {n : Nat} : ∀ {k : Nat} {t : Text}, t.length ≤ n → Run (k + 1) t →
    bracesClose 0 t = true →
    ∃ u v, t = u ++ .char ')' :: v ∧ Nested u ∧ Run k v ∧ bracesClose 0 v = true := by
  induction n with
  | zero =>
    intro k t ht h
    obtain rfl := List.length_eq_zero_iff.mp (Nat.le_zero.mp ht)
    cases h
  | succ n ih =>
    intro k t ht h hb
    cases h with
    | @escape _ c t h =>
      rw [bracesClose_escape] at hb
      simp only [List.length_cons] at ht
      obtain ⟨u, v, rfl, hu, hv⟩ := ih (by omega) h hb
      exact ⟨.char '\\' :: c :: u, v, rfl, hu.escape c, hv⟩
    | @cls _ b t hcls h =>
      rw [bracesClose_class hcls] at hb
      simp only [List.length_cons, List.length_append] at ht
      obtain ⟨u, v, rfl, hu, hv⟩ := ih (by omega) h hb
      exact ⟨.char '[' :: (b ++ u), v, by simp, hu.cls hcls, hv⟩
    | @opening _ t h =>
      rw [bracesClose_cons (by decide), Bool.and_eq_true] at hb
      simp only [List.length_cons] at ht
      obtain ⟨u, w, rfl, hu, hw, hbw⟩ := ih (by omega) h hb.2
      simp only [List.length_append, List.length_cons] at ht
      obtain ⟨u', v, rfl, hu', hv⟩ := ih (by omega) hw hbw
      exact ⟨.char '(' :: (u ++ .char ')' :: u'), v, by simp, hu.group hu', hv⟩
    | @closing _ t h =>
      rw [bracesClose_cons (by decide), Bool.and_eq_true] at hb
      exact ⟨[], t, rfl, .nil, h, hb.2⟩
    | @plain _ c t hc hblank hs ho h =>
      by_cases hbrace : c = .char '\x7b'
      · subst hbrace
        obtain ⟨inside, after, rfl, hn, hplain, hafter⟩ := bracesClose_braces hb
        simp only [List.length_append, List.length_cons] at ht
        obtain ⟨u, v, rfl, hu, hv⟩ := ih (by omega) (h.drop_plain hplain) hafter
        exact ⟨.char '\x7b' :: (inside ++ .char '\x7d' :: u), v, by simp, hu.braces hn, hv⟩
      · have hc' := hc
        simp only [special, List.mem_cons, List.not_mem_nil, or_false, not_or] at hc'
        rw [bracesClose_cons ⟨hc'.1, hc'.2.1⟩, Bool.and_eq_true] at hb
        simp only [List.length_cons] at ht
        obtain ⟨u, v, rfl, hu, hv⟩ := ih (by omega) h hb.2
        exact ⟨c :: u, v, rfl, hu.plain (by simp [hbrace, hc]), hv⟩

/-- A run down to no parentheses from none is nested. By induction on the length, since groups and
braces are taken at once. -/
theorem Run.nested {n : Nat} : ∀ {t : Text}, t.length ≤ n → Run 0 t → bracesClose 0 t = true →
    Nested t := by
  induction n with
  | zero =>
    intro t ht _ _
    obtain rfl := List.length_eq_zero_iff.mp (Nat.le_zero.mp ht)
    exact .nil
  | succ n ih =>
    intro t ht h hb
    cases h with
    | nil => exact .nil
    | @escape _ c t h =>
      rw [bracesClose_escape] at hb
      simp only [List.length_cons] at ht
      exact .escape c (ih (by omega) h hb)
    | @cls _ b t hcls h =>
      rw [bracesClose_class hcls] at hb
      simp only [List.length_cons, List.length_append] at ht
      exact .cls hcls (ih (by omega) h hb)
    | @opening _ t h =>
      rw [bracesClose_cons (by decide), Bool.and_eq_true] at hb
      obtain ⟨u, v, rfl, hu, hv, hbv⟩ := Run.closes (Nat.le_refl _) h hb.2
      simp only [List.length_cons, List.length_append] at ht
      exact .group hu (ih (by omega) hv hbv)
    | @plain _ c t hc hblank hs ho h =>
      by_cases hbrace : c = .char '\x7b'
      · subst hbrace
        obtain ⟨inside, after, rfl, hn, hplain, hafter⟩ := bracesClose_braces hb
        simp only [List.length_append, List.length_cons] at ht
        have hnested := Nested.braces hn (ih (by omega) (h.drop_plain hplain) hafter)
        simpa using hnested
      · have hc' := hc
        simp only [special, List.mem_cons, List.not_mem_nil, or_false, not_or] at hc'
        rw [bracesClose_cons ⟨hc'.1, hc'.2.1⟩, Bool.and_eq_true] at hb
        simp only [List.length_cons] at ht
        exact .plain (by simp [hbrace, hc]) (ih (by omega) h hb.2)

theorem IsPattern.nested {t : Text} (h : IsPattern t) (hb : bracesClose 0 t = true) : Nested t :=
  Run.nested (Nat.le_refl _) (isPattern_iff.mp h).1 hb

/-- A pattern whose braces close inside it closes no parenthesis in front of it. -/
theorem IsPattern.passed {t : Text} (h : IsPattern t) (hb : bracesClose 0 t = true) : Passed t :=
  (h.nested hb).passed

end FileTags.Term

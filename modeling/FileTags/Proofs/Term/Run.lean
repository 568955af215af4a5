import FileTags.Pattern.Anchored
import FileTags.Term.Lexeme

/-!
# The units of a pattern

A pattern is made of escapes, classes, parentheses and plain characters. The lexer measures it by a
scan with a depth; here its units are an inductive relation, and the scan follows it. What stands
behind a pattern does not change where the pattern ends, and no more do anchors.
-/

set_option autoImplicit false

namespace FileTags.Term

open Text

/-! ## Classes -/

/-- The inside of a class, closing bracket included. What follows does not change how long it is. -/
def IsClassRest (inside : Text) : Prop :=
  ∀ rest, classLength? (inside ++ rest) = some (inside.length + 1)

theorem classRest?_cons {c : Rune} (hc : c ≠ .char '\\') (rest : Text) :
    classRest? (c :: rest) =
      if isBlank c then none else if c = .char ']' then some 1
        else (classRest? rest).map (· + 1) := by
  rw [classRest?]
  · rintro rfl -
    exact hc rfl
  · rintro d v rfl -
    exact hc rfl

theorem classRest?_exact {t : Text} {n : Nat} (h : classRest? t = some n) :
    ∃ d u v, t = d :: u ++ v ∧ u.length + 1 = n ∧ ∀ rest, classRest? (d :: u ++ rest) = some n := by
  fun_induction classRest? t generalizing n with
  | case1 => simp at h
  | case2 => simp at h
  | case3 c rest ih =>
    obtain ⟨k, hk, rfl⟩ := Option.map_eq_some_iff.mp h
    obtain ⟨d, u, v, rfl, rfl, hu⟩ := ih hk
    refine ⟨.char '\\', c :: d :: u, v, rfl, rfl, fun rest => ?_⟩
    simpa [classRest?] using hu rest
  | case4 => simp at h
  | case5 rest h1 h2 hb =>
    obtain rfl : 1 = n := by simpa using h
    refine ⟨.char ']', [], rest, rfl, rfl, fun rest => ?_⟩
    rw [List.cons_append, classRest?_cons (by decide)]
    rfl
  | case6 c rest h1 h2 hb hc ih =>
    have hslash : c ≠ .char '\\' := by
      rintro rfl
      cases rest with
      | nil => exact h1 rfl rfl
      | cons d w => exact h2 d w rfl rfl
    obtain ⟨k, hk, rfl⟩ := Option.map_eq_some_iff.mp h
    obtain ⟨d, u, v, rfl, rfl, hu⟩ := ih hk
    refine ⟨c, d :: u, v, rfl, rfl, fun rest => ?_⟩
    rw [List.cons_append, classRest?_cons hslash, if_neg hb, if_neg hc, hu]
    rfl

theorem classLength?_exact {t : Text} {n : Nat} (h : classLength? t = some n) :
    ∃ u v, t = u ++ v ∧ n = u.length + 1 ∧ IsClassRest u := by
  unfold classLength? at h
  split at h
  all_goals
    obtain ⟨k, hk, rfl⟩ := Option.map_eq_some_iff.mp h
    obtain ⟨d, u, v, rfl, rfl, hu⟩ := classRest?_exact hk
  · exact ⟨.char '^' :: .char ']' :: d :: u, v, rfl, rfl,
      fun rest => by simpa [classLength?] using hu rest⟩
  · next hn =>
    have hd : d ≠ .char ']' := by rintro rfl; exact hn _ rfl
    exact ⟨.char '^' :: d :: u, v, rfl, rfl, fun rest => by simpa [classLength?, hd] using hu rest⟩
  · exact ⟨.char ']' :: d :: u, v, rfl, rfl, fun rest => by simpa [classLength?] using hu rest⟩
  · next hn1 hn2 hn3 =>
    have hd1 : d ≠ .char '^' := by rintro rfl; exact hn2 _ rfl
    have hd2 : d ≠ .char ']' := by rintro rfl; exact hn3 _ rfl
    exact ⟨d :: u, v, rfl, rfl, fun rest => by simpa [classLength?, hd1, hd2] using hu rest⟩

/-! ## Runs -/

def special : List Rune := [.char '\\', .char '[', .char '(', .char ')']

/-- A text made of the units of a pattern, from a depth of open parentheses down to none. -/
inductive Run : Nat → Text → Prop
  | nil : Run 0 []
  | escape {k : Nat} {c : Rune} {t : Text} (h : Run k t) : Run k (.char '\\' :: c :: t)
  | cls {k : Nat} {b t : Text} (hb : IsClassRest b) (h : Run k t) : Run k (.char '[' :: (b ++ t))
  | opening {k : Nat} {t : Text} (h : Run (k + 1) t) : Run k (.char '(' :: t)
  | closing {k : Nat} {t : Text} (h : Run k t) : Run (k + 1) (.char ')' :: t)
  | plain {k : Nat} {c : Rune} {t : Text} (hc : c ∉ special) (hb : isBlank c = false)
      (hs : startsConnective (c :: t) = false) (ho : k = 0 →
        startsOperator (c :: t) = false) (h : Run k t) : Run k (c :: t)

/-- What may stand behind a pattern: nothing, a blank or a closing parenthesis. -/
def Stops (rest : Text) : Prop := ∀ c ∈ rest.head?, isBlank c = true ∨ c = .char ')'

theorem runLength?_skip (k : Nat) (u rest : Text) :
    runLength? k u.length (u ++ rest) = (runLength? k 0 rest).map (· + u.length) := by
  induction u with
  | nil => simp
  | cons c u ih =>
    rw [List.length_cons, List.cons_append, runLength?, ih, Option.map_map]
    rfl

theorem runLength?_escape (k : Nat) (c : Rune) (rest : Text) :
    runLength? k 0 (.char '\\' :: c :: rest) = (runLength? k 0 rest).map (· + 2) := by
  have hskip : (runLength? k 1 (c :: rest)).map (· + 1) = (runLength? k 0 rest).map (· + 2) := by
    rw [show runLength? k 1 (c :: rest) = _ from runLength?_skip k [c] rest, Option.map_map]
    rfl
  rw [← hskip]
  cases k <;> rfl

theorem runLength?_class {b : Text} (hb : IsClassRest b) (k : Nat) (rest : Text) :
    runLength? k 0 (.char '[' :: (b ++ rest)) = (runLength? k 0 rest).map (· + (b.length + 1)) := by
  have hskip : (runLength? k b.length (b ++ rest)).map (· + 1) =
      (runLength? k 0 rest).map (· + (b.length + 1)) := by
    rw [runLength?_skip, Option.map_map]
    rfl
  rw [← hskip]
  cases k <;> rw [runLength?, if_neg (by decide), if_pos rfl, hb rest] <;> rfl

theorem runLength?_opening (k : Nat) (rest : Text) :
    runLength? k 0 (.char '(' :: rest) = (runLength? (k + 1) 0 rest).map (· + 1) := by
  cases k <;> rfl

theorem runLength?_closing (k : Nat) (rest : Text) :
    runLength? (k + 1) 0 (.char ')' :: rest) = (runLength? k 0 rest).map (· + 1) := rfl

theorem runLength?_plain {c : Rune} (hc : c ∉ special) (k : Nat) (rest : Text) :
    runLength? k 0 (c :: rest) =
      if isBlank c || startsConnective (c :: rest) ||
        (k = 0 && startsOperator (c :: rest)) then runLength?.runEnd k
      else (runLength? k 0 rest).map (· + 1) := by
  simp only [special, List.mem_cons, List.not_mem_nil, or_false, not_or] at hc
  obtain ⟨h1, h2, h3, h4⟩ := hc
  by_cases hb : (isBlank c || startsConnective (c :: rest)) = true
  · cases k <;> rw [runLength?, if_neg h1, if_neg h2, if_pos hb, if_pos (by simp [hb])]
  · cases k with
    | zero =>
      rw [runLength?, if_neg h1, if_neg h2, if_neg hb]
      by_cases ho : startsOperator (c :: rest) = true
      · simp [ho]
      · simp [hb, ho, h3, h4]
    | succ k =>
      rw [runLength?, if_neg h1, if_neg h2, if_neg hb]
      simp [hb, h3, h4]

theorem runLength?_stops {rest : Text} (h : Stops rest) : runLength? 0 0 rest = some 0 := by
  cases rest with
  | nil => rfl
  | cons c rest =>
    rcases h c rfl with hb | rfl
    · have hc : c ∉ special := by
        intro hc
        simp only [special, List.mem_cons, List.not_mem_nil, or_false] at hc
        rcases hc with rfl | rfl | rfl | rfl <;> revert hb <;> decide
      simp [runLength?_plain hc, hb, runLength?.runEnd]
    · rfl

def Detached (rest : Text) : Prop := ∀ c ∈ rest.head?, c ∉ [.char '&', .char '|', .char '=']

theorem Stops.detached {rest : Text} (h : Stops rest) : Detached rest := by
  intro c hc hm
  rcases h c hc with hb | rfl
  · simp only [List.mem_cons, List.not_mem_nil, or_false] at hm
    rcases hm with rfl | rfl | rfl <;> revert hb <;> decide
  · revert hm
    decide

theorem startsWith_pair_append {a b c : Rune} {t rest : Text}
    (h : startsWith (c :: t) [a, b] = false)
    (hr : ∀ d ∈ rest.head?, d ≠ b) : startsWith (c :: (t ++ rest)) [a, b] = false := by
  cases t with
  | cons d t => simpa [startsWith] using h
  | nil =>
    cases rest with
    | nil => exact h
    | cons d rest => simp [startsWith, hr d rfl]

theorem startsConnective_append {c : Rune} {t rest : Text} (h : startsConnective (c :: t) = false)
    (hr : Detached rest) :
    startsConnective (c :: (t ++ rest)) = false := by
  simp only [startsConnective, Bool.or_eq_false_iff] at h ⊢
  constructor
  · exact startsWith_pair_append h.1 fun d hd => by rintro rfl; exact hr _ hd (by decide)
  · exact startsWith_pair_append h.2 fun d hd => by rintro rfl; exact hr _ hd (by decide)

theorem startsOperator_append {c : Rune} {t rest : Text} (h : startsOperator (c :: t) = false)
    (hr : Detached rest) :
    startsOperator (c :: (t ++ rest)) = false := by
  have hequals : ∀ d ∈ rest.head?, d ≠ .char '=' :=
    fun d hd => by rintro rfl; exact hr _ hd (by decide)
  simp only [startsOperator, Bool.or_eq_false_iff] at h ⊢
  obtain ⟨⟨⟨⟨hc, he⟩, hn⟩, hl⟩, hg⟩ := h
  refine ⟨⟨⟨⟨startsConnective_append hc hr, ?_⟩, ?_⟩, ?_⟩, ?_⟩
  · exact startsWith_pair_append he hequals
  · exact startsWith_pair_append hn hequals
  · simpa [startsWith] using hl
  · simpa [startsWith] using hg

theorem Run.append {k : Nat} {t u : Text} (h : Run k t) (hu : Run 0 u) (hd : Detached u) :
    Run k (t ++ u) := by
  induction h with
  | nil => exact hu
  | escape h ih => exact .escape ih
  | cls hb h ih =>
    rw [List.cons_append, List.append_assoc]
    exact .cls hb ih
  | opening h ih => exact .opening ih
  | closing h ih => exact .closing ih
  | plain hc hb hs ho h ih =>
    exact .plain hc hb (startsConnective_append hs hd) (fun hk =>
      startsOperator_append (ho hk) hd) ih

/-- The units of a pattern in front of a text that ends it. What follows has a say where a unit is
the beginning of an operator. -/
inductive RunBefore (rest : Text) : Nat → Text → Prop
  | nil (h : runLength? 0 0 rest = some 0) : RunBefore rest 0 []
  | escape {k : Nat} {c : Rune} {t : Text} (h : RunBefore rest k t) :
      RunBefore rest k (.char '\\' :: c :: t)
  | cls {k : Nat} {b t : Text} (hb : IsClassRest b) (h : RunBefore rest k t) :
      RunBefore rest k (.char '[' :: (b ++ t))
  | opening {k : Nat} {t : Text} (h : RunBefore rest (k + 1) t) : RunBefore rest k (.char '(' :: t)
  | closing {k : Nat} {t : Text} (h : RunBefore rest k t) : RunBefore rest (k + 1) (.char ')' :: t)
  | plain {k : Nat} {c : Rune} {t : Text} (hc : c ∉ special) (hb : isBlank c = false)
      (hs : startsConnective (c :: (t ++ rest)) = false) (ho : k = 0 →
        startsOperator (c :: (t ++ rest)) = false)
      (h : RunBefore rest k t) : RunBefore rest k (c :: t)

theorem runEnd_ne_succ (k n : Nat) : runLength?.runEnd k ≠ some (n + 1) := by
  rw [runLength?.runEnd]
  split <;> simp

theorem runLength?_succ_ne_zero (k : Nat) (t : Text) : runLength? (k + 1) 0 t ≠ some 0 := by
  cases t with
  | nil => simp [runLength?]
  | cons c t =>
    rw [runLength?]
    repeat' split
    all_goals simp_all [runLength?.runEnd]

/-- What is measured up to an end is a run in front of it. By induction on its length, since an
escape or a class is taken at once. -/
theorem runBefore_of_length {rest : Text} {n : Nat} : ∀ {k : Nat} {t : Text}, t.length ≤ n →
    runLength? k 0 (t ++ rest) = some t.length → RunBefore rest k t := by
  induction n with
  | zero =>
    intro k t ht h
    obtain rfl := List.length_eq_zero_iff.mp (Nat.le_zero.mp ht)
    cases k with
    | zero => exact .nil h
    | succ k => exact absurd h (runLength?_succ_ne_zero k rest)
  | succ n ih =>
    intro k t ht h
    cases t with
    | nil =>
      cases k with
      | zero => exact .nil h
      | succ k => exact absurd h (runLength?_succ_ne_zero k rest)
    | cons c t =>
      simp only [List.length_cons, List.cons_append] at ht h
      have htail : ∀ {m j : Nat} {u : Text}, (runLength? j 0 (u ++ rest)).map (· + m) =
        some (t.length + 1) →
          u.length + m = t.length + 1 → 1 ≤ m → RunBefore rest j u := by
        intro m j u hu hm h1
        obtain ⟨l, hl, hlm⟩ := Option.map_eq_some_iff.mp hu
        obtain rfl : l = u.length := by omega
        exact ih (by omega) hl
      by_cases hc : c ∈ special
      · simp only [special, List.mem_cons, List.not_mem_nil, or_false] at hc
        rcases hc with rfl | rfl | rfl | rfl
        · cases t with
          | nil =>
            -- The backslash would escape a character that stands behind the run.
            cases rest with
            | nil => cases k <;> cases h
            | cons d rest =>
              rw [List.nil_append, runLength?_escape] at h
              obtain ⟨l, -, hl⟩ := Option.map_eq_some_iff.mp h
              simp at hl
          | cons d t =>
            rw [List.cons_append, runLength?_escape] at h
            exact .escape (htail h rfl (by omega))
        · cases hl : classLength? (t ++ rest) with
          | none =>
            have hnone : runLength? k 0 (.char '[' :: (t ++ rest)) = none := by
              cases k <;> rw [runLength?, if_neg (by decide), if_pos rfl, hl]
            rw [hnone] at h
            cases h
          | some m =>
            obtain ⟨u, v, huv, rfl, hu⟩ := classLength?_exact hl
            rw [huv, runLength?_class hu] at h
            obtain ⟨l, -, hlen⟩ := Option.map_eq_some_iff.mp h
            obtain ⟨w, rfl, rfl⟩ | ⟨w, rfl, rfl⟩ := List.append_eq_append_iff.mp huv
            · obtain rfl : w = [] := by
                rw [← List.length_eq_zero_iff]
                simp only [List.length_append] at hlen
                omega
              have hcls := RunBefore.cls (k := k) hu (htail (u := []) h (by simp) (by omega))
              simpa using hcls
            · exact .cls hu (htail h (by simp; omega) (by omega))
        · rw [runLength?_opening] at h
          exact .opening (htail h rfl (by omega))
        · cases k with
          | zero => exact absurd h (runEnd_ne_succ 0 _)
          | succ k =>
            rw [runLength?_closing] at h
            exact .closing (htail h rfl (by omega))
      · rw [runLength?_plain hc] at h
        split at h
        · exact absurd h (runEnd_ne_succ k _)
        · next hnot =>
          simp only [Bool.or_eq_true, not_or, Bool.and_eq_true, decide_eq_true_eq, not_and,
            Bool.not_eq_true] at hnot
          exact .plain hc hnot.1.1 hnot.1.2 hnot.2 (htail h rfl (by omega))

/-- A run is measured up to the end it stands in front of. -/
theorem RunBefore.length {k : Nat} {t rest : Text} (h : RunBefore rest k t) :
    runLength? k 0 (t ++ rest) = some t.length := by
  induction h with
  | nil h => exact h
  | escape h ih => rw [List.cons_append, List.cons_append, runLength?_escape, ih]; rfl
  | cls hb h ih =>
    rw [List.cons_append, List.append_assoc, runLength?_class hb, ih]
    simp only [Option.map_some, List.length_cons, List.length_append, Option.some.injEq]
    omega
  | opening h ih => rw [List.cons_append, runLength?_opening, ih]; rfl
  | closing h ih => rw [List.cons_append, runLength?_closing, ih]; rfl
  | @plain k c t hc hb hs ho h ih =>
    have hop : (k = 0 && startsOperator (c :: (t ++ rest))) = false := by
      by_cases hk : k = 0
      · simp [ho hk]
      · simp [hk]
    rw [List.cons_append, runLength?_plain hc, hb, hs, hop, ih]
    rfl

theorem Run.before {k : Nat} {t rest : Text} (h : Run k t) (hr : Stops rest) :
    RunBefore rest k t := by
  induction h with
  | nil => exact .nil (runLength?_stops hr)
  | escape h ih => exact .escape ih
  | cls hb h ih => exact .cls hb ih
  | opening h ih => exact .opening ih
  | closing h ih => exact .closing ih
  | plain hc hb hs ho h ih =>
    exact .plain hc hb (startsConnective_append hs hr.detached) (fun hk =>
      startsOperator_append (ho hk) hr.detached) ih

theorem Run.length {k : Nat} {t rest : Text} (h : Run k t) (hr : Stops rest) :
    runLength? k 0 (t ++ rest) = some t.length :=
  (h.before hr).length

theorem startsWith_iff {t u : Text} : startsWith t u = true ↔ u <+: t := by
  induction u generalizing t with
  | nil => simp [startsWith]
  | cons d u ih =>
    cases t with
    | nil => simp [startsWith]
    | cons c t =>
      rw [startsWith, Bool.and_eq_true, ih, List.cons_prefix_cons, beq_iff_eq, @eq_comm _ c d]

theorem startsWith_append_right {t s : Text} (h : startsWith t s = true) (u : Text) :
    startsWith (t ++ u) s = true :=
  startsWith_iff.mpr ((startsWith_iff.mp h).trans (List.prefix_append t u))

theorem startsWith_of_append {t u s : Text} (h : startsWith (t ++ u) s = false) :
    startsWith t s = false := by
  rw [Bool.eq_false_iff] at h ⊢
  exact fun hs => h (startsWith_append_right hs u)

theorem startsConnective_of_append {t u : Text} (h : startsConnective (t ++ u) = false) :
    startsConnective t = false := by
  rw [startsConnective, Bool.or_eq_false_iff] at h ⊢
  exact ⟨startsWith_of_append h.1, startsWith_of_append h.2⟩

theorem startsOperator_of_append {t u : Text} (h : startsOperator (t ++ u) = false) :
    startsOperator t = false := by
  simp only [startsOperator, Bool.or_eq_false_iff] at h ⊢
  obtain ⟨⟨⟨⟨hc, he⟩, hn⟩, hl⟩, hg⟩ := h
  exact ⟨⟨⟨⟨startsConnective_of_append hc, startsWith_of_append he⟩, startsWith_of_append hn⟩,
    startsWith_of_append hl⟩,
    startsWith_of_append hg⟩

theorem RunBefore.run {k : Nat} {t rest : Text} (h : RunBefore rest k t) : Run k t := by
  induction h with
  | nil => exact .nil
  | escape h ih => exact .escape ih
  | cls hb h ih => exact .cls hb ih
  | opening h ih => exact .opening ih
  | closing h ih => exact .closing ih
  | @plain k c t hc hb hs ho h ih =>
    exact .plain hc hb (startsConnective_of_append (t := c :: t) hs) (fun hk =>
      startsOperator_of_append (t := c :: t) (ho hk)) ih

theorem run_of_length {n k : Nat} {t : Text} (ht : t.length ≤ n)
    (h : runLength? k 0 t = some t.length) : Run k t :=
  (@runBefore_of_length [] n k t ht (by simpa using h)).run

/-! ## Letters -/

def IsLetter (c : Rune) : Prop :=
  c ∉ special ∧ isBlank c = false ∧
    c ∉ [.char '&', .char '|', .char '=', .char '!', .char '<', .char '>']

theorem run_of_letters {t : Text} (h : ∀ c ∈ t, IsLetter c) : Run 0 t := by
  induction t with
  | nil => exact .nil
  | cons c t ih =>
    obtain ⟨hc, hb, ho⟩ := h c (by simp)
    simp only [List.mem_cons, List.not_mem_nil, or_false, not_or] at ho
    have hconnective : startsConnective (c :: t) = false := by
      simp [startsConnective, startsWith, ho]
    refine .plain hc hb hconnective (fun _ => ?_) (ih fun d hd => h d (by simp [hd]))
    simp [startsOperator, hconnective, startsWith, ho]

theorem isLetter_digit {c : Rune} (h : .char '0' ≤ c ∧ c ≤ .char '9') : IsLetter c := by
  have hl : 48 ≤ c.toNat := h.1
  have hu : c.toNat ≤ 57 := h.2
  have hother : ∀ d : Char, d.toNat < 48 ∨ 57 < d.toNat → c ≠ .char d := by
    rintro d hd rfl
    change 48 ≤ d.toNat at hl
    change d.toNat ≤ 57 at hu
    omega
  refine ⟨?_, ?_, ?_⟩
  · simp [special, hother]
  · simp [isBlank, isBlankCode, blankRanges, inRanges]
    omega
  · simp [hother]

/-! ## Patterns -/

def IsPattern (t : Text) : Prop := patternLength? t = some t.length

instance (t : Text) : Decidable (IsPattern t) := inferInstanceAs (Decidable (_ = _))

theorem isPattern_iff {t : Text} : IsPattern t ↔ Run 0 t ∧ t ≠ [] ∧ t ∉ keywords := by
  rw [IsPattern, patternLength?]
  constructor
  · intro h
    split at h
    · next n hn =>
      split at h
      · cases h
      · next hne =>
        obtain rfl := Option.some.inj h
        simp only [List.take_length, not_or] at hne
        exact ⟨run_of_length (Nat.le_refl _) hn, by rintro rfl; exact hne.1 rfl, hne.2⟩
    · cases h
  · rintro ⟨hr, hne, hk⟩
    have hstops : Stops [] := by simp [Stops]
    have hlen : runLength? 0 0 t = some t.length := by simpa using hr.length hstops
    simp [hlen, hne, hk]

/-- A pattern is found at the head of a text, if what follows may stand behind one. -/
theorem IsPattern.append {t rest : Text} (h : IsPattern t) (hr : Stops rest) :
    patternLength? (t ++ rest) = some t.length := by
  obtain ⟨hrun, hne, hk⟩ := isPattern_iff.mp h
  rw [patternLength?, hrun.length hr]
  simp [hne, hk]

theorem Run.head_not_blank {k : Nat} {c : Rune} {t : Text} (h : Run k (c :: t)) :
    isBlank c = false := by
  cases h with
  | plain _ hb => exact hb
  | escape | cls | opening | closing => decide

theorem IsPattern.anchored {t : Text} (h : IsPattern t) : IsPattern (anchored t) := by
  by_cases ha : t.head? = some (.char '^') ∧ t.getLast? = some (.char '$')
  · rwa [FileTags.anchored, if_pos ha]
  · rw [FileTags.anchored, if_neg ha]
    obtain ⟨hrun, -, -⟩ := isPattern_iff.mp h
    have hend : Run 0 (t ++ [.char '$']) :=
      hrun.append (run_of_letters (by simp [IsLetter]; decide)) (by simp [Detached])
    refine isPattern_iff.mpr ⟨?_, by simp, ?_⟩
    · refine .plain (by decide) (by decide) ?_ ?_ hend
      · simp [startsConnective, startsWith]
      · simp [startsOperator, startsConnective, startsWith]
    · simp [keywords, Text.ofString]

end FileTags.Term

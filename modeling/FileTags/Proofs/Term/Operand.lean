import FileTags.Proofs.Term.Layout

/-!
# Operands in their places

A pattern is read up to its end in front of whatever may follow an operand. A tag is a pattern that
nothing but a pattern can be read for; with a comparison operator and another pattern behind it, all
three are read as one comparison. A name in braces is read as a bookmark, and a parenthesis opens a
group when the text up to the closing one is passed over.
-/

set_option autoImplicit false

namespace FileTags.Term

open Text

/-- A pattern that reads the same wherever a term puts it: its braces close and it has no tab. -/
structure Verbatim (t : Text) : Prop where
  pattern : IsPattern t
  braces : bracesClose 0 t = true
  noTab : .char '\t' ∉ t

/-- A pattern that begins with no parenthesis, brace or exclamation mark, and with no word operator
that one of these follows. -/
structure IsTag (t : Text) : Prop extends Verbatim t where
  head : ∀ c ∈ t.head?, c ∉ [.char '(', .char '\x7b', .char '!']
  word : ∀ w ∈ keywords, ∀ c ∈ [.char '(', .char '\x7b', .char '!'], startsWith t (w ++ [c]) = false

/-- A pattern that begins with a word goes on behind it with a character that no word ends in front
of. -/
theorem IsTag.not_endsWord {t rest w : Text} (h : IsTag t) (hr : Stops rest) (hw : w ∈ keywords)
    (hs : startsWith (t ++ rest) w = true) : endsWord ((t ++ rest).drop w.length) = false := by
  obtain ⟨hrun, -, hkey⟩ := isPattern_iff.mp h.pattern
  have hkeys : ∀ w ∈ keywords, ∀ c ∈ w, isBlank c = false ∧ c ≠ .char ')' ∧ c ∉ special := by
    simp [keywords, ofString, special, isBlank, isBlankCode, blankRanges, inRanges, Rune.toNat]
  have hletters := hkeys w hw
  obtain ⟨v, hv⟩ := startsWith_iff.mp hs
  rcases List.append_eq_append_iff.mp hv with ⟨u, rfl, hu⟩ | ⟨u, rfl, hu⟩
  · cases u with
    | nil => exact absurd (by simpa using hw) hkey
    | cons c u =>
      have hblank := (hrun.drop_plain fun d hd => (hletters d hd).2.2).head_not_blank
      have hnext : ∀ d ∈ [.char '(', .char '\x7b', .char '!'], c ≠ d := by
        rintro d hd rfl
        have hword := h.word w hw c hd
        rw [show w ++ c :: u = (w ++ [c]) ++ u by simp, startsWith_append] at hword
        cases hword
      simp only [List.mem_cons, List.not_mem_nil, or_false, forall_eq_or_imp, forall_eq] at hnext
      simp [endsWord, hblank, hnext]
  · cases u with
    | nil => exact absurd (by simpa using hw) hkey
    | cons c u =>
      have hc := hletters c (by simp)
      rcases hr c (by simp [hu]) with hb | rfl
      · simp [hc.1] at hb
      · exact absurd rfl hc.2.1

theorem IsTag.not_isWordOperator {t rest upper lower : Text} (h : IsTag t) (hr : Stops rest)
    (hu : upper ∈ keywords) (hl : lower ∈ keywords) (hlen : lower.length = upper.length) :
    isWordOperator upper lower (t ++ rest) = false := by
  rw [isWordOperator, Bool.and_eq_false_iff, Bool.or_eq_false_iff]
  by_cases hsu : startsWith (t ++ rest) upper = true
  · exact .inr (h.not_endsWord hr hu hsu)
  · by_cases hsl : startsWith (t ++ rest) lower = true
    · exact .inr (hlen ▸ h.not_endsWord hr hl hsl)
    · exact .inl (by simp [hsu, hsl])

theorem IsPattern.not_startsWith {t rest s : Text} (h : IsPattern t) (hr : Stops rest)
    (hs : ∀ v, patternLength? (s ++ v) = none) : startsWith (t ++ rest) s = false := by
  rw [Bool.eq_false_iff]
  intro ht
  obtain ⟨v, hv⟩ := startsWith_iff.mp ht
  have hlen := h.append hr
  rw [← hv, hs v] at hlen
  cases hlen

theorem patternLength?_connective {t : Text} (h : startsConnective t = true) :
    patternLength? t = none := by
  cases t with
  | nil => cases h
  | cons c t =>
    have hc : c ∉ special := by
      intro hc
      simp only [special, List.mem_cons, List.not_mem_nil, or_false] at hc
      rcases hc with rfl | rfl | rfl | rfl <;> simp [startsConnective, startsWith] at h
    rw [patternLength?, runLength?_plain hc, h]
    simp [runLength?.runEnd]

/-- A text that begins with a tag has no token but an operand at its head. -/
theorem IsTag.token? {t rest : Text} (h : IsTag t) (hr : Stops rest) (behind offset : Nat) :
    token? behind offset (t ++ rest) = (comparison? offset (t ++ rest)).map fun p =>
      (.operand p.1, p.2) := by
  have hnot : isWordOperator [.char 'N', .char 'O', .char 'T'] [.char 'n', .char 'o',
      .char 't'] (t ++ rest) = false :=
    h.not_isWordOperator hr (by decide) (by decide) rfl
  have hand : isWordOperator [.char 'A', .char 'N', .char 'D'] [.char 'a', .char 'n',
      .char 'd'] (t ++ rest) = false :=
    h.not_isWordOperator hr (by decide) (by decide) rfl
  have hor : isWordOperator [.char 'O', .char 'R'] [.char 'o', .char 'r'] (t ++ rest) = false :=
    h.not_isWordOperator hr (by decide) (by decide) rfl
  have hclose : startsWith (t ++ rest) [.char ')'] = false :=
    h.pattern.not_startsWith hr fun v => rfl
  have handSign : startsWith (t ++ rest) [.char '&', .char '&'] = false :=
    h.pattern.not_startsWith hr fun v =>
      patternLength?_connective (by simp [startsConnective, startsWith])
  have horSign : startsWith (t ++ rest) [.char '|', .char '|'] = false :=
    h.pattern.not_startsWith hr fun v =>
      patternLength?_connective (by simp [startsConnective, startsWith])
  obtain ⟨-, hne, -⟩ := isPattern_iff.mp h.pattern
  cases t with
  | nil => exact absurd rfl hne
  | cons c t =>
    have hc := h.head c rfl
    simp only [List.mem_cons, List.not_mem_nil, or_false, not_or] at hc
    have hopen : opensGroup (c :: t ++ rest) = false := by simp [opensGroup, startsWith, hc]
    have hbang : startsWith (c :: t ++ rest) [.char '!'] = false := by simp [startsWith, hc]
    have hmark : bookmark? (c :: t ++ rest) = none := by
      rw [bookmark?]
      rintro u hu
      simp_all
    generalize c :: t ++ rest = u at *
    simp [FileTags.Term.token?, hopen, hclose, notLength?, hnot, hbang, andLength?, hand, handSign,
      orLength?, hor, horSign, hmark]

/-! ## Comparisons -/

/-- A pattern is an operand on its own, and with an operator and a value behind it the three are one
operand. -/
theorem comparison?_eq_some {offset n : Nat} {t : Text} {e : Expr}
    (h : comparison? offset t = some (e, n)) :
    ∃ k, patternLength? t = some k ∧
      (e = .tag offset (t.take k) ∧ n = t.length - (skipGap (t.drop k)).length ∧
        (∀ op ∈ comparatorAt? (skipGap (t.drop k)),
          patternLength? (skipGap ((skipGap (t.drop k)).drop op.symbol.length)) = none) ∨
      ∃ op m, comparatorAt? (skipGap (t.drop k)) = some op ∧
        patternLength? (skipGap ((skipGap (t.drop k)).drop op.symbol.length)) = some m ∧
        e = .comparison offset (t.take k) op
          ((skipGap ((skipGap (t.drop k)).drop op.symbol.length)).take m) ∧
        n = t.length - ((skipGap ((skipGap (t.drop k)).drop op.symbol.length)).drop m).length) := by
  simp only [comparison?] at h
  cases hk : patternLength? t with
  | none => simp [hk] at h
  | some k =>
    refine ⟨k, rfl, ?_⟩
    cases hop : comparatorAt? (skipGap (t.drop k)) with
    | none =>
      simp only [hk, hop, Option.getD_none, Option.some.injEq, Prod.mk.injEq] at h
      exact .inl ⟨h.1.symm, h.2.symm, by simp⟩
    | some op =>
      cases hm : patternLength? (skipGap ((skipGap (t.drop k)).drop op.symbol.length)) with
      | none =>
        simp only [hk, hop, hm, Option.map_none, Option.getD_none, Option.some.injEq, Prod.mk.injEq]
          at h
        exact .inl ⟨h.1.symm, h.2.symm, by simpa using hm⟩
      | some m =>
        simp only [hk, hop, hm, Option.map_some, Option.getD_some, Option.some.injEq, Prod.mk.injEq]
          at h
        exact .inr ⟨op, m, rfl, hm, h.1.symm, h.2.symm⟩

theorem IsPattern.comparison?_tag {t rest : Text} (h : IsPattern t) (hr : AfterOperand rest)
    (offset : Nat) :
    comparison? offset (t ++ rest) = some (.tag offset t,
      t.length + (rest.takeWhile isGap).length) := by
  have hlen := length_skipGap rest
  simp only [comparison?, h.append hr.stops, List.drop_left, List.take_left, hr.comparatorAt?,
    Option.getD_none, List.length_append]
  congr 2
  omega

theorem comparatorAt?_symbol (op : Comparator) {g : Text} (hg : IsGap g) (hne : g ≠ [])
    (rest : Text) :
    comparatorAt? (op.symbol ++ (g ++ rest)) = some op := by
  cases g with
  | nil => exact absurd rfl hne
  | cons c g =>
    have hc : c ≠ .char '=' := by
      rintro rfl
      exact absurd (hg (.char '=') (by simp)) (by decide)
    cases op <;> simp [comparatorAt?, Comparator.all, Comparator.symbol, startsWith, hc]

theorem comparator_head_not_gap (op : Comparator) (rest : Text) :
    skipGap (op.symbol ++ rest) = op.symbol ++ rest := by
  cases op <;> exact skipGap_eq_self (by decide) _

theorem IsPattern.eq_cons {t : Text} (h : IsPattern t) : ∃ c s, t = c :: s ∧ isGap c = false := by
  obtain ⟨hrun, hne, -⟩ := isPattern_iff.mp h
  cases t with
  | nil => exact absurd rfl hne
  | cons c s =>
    refine ⟨c, s, rfl, ?_⟩
    rw [Bool.eq_false_iff]
    intro hc
    exact absurd (isBlank_of_isGap hc) (by simp [hrun.head_not_blank])

theorem IsPattern.skipGap_eq {t : Text} (h : IsPattern t) (rest : Text) :
    skipGap (t ++ rest) = t ++ rest := by
  obtain ⟨c, s, rfl, hc⟩ := h.eq_cons
  exact skipGap_eq_self hc _

theorem stops_gap {g : Text} (hg : IsGap g) (hne : g ≠ []) (rest : Text) : Stops (g ++ rest) := by
  intro c hc
  cases g with
  | nil => exact absurd rfl hne
  | cons d g =>
    obtain rfl : d = c := by simpa using hc
    exact .inl (isBlank_of_isGap (hg d (by simp)))

theorem IsPattern.comparison?_pair {t v g g' rest : Text} (ht : IsPattern t) (hv : IsPattern v)
    (op : Comparator)
    (hg : IsGap g) (hne : g ≠ []) (hg' : IsGap g') (hne' : g' ≠ []) (hr : Stops rest)
    (offset : Nat) :
    comparison? offset (t ++ (g ++ (op.symbol ++ (g' ++ (v ++ rest))))) =
      some (.comparison offset t op v, (t ++ (g ++ (op.symbol ++ (g' ++ v)))).length) := by
  have hop : skipGap (g ++ (op.symbol ++ (g' ++ (v ++ rest)))) =
      op.symbol ++ (g' ++ (v ++ rest)) := by
    rw [skipGap_append hg, comparator_head_not_gap]
  have hvalue : skipGap (g' ++ (v ++ rest)) = v ++ rest := by
    rw [skipGap_append hg', hv.skipGap_eq]
  simp only [comparison?, ht.append (stops_gap hg hne _), List.drop_left, List.take_left, hop,
    comparatorAt?_symbol op hg' hne', hvalue, hv.append hr, Option.map_some, Option.getD_some,
    List.length_append]
  congr 2
  omega

/-! ## Bookmarks and groups -/

theorem bookmark?_braces {inside : Text} (hne : inside ≠ [])
    (h : ∀ c ∈ inside, c ≠ .char '\x7b' ∧ c ≠ .char '\x7d') (rest : Text) :
    bookmark? (.char '\x7b' :: (inside ++ .char '\x7d' :: rest)) =
      some (strip inside, inside.length + 2) := by
  have htake : (inside ++ .char '\x7d' :: rest).takeWhile (fun c =>
      c != .char '\x7b' && c != .char '\x7d') = inside := by
    rw [List.takeWhile_append_of_pos fun c hc => by simpa using h c hc]
    simp
  simp [bookmark?, htake, hne]

theorem token?_bookmark {inside : Text} (hne : inside ≠ [])
    (h : ∀ c ∈ inside, c ≠ .char '\x7b' ∧ c ≠ .char '\x7d') (behind offset : Nat) (rest : Text) :
    token? behind offset (.char '\x7b' :: (inside ++ .char '\x7d' :: rest)) =
      some (.operand (.bookmark offset (strip inside)), inside.length + 2) := by
  simp [token?, opensGroup, notLength?, andLength?, orLength?, isWordOperator, startsWith,
    bookmark?_braces hne h]

/-- A parenthesis opens a group when its partner is found and something that may follow a group
stands behind that. -/
theorem token?_opening {t rest : Text} (ht : Passed t) (hr : mayFollowGroup rest = true)
    (behind offset : Nat) :
    token? behind offset (.char '(' :: (t ++ .char ')' :: rest)) =
      some (.symbol .opening offset, 1) := by
  have hopen : opensGroup (.char '(' :: (t ++ .char ')' :: rest)) = true := by
    simp [opensGroup, startsWith, ht.groupClose, hr]
  simp [token?, hopen]

theorem token?_closing (behind offset : Nat) (rest : Text) :
    token? behind offset (.char ')' :: rest) = some (.symbol .closing offset, 1) := by
  simp [token?, opensGroup, startsWith]

end FileTags.Term

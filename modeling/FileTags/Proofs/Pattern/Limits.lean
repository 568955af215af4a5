import FileTags.Pattern.Anchored
import FileTags.Proofs.Text.Numeral

/-!
# Why text is no pattern

Source that starts with an anchor is refused because it is malformed, or because it counts a
repetition with a number that is too large or has too many digits. The flags of the whole pattern,
which could conflict, have no place behind an anchor: the branch that they would have to start is
begun already, and every step of reading keeps it so.
-/

set_option autoImplicit false

namespace FileTags.Pattern

open Text

/-! ## What a reader gives -/

def Gives {α : Type} (P : α → Prop) : Except PatternFault α → Prop
  | .ok y => P y
  | .error x => x = .malformed

abbrev OnlyMalformed {α : Type} (a : Except PatternFault α) : Prop := Gives (fun _ => True) a

namespace Gives

variable {α β : Type} {P : α → Prop} {Q : β → Prop} {a : Except PatternFault α}

theorem ok {y : α} (h : P y) : Gives P (.ok y) := h

theorem error : Gives P (.error .malformed) := rfl

theorem map {f : α → β} (ha : Gives P a) (hf : ∀ y, P y → Q (f y)) : Gives Q (a.map f) := by
  cases a with
  | ok y => exact hf y ha
  | error x => exact ha

theorem bind {f : α → Except PatternFault β} (ha : Gives P a) (hf : ∀ y, P y → Gives Q (f y)) :
    Gives Q (a >>= f) := by
  cases a with
  | ok y => exact hf y ha
  | error x => exact ha

theorem ite {p : Prop} [Decidable p] {b : Except PatternFault α} (ha : p → Gives P a)
    (hb : ¬ p → Gives P b) :
    Gives P (if p then a else b) := by
  split
  · next h => exact ha h
  · next h => exact hb h

end Gives

/-! ## Escapes and classes -/

theorem hexEscape_gives (width : Nat) (rest : List Sign) : OnlyMalformed (hexEscape width rest) :=
  .ite (fun _ => .ok trivial) fun _ => .error

theorem nameUntil_gives (close : Rune) (rest : List Sign) : OnlyMalformed (nameUntil close rest) :=
  .ite (fun _ => .error) fun _ => .ok trivial

theorem nameEscape_gives (rest : List Sign) : OnlyMalformed (nameEscape rest) := by
  rw [nameEscape.eq_def]
  split
  · refine .bind (nameUntil_gives _ _) fun (name, taken) _ => ?_
    dsimp only
    split
    · exact .ok trivial
    · exact .error
  · exact .error

theorem codeEscape_gives (c : Rune) (rest : List Sign) : OnlyMalformed (codeEscape c rest) := by
  refine .ite (fun _ => hexEscape_gives 2 rest) fun _ =>
    .ite (fun _ => hexEscape_gives 4 rest) fun _ => ?_
  refine .ite (fun _ => hexEscape_gives 8 rest) fun _ =>
    .ite (fun _ => nameEscape_gives rest) fun _ => ?_
  exact .ite (fun _ => .error) fun _ => .ok trivial

theorem octalEscape_gives (first : Nat) (rest : List Sign) :
    OnlyMalformed (octalEscape first rest) :=
  .ite (fun _ => .ok trivial) fun _ => .error

theorem classMember_gives (s : Sign) (rest : List Sign) : OnlyMalformed (classMember s rest) := by
  rw [classMember.eq_def]
  split
  · exact .ok trivial
  · exact .error
  · split
    · exact .ok trivial
    · exact .ok trivial
    · exact .map (octalEscape_gives _ _) fun _ _ => trivial
    · exact .map (codeEscape_gives _ _) fun _ _ => trivial

theorem classItems_gives (seen : List ClassItem) (signs : List Sign) :
    OnlyMalformed (classItems seen signs) := by
  fun_induction classItems seen signs
  case case1 => exact .error
  case case2 => exact .ok trivial
  case case3 s rest _ x hx =>
    have hmember := classMember_gives s rest
    rwa [hx] at hmember
  case case4 => exact .ok trivial
  case case5 t after _ _ x hx =>
    have hmember := classMember_gives t after
    rwa [hx] at hmember
  case case6 => exact .error
  case case7 ih => exact ih
  case case8 => exact .error
  case case9 ih => exact ih

theorem classOf_gives (rest : List Sign) : OnlyMalformed (classOf rest) :=
  .map (classItems_gives _ _) fun _ _ => trivial

theorem flagRun_gives (seen : List Flag) (rest : List Sign) :
    OnlyMalformed (flagRun seen rest) := by
  fun_induction flagRun seen rest
  case case1 => exact .ok trivial
  case case2 ih => exact ih
  case case3 => exact .error
  case case4 => exact .error

/-! ## Behind an anchor -/

def BegunAt : Frame → List Frame → Prop
  | f, [] => f.opening = .whole ∧ (f.branches ≠ [] ∨ f.items ≠ [])
  | _, parent :: outer => BegunAt parent outer

/-- The whole pattern is begun, so it is too late for flags, and there are none. -/
structure Reading.Begun (r : Reading) : Prop where
  base : BegunAt r.frame r.outer
  flags : r.flags = []

theorem BegunAt.replace {f g : Frame} {outer : List Frame} (h : BegunAt f outer)
    (hwhole : f.opening = .whole → g.opening = .whole ∧ (g.branches ≠ [] ∨ g.items ≠ [])) :
    BegunAt g outer := by
  cases outer with
  | nil => exact hwhole h.1
  | cons parent outer => exact h

namespace Reading

variable {r : Reading}

theorem Begun.not_conflicting (h : r.Begun) : r.conflicting = false := by
    simp [conflicting, h.flags]

theorem Begun.push (h : r.Begun) (item : Regex) : (r.push item).Begun where
  base := h.base.replace fun hwhole => ⟨hwhole, .inr (List.cons_ne_nil _ _)⟩
  flags := h.flags

theorem Begun.enter (h : r.Begun) (opening : Opening) (verbose : Bool) :
    (r.enter opening verbose).Begun := ⟨h.base, h.flags⟩

theorem Begun.openLook (h : r.Begun) (ahead positive : Bool) :
    (r.openLook ahead positive).Begun := by
  rw [Reading.openLook]
  split
  · exact ⟨h.base, h.flags⟩
  · exact ⟨h.base, h.flags⟩

theorem Begun.backref (h : r.Begun) (n : Nat) : Gives Begun (r.backref n) :=
  .ite (fun _ => .ok (h.push _)) fun _ => .error

theorem Begun.openCapture (h : r.Begun) (name : Option Text) :
    Gives Begun (r.openCapture name) := by
  cases name with
  | none => exact .ok ⟨h.base, h.flags⟩
  | some name => exact .ite (fun _ => .error) fun _ => .ok ⟨h.base, h.flags⟩

theorem Begun.openGiven (h : r.Begun) (condition : Text) : Gives Begun (r.openGiven condition) := by
  have hopen : ∀ n asked, Gives Begun (if r.allowsBehind n then
      .ok ({ r with asked }.enter (.given n) r.frame.verbose) else .error .malformed) :=
    fun n asked => .ite (fun _ => .ok ⟨h.base, h.flags⟩) fun _ => .error
  rw [Reading.openGiven]
  split
  · split
    · exact hopen _ _
    · exact .error
  · split
    · exact .error
    · exact hopen _ _
    · exact .error

theorem Begun.nextBranch (h : r.Begun) : Gives Begun r.nextBranch := by
  rw [Reading.nextBranch.eq_1]
  split
  · next n hn => exact .ok ⟨h.base.replace fun hwhole => by simp [hn] at hwhole, h.flags⟩
  · exact .error
  · exact .ok ⟨h.base.replace fun _ => ⟨rfl, .inl (List.cons_ne_nil _ _)⟩, h.flags⟩
  · exact .ok ⟨h.base.replace fun hwhole => ⟨hwhole, .inl (List.cons_ne_nil _ _)⟩, h.flags⟩

theorem Begun.close (h : r.Begun) : Gives Begun r.close := by
  rw [Reading.close]
  split
  · rw [h.not_conflicting]
    exact .error
  · next parent outer hout =>
    have hback : BegunAt parent outer := by
      have hbase := h.base
      rwa [hout] at hbase
    have hpush : ∀ item : Regex, BegunAt (parent.push item) outer := fun item =>
      hback.replace fun hwhole => ⟨hwhole, .inr (List.cons_ne_nil _ _)⟩
    dsimp only
    split
    · exact .error
    · exact .ok ⟨hpush _, h.flags⟩
    · exact .ok ⟨hpush _, h.flags⟩
    · exact .ok ⟨hpush _, h.flags⟩
    · exact .ok ⟨hpush _, h.flags⟩
    · split <;> split <;> exact .ok ⟨hpush _, h.flags⟩
    · exact .ok ⟨hpush _, h.flags⟩
    · exact .ok ⟨hpush _, h.flags⟩

end Reading

variable {r : Reading}

theorem Reading.Begun.quantify (h : r.Begun) (least : Nat) (most : Option Nat) (taken : Nat)
    (rest : List Sign) :
    Gives (fun p => p.1.Begun) (quantify r least most taken rest) := by
  have hrepeat : ∀ (items : List Regex), items ≠ [] →
      Begun { r with frame := { r.frame with items } } := fun items hne =>
    ⟨h.base.replace fun hwhole => ⟨hwhole, .inr hne⟩, h.flags⟩
  simp only [Pattern.quantify]
  split
  · exact .error
  · exact .error
  · exact .error
  · exact .ok (hrepeat _ (List.cons_ne_nil _ _))
  · exact .ok (hrepeat _ (List.cons_ne_nil _ _))

theorem Reading.Begun.openFlags (h : r.Begun) (rest : List Sign) :
    Gives (fun p => p.1.Begun) (openFlags r rest) := by
  refine .bind (flagRun_gives _ _) fun (on, separator, more) _ => .ite (fun _ => .error) fun _ =>
    .ite (fun _ => ?_) fun _ => ?_
  · refine .ite (fun _ => .error) fun hstart => ?_
    obtain ⟨hout, hbranches, hitems⟩ : r.outer = [] ∧ r.frame.branches = [] ∧
        r.frame.items = [] := by
      simp only [Bool.or_eq_true, Bool.not_eq_true', List.isEmpty_eq_false_iff, not_or,
        Decidable.not_not] at hstart
      exact ⟨hstart.1.1.2, hstart.1.2, hstart.2⟩
    have hbase := h.base
    rw [hout] at hbase
    exact absurd hbase.2 (by simp [hbranches, hitems])
  · refine .ite (fun _ => .error) fun _ => .ite (fun _ => .ok (h.enter _ _)) fun _ => ?_
    exact .bind (flagRun_gives _ _) fun q _ => .ite (fun _ => .error) fun _ => .ok (h.enter _ _)

theorem Reading.Begun.openGroup (h : r.Begun) (rest : List Sign) :
    Gives (fun p => p.1.Begun) (openGroup r rest) := by
  rw [Pattern.openGroup.eq_def]
  split
  · split
    · exact .bind (nameUntil_gives _ _) fun p _ => .bind (h.openCapture _) fun _ hn => .ok hn
    · refine .bind (nameUntil_gives _ _) fun (name, taken) _ => ?_
      dsimp only
      split
      · exact .bind (h.backref _) fun _ hn => .ok hn
      · exact .error
    · exact .ok (h.enter _ _)
    · exact .ite (fun _ => .error) fun _ => .ok h
    · exact .ok (h.openLook true true)
    · exact .ok (h.openLook true false)
    · exact .ok (h.openLook false true)
    · exact .ok (h.openLook false false)
    · exact .bind (nameUntil_gives _ _) fun p _ => .bind (h.openGiven _) fun _ hn => .ok hn
    · exact .ok (h.enter _ _)
    · exact .map (h.openFlags _) fun _ hn => hn
  · exact .map (h.openCapture _) fun _ hn => hn

theorem Reading.Begun.digitEscape (h : r.Begun) (c : Rune) (rest : List Sign) :
    Gives (fun p => p.1.Begun) (digitEscape r c rest) := by
  refine .ite (fun _ => .ok (h.push _)) fun _ => ?_
  split
  · exact .ite (fun _ => .ok (h.push _)) fun _ => .error
  · split
    · exact .ite (fun _ => .map (h.backref _) fun _ hn => hn) fun _ =>
        .map (h.backref _) fun _ hn => hn
    · exact .map (h.backref _) fun _ hn => hn

theorem Reading.Begun.escape (h : r.Begun) (c : Rune) (rest : List Sign) :
    Gives (fun p => p.1.Begun) (escape r c rest) := by
  rw [Pattern.escape.eq_def]
  split
  · exact .ok (h.push _)
  · exact .ok (h.push _)
  · exact .ok (h.push _)
  · exact .ite (fun _ => h.digitEscape c rest) fun _ => .map (codeEscape_gives _ _) fun _ _ =>
      h.push _

/-! ## Counts of repetitions -/

def CountIn (signs : List Sign) (digits : Text) : Prop :=
  IsDigits digits ∧ ∃ before o c after,
    signs = before ++ .plain o :: (digits.map .plain ++ .plain c :: after) ∧
      o ∈ [.char '\x7b', .char ','] ∧ c ∈ [.char ',', .char '\x7d']

def HasCount (t digits : Text) : Prop :=
  IsDigits digits ∧ ∃ before o c after, t = before ++ o :: (digits ++ c :: after) ∧
    o ∈ [.char '\x7b', .char ','] ∧ c ∈ [.char ',', .char '\x7d']

theorem CountIn.append {signs : List Sign} {digits : Text} (before : List Sign)
    (h : CountIn signs digits) :
    CountIn (before ++ signs) digits := by
  obtain ⟨hd, between, o, c, after, rfl, ho, hc⟩ := h
  exact ⟨hd, before ++ between, o, c, after, by simp, ho, hc⟩

/-- A bound is refused if it has too many digits, or is too large. -/
theorem bound?_eq_error_iff {digits : Text} {x : PatternFault} (hd : IsDigits digits) :
    bound? digits = .error x ↔
      digitLimit < digits.length ∧ x = .tooManyDigits ⟨digits.length⟩ ∨
        digits.length ≤ digitLimit ∧ repetitionLimit ≤ numberOf digits ∧
        x = .repetitionTooLarge := by
  rw [bound?, ← naturalOf_eq_numberOf hd.2]
  cases digits with
  | nil => simp [naturalOf, repetitionLimit]
  | cons d ds =>
    rw [if_neg (by simp), readNatural]
    by_cases hl : digitLimit < (d :: ds).length
    · rw [if_pos hl]
      simp only [Except.error.injEq, hl, true_and, Nat.not_le.mpr hl, false_and, or_false]
      exact eq_comm
    · rw [if_neg hl]
      by_cases hn : repetitionLimit ≤ naturalOf (d :: ds)
      · simp only [ge_iff_le, hn, if_true, Except.error.injEq, hl, false_and, Nat.not_lt.mp hl,
          true_and, false_or]
        exact eq_comm
      · simp only [ge_iff_le, hn, if_false, reduceCtorEq, hl, false_and, and_false, or_false]

def leadingDigits (signs : List Sign) : Text :=
  (signs.takeWhile braces?.isDigitSign).filterMap Sign.plain?

theorem leadingDigits_append (signs : List Sign) :
    signs = (leadingDigits signs).map .plain ++ signs.drop (leadingDigits signs).length ∧
      ∀ c ∈ leadingDigits signs, .char '0' ≤ c ∧ c ≤ .char '9' := by
  induction signs with
  | nil => exact ⟨rfl, nofun⟩
  | cons s signs ih =>
    cases s with
    | escaped c | dangling => exact ⟨rfl, nofun⟩
    | plain c =>
      cases hc : isDigit c with
      | false =>
        have hnil : leadingDigits (.plain c :: signs) = [] := by
          simp [leadingDigits, braces?.isDigitSign, hc]
        exact ⟨by rw [hnil]; rfl, by rw [hnil]; nofun⟩
      | true =>
        have hcons : leadingDigits (.plain c :: signs) = c :: leadingDigits signs := by
          simp [leadingDigits, braces?.isDigitSign, hc, Sign.plain?]
        rw [hcons]
        refine ⟨congrArg (.plain c :: ·) ih.1, fun d hd => ?_⟩
        rcases List.mem_cons.mp hd with rfl | hd
        · simpa [isDigit] using hc
        · exact ih.2 d hd

theorem braces?_eq (rest : List Sign) : braces? rest =
    match rest.drop (leadingDigits rest).length with
    | .plain (.char '\x7d') :: _ =>
      if (leadingDigits rest).isEmpty then none
        else some (leadingDigits rest, leadingDigits rest, (leadingDigits rest).length + 1)
    | .plain (.char ',') :: more =>
      match more.drop (leadingDigits more).length with
      | .plain (.char '\x7d') :: _ =>
        some (leadingDigits rest, leadingDigits more,
          (leadingDigits rest).length + (leadingDigits more).length + 2)
      | _ => none
    | _ => none := rfl

theorem countIn_of_braces? {rest : List Sign} {low high digits : Text} {taken : Nat}
    (h : braces? rest = some (low, high, taken))
    (hd : digits = low ∨ digits = high) (hne : digits ≠ []) :
    CountIn (.plain (.char '\x7b') :: rest) digits := by
  obtain ⟨hrest, hlow⟩ := leadingDigits_append rest
  rw [braces?_eq] at h
  split at h
  · next after hdrop =>
    simp only [Option.ite_none_left_eq_some, Option.some.injEq, Prod.mk.injEq] at h
    rw [← h.2.1, ← h.2.2.1, or_self] at hd
    rw [hdrop, ← hd] at hrest
    exact ⟨⟨hne, hd ▸ hlow⟩, [], .char '\x7b', .char '\x7d',
      after, by rw [List.nil_append, ← hrest], by simp, by simp⟩
  · next more hdrop =>
    obtain ⟨hmore, hhigh⟩ := leadingDigits_append more
    split at h
    · next after hafter =>
      simp only [Option.some.injEq, Prod.mk.injEq] at h
      rw [← h.1, ← h.2.1] at hd
      rw [hdrop] at hrest
      rw [hafter] at hmore
      rcases hd with hd | hd
      · rw [← hd] at hrest
        exact ⟨⟨hne, hd ▸ hlow⟩, [], .char '\x7b', .char ',',
          more, by rw [List.nil_append, ← hrest], by simp, by simp⟩
      · rw [← hd] at hmore
        exact ⟨⟨hne, hd ▸ hhigh⟩, .plain (.char '\x7b') :: (leadingDigits rest).map .plain,
          .char ',', .char '\x7d', after,
          by rw [List.cons_append, ← hmore, ← hrest], by simp, by simp⟩
    · cases h
  · cases h

theorem Reading.Begun.quantifyBraces (h : r.Begun) (rest : List Sign) :
    Gives (fun p => p.1.Begun) (quantifyBraces r rest) ∨
      ∃ x digits, quantifyBraces r rest = .error x ∧
      CountIn (.plain (.char '\x7b') :: rest) digits ∧ bound? digits = .error x := by
  rw [Pattern.quantifyBraces]
  split
  · exact .inl (.ok (h.push _))
  · next low high taken hb =>
    have hcount : ∀ x digits, digits = low ∨ digits = high → bound? digits = .error x →
        CountIn (.plain (.char '\x7b') :: rest) digits := by
      intro x digits hd hx
      refine countIn_of_braces? hb hd ?_
      rintro rfl
      cases hx
    split
    · exact .inl .error
    · cases hlow : bound? low with
      | error x => exact .inr ⟨x, low, rfl, hcount x low (.inl rfl) hlow, hlow⟩
      | ok least =>
        cases hhigh : bound? high with
        | error x => exact .inr ⟨x, high, rfl, hcount x high (.inr rfl) hhigh, hhigh⟩
        | ok most => exact .inl (.ite (fun _ => .error) fun _ => h.quantify _ _ _ _)

/-! ## Steps and runs -/

/-- A step that reads no braces reads on from a pattern that is begun, or the source is
malformed. -/
theorem Reading.Begun.step_gives (h : r.Begun) {s : Sign} (hs : s ≠ .plain (.char '\x7b'))
    (rest : List Sign) :
    Gives (fun p => p.1.Begun) (step r s rest) := by
  rw [Pattern.step.eq_def]
  split
  · exact .error
  · exact h.escape _ rest
  · refine .ite (fun _ => .ok h) fun _ => .ite (fun _ => .ok h) fun _ => ?_
    split
    · exact .map h.nextBranch fun _ hn => hn
    · exact .map h.close fun _ hn => hn
    · exact h.openGroup rest
    · exact .map (classOf_gives rest) fun _ _ => h.push _
    · exact .ok (h.push _)
    · exact .ok (h.push _)
    · exact .ok (h.push _)
    · exact h.quantify _ _ _ rest
    · exact h.quantify _ _ _ rest
    · exact h.quantify _ _ _ rest
    · exact absurd rfl hs
    · exact .ok (h.push _)

theorem step_brace (r : Reading) (rest : List Sign) :
    step r (.plain (.char '\x7b')) rest = quantifyBraces r rest := by
  simp [step, isVerboseBlank]

/-- One step reads on from a pattern that is begun, or it is in braces that it meets a bound that is
refused. -/
theorem Reading.Begun.step (h : r.Begun) (s : Sign) (rest : List Sign) :
    Gives (fun p => p.1.Begun) (step r s rest) ∨
      ∃ x digits, step r s rest = .error x ∧ CountIn (s :: rest) digits ∧
      bound? digits = .error x := by
  by_cases hs : s = .plain (.char '\x7b')
  · subst hs
    rw [step_brace]
    exact h.quantifyBraces rest
  · exact .inl (h.step_gives hs rest)

theorem Reading.Begun.readFrom (h : r.Begun) (pending : Nat) (signs : List Sign) :
    Gives Begun (readFrom r pending signs) ∨
      ∃ x digits, readFrom r pending signs = .error x ∧ CountIn signs digits ∧
      bound? digits = .error x := by
  have hbehind : ∀ {s : Sign} {rest : List Sign} {a : Except PatternFault Reading},
      (∃ x digits, a = .error x ∧ CountIn rest digits ∧ bound? digits = .error x) →
      ∃ x digits, a = .error x ∧ CountIn (s :: rest) digits ∧ bound? digits = .error x :=
    fun ⟨x, digits, hx, hd, hb⟩ => ⟨x, digits, hx, hd.append [_], hb⟩
  induction signs generalizing r pending with
  | nil =>
    rw [Pattern.readFrom.eq_1]
    exact .inl (.ok h)
  | cons s rest ih =>
    cases pending with
    | succ pending =>
      rw [Pattern.readFrom.eq_2]
      exact (ih h pending).imp_right hbehind
    | zero =>
      rw [Pattern.readFrom.eq_3]
      have hstep := h.step s rest
      cases hs : Pattern.step r s rest with
      | error x =>
        rw [hs] at hstep
        exact hstep.imp_right fun ⟨y, digits, hy, hd⟩ =>
          ⟨x, digits, rfl, by rwa [← Except.error.inj hy] at hd⟩
      | ok p =>
        rw [hs] at hstep
        rcases hstep with hp | ⟨x, _, hx, -⟩
        · exact (ih hp p.2).imp_right hbehind
        · cases hx

theorem Reading.Begun.finish (h : r.Begun) : OnlyMalformed r.finish := by
  refine .ite (fun _ => .error) fun _ => .ite (fun hc => ?_) fun _ =>
    .ite (fun _ => .error) fun _ => .ite (fun _ => .error) fun _ => ?_
  · rw [h.not_conflicting] at hc
    cases hc
  · exact .ok trivial

/-! ## Text as pattern source -/

theorem flatMap_written_ofText (t : Text) : (Sign.ofText t).flatMap Sign.written = t := by
  fun_induction Sign.ofText t <;> simp_all [Sign.written]

theorem flatMap_written_plain (t : Text) : (t.map Sign.plain).flatMap Sign.written = t := by
  induction t with
  | nil => rfl
  | cons c t ih => simp [Sign.written, ih]

theorem HasCount.of_countIn {t digits : Text} (h : CountIn (Sign.ofText t) digits) :
    HasCount t digits := by
  obtain ⟨hd, before, o, c, after, hsigns, ho, hc⟩ := h
  refine ⟨hd, before.flatMap Sign.written, o, c, after.flatMap Sign.written, ?_, ho, hc⟩
  have ht := congrArg (List.flatMap Sign.written) hsigns
  rw [flatMap_written_ofText] at ht
  simpa [Sign.written, flatMap_written_plain] using ht

theorem HasCount.of_anchored {t digits : Text} (h : HasCount (anchored t) digits) :
    HasCount t digits := by
  rw [anchored] at h
  split at h
  · exact h
  · obtain ⟨hd, before, o, c, after, ht, ho, hc⟩ := h
    cases before with
    | nil =>
      obtain ⟨rfl, -⟩ := List.cons.inj ht
      simp at ho
    | cons d before =>
      obtain ⟨-, ht⟩ := List.cons.inj ht
      have ht : t ++ [.char '$'] = before ++ o :: (digits ++ c :: after) := ht
      rcases List.eq_nil_or_concat after with rfl | ⟨after, e, rfl⟩
      · have hend : t ++ [.char '$'] = (before ++ o :: digits) ++ [c] := by simpa using ht
        obtain rfl : .char '$' = c := List.singleton_inj.mp (List.append_inj' hend rfl).2
        simp at hc
      · have hend : t ++ [.char '$'] = (before ++ o :: (digits ++ c :: after)) ++ [e] := by
          simpa using ht
        exact ⟨hd, before, o, c, after, (List.append_inj' hend rfl).1, ho, hc⟩

/-- Text that is no pattern is malformed, or a bound of a repetition in it is refused. -/
theorem ofSource_error {t : Text} {x : PatternFault} (h : ofSource t = .error x) :
    x = .malformed ∨ ∃ digits, HasCount t digits ∧ bound? digits = .error x := by
  have hprogram : Program.ofText (anchored t) = .error x := by
    rw [ofSource] at h
    split at h
    · cases h
    · next hx => rwa [Except.error.inj h] at hx
  obtain ⟨rest, hrest⟩ := List.head?_eq_some_iff.mp (head?_anchored t)
  have hsigns : Sign.ofText (anchored t) = [.plain (.char '^')] ++ Sign.ofText rest := by
    rw [hrest]
    rfl
  have hbegun : (Reading.start.push (.assertion .lineStart)).Begun :=
    ⟨⟨rfl, .inr (List.cons_ne_nil _ _)⟩, rfl⟩
  have hread : readFrom .start 0 (Sign.ofText (anchored t)) =
      readFrom (Reading.start.push (.assertion .lineStart)) 0 (Sign.ofText rest) := by
    rw [hsigns]
    rfl
  rw [Program.ofText, hread] at hprogram
  have hgives := hbegun.readFrom 0 (Sign.ofText rest)
  cases hr : readFrom (Reading.start.push (.assertion .lineStart)) 0 (Sign.ofText rest) with
  | ok r =>
    rw [hr] at hprogram hgives
    rcases hgives with hfinal | ⟨_, _, hy, -⟩
    · have hfinish := hfinal.finish
      rw [show r.finish = .error x from hprogram] at hfinish
      exact .inl hfinish
    · cases hy
  | error y =>
    rw [hr] at hprogram hgives
    obtain rfl := Except.error.inj hprogram
    rcases hgives with hx | ⟨z, digits, hz, hd, hb⟩
    · exact .inl hx
    · obtain rfl := Except.error.inj hz
      exact .inr ⟨digits, .of_anchored (.of_countIn (hsigns ▸ hd.append _)), hb⟩

end FileTags.Pattern

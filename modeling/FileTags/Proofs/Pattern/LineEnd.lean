import FileTags.Proofs.Pattern.Locality

/-!
# Reading in front of a line end

A step of reading takes no notice of a dollar sign behind the last sign, unless it reads a comment
that runs up to it. Signs with a dollar sign behind them are therefore read as without it, and then
the dollar sign as an item of its own.
-/

set_option autoImplicit false

namespace FileTags.Pattern

open Text

variable {e : Ending} {rest signs : List Sign} {r : Reading}

/-! ## Flags and groups -/

theorem flagRun_append (seen : List Flag) (rest : List Sign) :
    flagRun seen (rest ++ [e.sign]) = (flagRun seen rest).map fun p =>
      (p.1, p.2.1, p.2.2 ++ [e.sign]) := by
  fun_induction flagRun seen rest
  case case1 h => rw [List.cons_append, flagRun, if_pos h]; rfl
  case case2 h _ hf ih => rw [List.cons_append, flagRun, if_neg h, hf]; exact ih
  case case3 h hf => rw [List.cons_append, flagRun, if_neg h, hf]; rfl
  case case4 signs _ h =>
    cases signs with
    | nil => cases e <;> rfl
    | cons s rest =>
      cases s with
      | plain c => exact (h c rest rfl).elim
      | escaped c | dangling => rfl

theorem flagRun_split {seen flags : List Flag} {separator : Rune} {more : List Sign}
    (h : flagRun seen rest = .ok (flags, separator, more)) :
    ∃ front, rest = front ++ .plain separator :: more := by
  fun_induction flagRun seen rest
  case case1 =>
    obtain ⟨-, hrest⟩ := Prod.mk.inj (Except.ok.inj h)
    obtain ⟨rfl, rfl⟩ := Prod.mk.inj hrest
    exact ⟨[], rfl⟩
  case case2 c _ _ _ _ ih =>
    obtain ⟨front, rfl⟩ := ih h
    exact ⟨.plain c :: front, rfl⟩
  case case3 => cases h
  case case4 => cases h

theorem steady_openFlags (r : Reading) (rest : List Sign) :
    Steady rest (openFlags r rest) (openFlags r (rest ++ [e.sign])) := by
  rw [openFlags, openFlags, flagRun_append]
  cases hon : flagRun [] rest with
  | error x => exact .error x
  | ok p =>
    obtain ⟨on, separator, more⟩ := p
    obtain ⟨front, hfront⟩ := flagRun_split hon
    simp only [Except.map, bind, Except.bind, flagRun_append, length_sub_append]
    have hmore : Passes rest (rest.length - more.length) := .upTo hfront nofun
    refine .ite (fun _ => .error _) fun _ =>
      .ite (fun _ => .ite (fun _ => .error _) fun _ => .ok hmore) fun _ => ?_
    refine .ite (fun _ => .error _) fun _ => .ite (fun _ => .ok hmore) fun _ => ?_
    cases hoff : flagRun [] more with
    | error x => exact .error x
    | ok q =>
      obtain ⟨off, last, behind⟩ := q
      obtain ⟨between, hbetween⟩ := flagRun_split hoff
      have hsplit : rest = (front ++ .plain separator :: between) ++ .plain last :: behind := by
        rw [hfront, hbetween, List.append_assoc, List.cons_append]
      simp only [length_sub_append]
      exact .ite (fun _ => .error _) fun _ => .ok (.upTo hsplit nofun)

theorem taken_of_bind {α : Type} {a : Except PatternFault α} {y : α} {k j : Nat}
    (h : (a >>= fun y => pure (y, k)) = .ok (y, j)) :
    k = j := by
  cases a with
  | error x => cases h
  | ok z => exact (Prod.mk.inj (Except.ok.inj h)).2

theorem Steady.behind {α : Type} {c : Rune} {a b : Except PatternFault (α × Nat)}
    (h : Steady rest a b) :
    Steady (.plain c :: rest) (a.map fun p => (p.1, p.2 + 1)) (b.map fun p => (p.1, p.2 + 1)) where
  same hrest := by rw [h.same (List.not_mem_of_not_mem_cons hrest)]
  passes y k hy := by
    cases a with
    | error x => cases hy
    | ok p =>
      obtain ⟨-, rfl⟩ := Prod.mk.inj (Except.ok.inj hy)
      exact (h.passes p.1 p.2 rfl).plain

theorem Steady.named {α : Type} (close : Rune) (hclose : close ≠ .char '$') {more : List Sign}
    {j : Nat} (f : Text → Except PatternFault α) (hmore : .dangling ∉ rest → .dangling ∉ more)
    (hpasses : ∀ k, Passes more k → Passes rest (k + j)) :
    Steady rest (nameUntil close more >>= fun p => f p.1 >>= fun y => pure (y, p.2 + j))
      (nameUntil close (more ++ [e.sign]) >>= fun p => f p.1 >>= fun y => pure (y, p.2 + j)) := by
  refine .bind (steady_nameUntil hclose more) hmore fun name k hk y i hi => ?_
  exact taken_of_bind hi ▸ hpasses k hk

theorem steady_comment (r : Reading) (more : List Sign) :
    Steady (.plain (.char '?') :: .plain (.char '#') :: more)
      (openGroup r (.plain (.char '?') :: .plain (.char '#') :: more))
        (openGroup r (.plain (.char '?') :: .plain (.char '#') :: (more ++ [e.sign]))) := by
  have hcomment : ∀ more, openGroup r (.plain (.char '?') :: .plain (.char '#') :: more) =
      if (more.takeWhile (· != .plain (.char ')'))).length = more.length then .error .malformed
      else .ok (r, (more.takeWhile (· != .plain (.char ')'))).length + 3) := fun _ => rfl
  rw [hcomment, hcomment]
  rcases all_or_first (· != .plain (.char ')')) more with hall | ⟨front, s, after, rfl, hfront, hs⟩
  · have hdollar : ∀ t ∈ more ++ [e.sign], (t != .plain (.char ')')) = true :=
      List.forall_mem_append.mpr ⟨hall, List.forall_mem_singleton.mpr (by cases e <;> rfl)⟩
    rw [List.takeWhile_eq_self_iff.mpr hall, List.takeWhile_eq_self_iff.mpr hdollar, if_pos rfl,
      if_pos rfl]
    exact .error _
  · rw [List.append_assoc, List.cons_append, takeWhile_first hfront hs, takeWhile_first hfront hs,
      if_neg (by simp), if_neg (by simp)]
    obtain rfl : s = .plain (.char ')') := by simpa using hs
    exact .ok Passes.of_split_plain.plain.plain

/-- What stands in front of the dollar sign starts as what stands there with it. -/
theorem head_of_append {c : Rune} {more : List Sign} (h : rest ++ [e.sign] = .plain c :: more)
    (hc : c ≠ .char '$') :
    ∃ more, rest = .plain c :: more := by
  cases rest with
  | nil => exact absurd (List.cons.inj h).1.symm (e.ne_plain hc)
  | cons t rest => exact ⟨rest, by rw [(List.cons.inj h).1]⟩

theorem heads_of_append {s : Sign} {c : Rune} {more : List Sign}
    (h : rest ++ [e.sign] = s :: .plain c :: more) (hc : c ≠ .char '$') :
    ∃ more, rest = s :: .plain c :: more := by
  cases rest with
  | nil => cases (List.cons.inj h).2
  | cons u rest =>
    obtain ⟨more, rfl⟩ := head_of_append (List.cons.inj h).2 hc
    exact ⟨more, by rw [(List.cons.inj h).1]⟩

theorem steady_openGroup (r : Reading) (rest : List Sign) :
    Steady rest (openGroup r rest) (openGroup r (rest ++ [e.sign])) := by
  rw [openGroup.eq_def r rest]
  split
  · next rest =>
    split
    · next more =>
      exact .named (.char '>') (by decide) (fun name =>
        r.openCapture (some name)) (by simp) fun k hk => hk.plain.plain.plain
    · next more =>
      refine .bind (steady_nameUntil (by decide) more) (by simp) fun name k hk y j hj => ?_
      dsimp only at hj
      split at hj
      · exact taken_of_bind hj ▸ hk.plain.plain.plain
      · cases hj
    · next more => exact .ok Passes.first.plain
    · next more => exact steady_comment r more
    · next more => exact .ok Passes.first.plain
    · next more => exact .ok Passes.first.plain
    · next more => exact .ok Passes.first.plain.plain
    · next more => exact .ok Passes.first.plain.plain
    · next more => exact .named (.char ')') (by decide) r.openGiven (by simp) fun k hk =>
        hk.plain.plain
    · next more => exact .ok Passes.first.plain
    · next hname hback hscope hcomment hahead hnot hbehind hnotbehind hgiven hatomic =>
      have hflags : openGroup r (.plain (.char '?') :: (rest ++ [e.sign])) =
          (openFlags r (rest ++ [e.sign])).map fun p => (p.1, p.2 + 1) := by
        rw [openGroup]
        · exact fun more h => (heads_of_append h (by decide)).elim hname
        · exact fun more h => (heads_of_append h (by decide)).elim hback
        · exact fun more h => (head_of_append h (by decide)).elim hscope
        · exact fun more h => (head_of_append h (by decide)).elim hcomment
        · exact fun more h => (head_of_append h (by decide)).elim hahead
        · exact fun more h => (head_of_append h (by decide)).elim hnot
        · exact fun more h => (heads_of_append h (by decide)).elim hbehind
        · exact fun more h => (heads_of_append h (by decide)).elim hnotbehind
        · exact fun more h => (head_of_append h (by decide)).elim hgiven
        · exact fun more h => (head_of_append h (by decide)).elim hatomic
      rw [List.cons_append, hflags]
      exact (steady_openFlags r rest).behind
  · next hrest =>
    have hplain : openGroup r (rest ++ [e.sign]) = (r.openCapture none).map fun next =>
        (next, 0) := by
      rw [openGroup]
      exact fun more h => (head_of_append h (by decide)).elim hrest
    rw [hplain]
    exact .still _

theorem steady_digitEscape (r : Reading) (c : Rune) (rest : List Sign) :
    Steady rest (digitEscape r c rest) (digitEscape r c (rest ++ [e.sign])) := by
  rw [digitEscape.eq_def, digitEscape.eq_def, leading_append (by decide)]
  refine .ite (fun _ => .ok (passes_leading _ _ _)) fun _ => ?_
  split
  · next d e first hdigits _ =>
    have htwo := passes_leading octalValue? 2 rest
    rw [hdigits] at htwo
    exact .ite (fun _ => .ok htwo) fun _ => .error _
  · have hone : ∀ (next : Except PatternFault Reading) d more,
        Steady (.plain d :: more) (next.map (·, 1)) (next.map (·, 1)) := by
      intro next d more
      cases next with
      | error x => exact .error x
      | ok y => exact .ok Passes.first
    cases rest with
    | nil => cases e <;> exact .still (r.backref (digitValue c))
    | cons s more =>
      cases s with
      | plain d => exact .ite (fun _ => hone _ _ _) fun _ => .still _
      | escaped d | dangling => exact .still _

theorem steady_escape (r : Reading) (c : Rune) (rest : List Sign) :
    Steady rest (escape r c rest) (escape r c (rest ++ [e.sign])) := by
  rw [escape.eq_def, escape.eq_def]
  split
  · exact .ok trivial
  · exact .ok trivial
  · exact .ok trivial
  · exact .ite (fun _ => steady_digitEscape r c rest) fun _ =>
      .map (r.push <| .char ·) (steady_codeEscape c rest)

/-! ## Repetition -/

/-- The temper that the sign behind a repetition sets, and whether the sign is taken for that. -/
def temperOf : List Sign → Temper × Nat
  | .plain (.char '?') :: _ => (.lazy, 1)
  | .plain (.char '+') :: _ => (.possessive, 1)
  | _ => (.greedy, 0)

theorem temperOf_append (behind : List Sign) : temperOf (behind ++ [e.sign]) = temperOf behind := by
  fun_cases temperOf behind
  · rfl
  · rfl
  · next hlazy hpossessive =>
    rw [temperOf]
    · exact fun more h => (head_of_append h (by decide)).elim hlazy
    · exact fun more h => (head_of_append h (by decide)).elim hpossessive

theorem passes_temperOf (behind : List Sign) : Passes behind (temperOf behind).2 := by
  fun_cases temperOf behind
  · exact .first
  · exact .first
  · trivial

def repeatLast (r : Reading) (temper : Temper) (least : Nat) (most : Option Nat) :
    Except PatternFault Reading :=
  match r.frame.items with
  | [] => .error .malformed
  | .assertion _ :: _ => .error .malformed
  | .times _ _ _ _ :: _ => .error .malformed
  | .scope [] [] body :: before =>
    .ok { r with frame := { r.frame with items := .times temper least most body :: before } }
  | item :: before => .ok { r with frame :=
      { r.frame with items := .times temper least most item :: before } }

theorem quantify_eq (r : Reading) (least : Nat) (most : Option Nat) (taken : Nat)
    (rest : List Sign) :
    quantify r least most taken rest =
      (repeatLast r (temperOf (rest.drop taken)).1 least most).map fun next =>
      (next, taken + (temperOf (rest.drop taken)).2) := by
  rw [quantify.eq_def, repeatLast.eq_def]
  generalize r.frame.items = items
  cases items with
  | nil => rfl
  | cons item before =>
    cases item with
    | scope on off body => cases on <;> cases off <;> rfl
    | _ => rfl

/-- The sign behind a repetition, if it belongs to it, is passed over. -/
theorem steady_quantify (r : Reading) (least : Nat) (most : Option Nat) {taken : Nat}
    (h : Passes rest taken) :
    Steady rest (quantify r least most taken rest)
      (quantify r least most taken (rest ++ [e.sign])) := by
  rw [quantify_eq, quantify_eq, List.drop_append_of_le_length h.length_le, temperOf_append]
  cases repeatLast r (temperOf (rest.drop taken)).1 least most with
  | error x => exact .error x
  | ok next => exact .ok (h.add (passes_temperOf _))

theorem leadingDigits_ending (signs : List Sign) :
    leadingDigits (signs ++ [e.sign]) = leadingDigits signs := by
  induction signs with
  | nil => cases e <;> rfl
  | cons s signs ih =>
    cases s with
    | escaped c | dangling => rfl
    | plain c =>
      cases hc : isDigit c with
      | false => simp [leadingDigits, braces?.isDigitSign, hc]
      | true => simpa [leadingDigits, braces?.isDigitSign, hc, Sign.plain?] using ih

theorem braces?_append (rest : List Sign) : braces? (rest ++ [e.sign]) = braces? rest := by
  have hle : ∀ signs, (leadingDigits signs).length ≤ signs.length := by
    intro signs
    have hlength := congrArg List.length (leadingDigits_append signs).1
    rw [List.length_append, List.length_map] at hlength
    omega
  have hdrop : ∀ signs, (signs ++ [e.sign]).drop (leadingDigits (signs ++ [e.sign])).length =
      signs.drop (leadingDigits signs).length ++ [e.sign] := fun signs => by
    rw [leadingDigits_ending, List.drop_append_of_le_length (hle signs)]
  rw [braces?_eq rest]
  split
  · next after hclose => rw [braces?_eq, hdrop, hclose, leadingDigits_ending]; rfl
  · next more hcomma =>
    rw [braces?_eq, hdrop, hcomma, leadingDigits_ending]
    simp only [List.cons_append]
    rw [hdrop, leadingDigits_ending]
    split
    · next h =>
      obtain ⟨after, hafter⟩ := head_of_append h (by decide)
      rw [hafter]
      rfl
    · next h =>
      split
      · next hafter => exact (h _ (by rw [hafter]; rfl)).elim
      · rfl
  · next hclose hcomma =>
    rw [braces?_eq, hdrop]
    split
    · next h => exact (head_of_append h (by decide)).elim fun more hmore => (hclose more hmore).elim
    · next h => exact (head_of_append h (by decide)).elim fun more hmore => (hcomma more hmore).elim
    · rfl

theorem passes_braces? {low high : Text} {taken : Nat}
    (h : braces? rest = some (low, high, taken)) : Passes rest taken := by
  have hdigits : ∀ {signs after : List Sign} {c : Rune}, signs.drop (leadingDigits signs).length =
    .plain c :: after →
      Passes signs ((leadingDigits signs).length + 1) := by
    intro signs after c hdrop
    have hsplit := (leadingDigits_append signs).1
    rw [hdrop] at hsplit
    have hpasses : Passes ((leadingDigits signs).map .plain ++ .plain c :: after) _ :=
      .of_split_plain
    rwa [← hsplit, List.length_map] at hpasses
  rw [braces?_eq] at h
  split at h
  · next hdrop =>
    split at h
    · cases h
    · obtain ⟨-, -, rfl⟩ : _ ∧ _ ∧ _ := by simpa using h
      exact hdigits hdrop
  · next more hdrop =>
    split at h
    · next hafter =>
      obtain ⟨-, -, rfl⟩ : _ ∧ _ ∧ _ := by simpa using h
      have hmore : Passes rest
          ((leadingDigits rest).length + 1 + ((leadingDigits more).length + 1)) := by
        refine (hdigits hdrop).add ?_
        rw [← List.drop_drop, hdrop]
        exact hdigits hafter
      rwa [← Nat.add_assoc, Nat.add_right_comm _ 1, Nat.add_assoc] at hmore
    · cases h
  · cases h

/-- A backslash behind braces does not dangle when a dollar sign follows it. -/
theorem steady_quantifyBraces (r : Reading) (rest : List Sign) :
    Steady rest (quantifyBraces r rest) (quantifyBraces r (rest ++ [e.sign])) := by
  rw [quantifyBraces, quantifyBraces, braces?_append]
  cases hb : braces? rest with
  | none => exact .ok trivial
  | some b =>
    obtain ⟨low, high, taken⟩ := b
    have hpasses := passes_braces? hb
    have hdollar : (rest ++ [e.sign]).drop taken ≠ [.dangling] := by
      rw [List.drop_append_of_le_length hpasses.length_le]
      intro h
      exact absurd (List.append_inj' (h.trans (List.nil_append _).symm) rfl).2 (by cases e <;>
        decide)
    dsimp only
    rw [if_neg hdollar]
    by_cases hend : rest.drop taken = [.dangling]
    · have hmem : .dangling ∈ rest.drop taken := by
        rw [hend]
        exact .head _
      rw [if_pos hend]
      refine ⟨fun hd => absurd (List.mem_of_mem_drop hmem) hd, fun y k hy => ?_⟩
      cases hy
    · rw [if_neg hend]
      cases bound? low with
      | error x => exact .error x
      | ok least =>
        cases bound? high with
        | error x => exact .error x
        | ok most => exact .ite (fun _ => .error _) fun _ => steady_quantify r _ _ hpasses

/-! ## Steps -/

def Reading.CommentsAt (r : Reading) (s : Sign) : Prop :=
  r.frame.verbose = true ∧ s = .plain (.char '#')

theorem steady_step (s : Sign) (rest : List Sign) (h : ¬ r.CommentsAt s) :
    Steady rest (step r s rest) (step r s (rest ++ [e.sign])) := by
  rw [step.eq_def, step.eq_def]
  split
  · exact .error _
  · next c => exact steady_escape r c rest
  · next c =>
    refine .ite (fun _ => .ok trivial) fun _ => .ite (fun hc => ?_) fun _ => ?_
    · simp only [Bool.and_eq_true, beq_iff_eq] at hc
      exact absurd ⟨hc.1, congrArg _ hc.2⟩ h
    · split
      · exact .still _
      · exact .still _
      · exact steady_openGroup r rest
      · exact .map r.push (steady_classOf rest)
      · exact .ok trivial
      · exact .ok trivial
      · exact .ok trivial
      · exact steady_quantify r _ _ trivial
      · exact steady_quantify r _ _ trivial
      · exact steady_quantify r _ _ trivial
      · exact steady_quantifyBraces r rest
      · exact .ok trivial

def isRemark (s : Sign) : Bool := s != .plain (.char '\n') && s != .dangling

theorem step_comment {s : Sign} (h : r.CommentsAt s) (rest : List Sign) :
    step r s rest = .ok (r, (rest.takeWhile isRemark).length) := by
  obtain ⟨hverbose, rfl⟩ := h
  simp [step, hverbose, isVerboseBlank]
  rfl

theorem step_ending (r : Reading) (rest : List Sign) :
    step r e.sign rest = .ok (r.push e.item, 0) := by
  cases e with
  | line => simp [step, Ending.sign, Ending.item, isVerboseBlank]
  | character => rfl

/-! ## Runs -/

theorem readFrom_length (r : Reading) (signs : List Sign) :
    readFrom r signs.length signs = .ok r := by
  induction signs with
  | nil => rfl
  | cons s rest ih => exact ih

theorem readFrom_dangling (r : Reading) {pending : Nat} (hp : pending ≤ signs.length)
    (next : Reading) :
    readFrom r pending (signs ++ [.dangling]) ≠ .ok next := by
  induction signs generalizing r pending with
  | nil =>
    obtain rfl := Nat.le_zero.mp hp
    exact nofun
  | cons s rest ih =>
    cases pending with
    | succ pending => exact ih r (Nat.le_of_succ_le_succ hp)
    | zero =>
      rw [List.cons_append, readFrom]
      cases hs : step r s (rest ++ [.dangling]) with
      | error x =>
        intro h
        cases h
      | ok p =>
        refine ih p.1 ?_
        by_cases hc : r.CommentsAt s
        · rw [step_comment hc] at hs
          obtain rfl := Except.ok.inj hs
          rcases all_or_first isRemark rest with hall | ⟨front, t, after, rfl, hfront, ht⟩
          · rw [takeWhile_first hall rfl]
          · rw [List.append_assoc, List.cons_append, takeWhile_first hfront ht, List.length_append]
            exact Nat.le_add_right _ _
        · exact ((steady_step (e := .line) s _ hc).passes _ _ hs).lt_length

/-- With a dollar sign behind them signs are read as without it, and then the dollar sign, unless a
comment has run up to it. -/
theorem readFrom_ending (r : Reading) {pending : Nat} (hp : pending ≤ signs.length)
    (hd : .dangling ∉ signs) :
    readFrom r pending (signs ++ [e.sign]) = (readFrom r pending signs).map (·.push e.item) ∨
      ∃ next, readFrom r pending signs = .ok next ∧ next.frame.verbose = true ∧
      readFrom r pending (signs ++ [e.sign]) = .ok next := by
  induction signs generalizing r pending with
  | nil =>
    obtain rfl := Nat.le_zero.mp hp
    refine .inl ?_
    simp [readFrom, step_ending, Except.map]
  | cons s rest ih =>
    have hdr : .dangling ∉ rest := List.not_mem_of_not_mem_cons hd
    cases pending with
    | succ pending => exact ih r (Nat.le_of_succ_le_succ hp) hdr
    | zero =>
      rw [List.cons_append, readFrom, readFrom]
      by_cases hc : r.CommentsAt s
      · rw [step_comment hc, step_comment hc]
        rcases all_or_first isRemark rest with hall | ⟨front, t, after, rfl, hfront, ht⟩
        · have hdollar : ∀ t ∈ rest ++ [e.sign], isRemark t = true :=
            List.forall_mem_append.mpr ⟨hall, List.forall_mem_singleton.mpr (by cases e <;> rfl)⟩
          rw [List.takeWhile_eq_self_iff.mpr hall, List.takeWhile_eq_self_iff.mpr hdollar]
          exact .inr ⟨r, readFrom_length r rest, hc.1, readFrom_length r _⟩
        · have htaken : (front ++ t :: (after ++ [e.sign])).takeWhile isRemark = front :=
            takeWhile_first hfront ht
          have hle : front.length ≤ (front ++ t :: after).length :=
            List.length_append ▸ Nat.le_add_right _ _
          have hrest := ih r hle hdr
          rw [takeWhile_first hfront ht]
          rw [List.append_assoc, List.cons_append] at hrest ⊢
          rwa [htaken]
      · have hstep := steady_step (e := e) s rest hc
        rw [hstep.same hdr]
        cases hs : step r s rest with
        | error x => exact .inl rfl
        | ok p => exact ih p.1 (hstep.passes _ _ hs).length_le hdr

end FileTags.Pattern

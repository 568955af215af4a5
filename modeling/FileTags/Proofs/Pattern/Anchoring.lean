import FileTags.Proofs.Pattern.LineStart

/-!
# Anchoring

A pattern matches a whole text or nothing. The line start in front of its first branch and the line
end behind its last one therefore change nothing: every match starts at the start of the text, where
a line start holds, and may only end at its end, where a line end holds.
-/

set_option autoImplicit false

namespace FileTags

open Text

namespace Regex

/-! ## Where a match ends -/

def HandsOn (body : (Cursor → Option Cursor) → Cursor → Option Cursor) : Prop :=
  ∀ k c d, body k c = some d → ∃ e, k e = some d

namespace HandsOn

variable {body : (Cursor → Option Cursor) → Cursor → Option Cursor} {k : Cursor → Option Cursor}
  {c d : Cursor}

theorem rounds (h : HandsOn body) {n : Nat} (hd : rounds body k n c = some d) :
    ∃ e, k e = some d := by
  induction n generalizing c with
  | zero => exact ⟨c, hd⟩
  | succ n ih =>
    obtain ⟨e, he⟩ := h _ _ _ hd
    exact ih he

theorem orElse {a b : Option Cursor} {d : Cursor} (h : (a.orElse fun _ => b) = some d) :
    a = some d ∨ b = some d := by
  cases a with
  | none => exact .inr h
  | some a => exact .inl h

theorem mostFirst (h : HandsOn body) {n : Nat} {last : Option Nat}
    (hd : mostFirst body k n last c = some d) : ∃ e, k e = some d := by
  induction n generalizing last c with
  | zero => exact ⟨c, hd⟩
  | succ n ih =>
    rw [Regex.mostFirst] at hd
    split at hd
    · exact ⟨c, hd⟩
    · rcases orElse hd with hd | hd
      · obtain ⟨e, he⟩ := h _ _ _ hd
        exact ih he
      · exact ⟨c, hd⟩

theorem fewestFirst (h : HandsOn body) {n : Nat} {last : Option Nat}
    (hd : fewestFirst body k n last c = some d) : ∃ e, k e = some d := by
  induction n generalizing last c with
  | zero => exact ⟨c, hd⟩
  | succ n ih =>
    rw [Regex.fewestFirst] at hd
    rcases orElse hd with hd | hd
    · exact ⟨c, hd⟩
    · split at hd
      · cases hd
      · obtain ⟨e, he⟩ := h _ _ _ hd
        exact ih he

end HandsOn

theorem handsOn_takeOne (text : Array Rune) (test : Nat → Bool) : HandsOn (takeOne text test) := by
  intro k c d h
  rw [takeOne] at h
  split at h
  · split at h
    · exact ⟨_, h⟩
    · cases h
  · cases h

theorem handsOn_run (text : Array Rune) (r : Regex) (mode : Mode) : HandsOn (run text r mode) := by
  intro k c d h
  induction r generalizing mode k c d with
  | empty => exact ⟨c, h⟩
  | char code => exact handsOn_takeOne text _ k c d h
  | any => exact handsOn_takeOne text _ k c d h
  | oneOf negated items => exact handsOn_takeOne text _ k c d h
  | assertion a =>
    rw [run] at h
    split at h
    · exact ⟨c, h⟩
    · cases h
  | cat left right ihl ihr =>
    obtain ⟨e, he⟩ := ihl _ _ _ _ h
    exact ihr _ _ _ _ he
  | alt left right ihl ihr =>
    rcases HandsOn.orElse h with h | h
    · exact ihl _ _ _ _ h
    · exact ihr _ _ _ _ h
  | times temper least most body ih =>
    have hbody : HandsOn (run text body mode) := ih mode
    cases temper with
    | greedy =>
      obtain ⟨e, he⟩ := hbody.rounds h
      exact hbody.mostFirst he
    | lazy =>
      obtain ⟨e, he⟩ := hbody.rounds h
      exact hbody.fewestFirst he
    | possessive =>
      rw [run] at h
      split at h
      · exact ⟨_, h⟩
      · cases h
  | capture index body ih =>
    obtain ⟨e, he⟩ := ih _ _ _ _ h
    exact ⟨_, he⟩
  | scope on off body ih => exact ih _ _ _ _ h
  | atomic body ih =>
    obtain ⟨e, -, he⟩ := Option.bind_eq_some_iff.mp h
    exact ⟨e, he⟩
  | look ahead positive width body ih =>
    rw [run] at h
    split at h
    · split at h
      · exact ⟨_, h⟩
      · cases h
    · split at h
      · cases h
      · exact ⟨c, h⟩
  | backref index =>
    rw [run] at h
    split at h
    · split at h
      · exact ⟨_, h⟩
      · cases h
    · cases h
  | given index present absent ihp iha =>
    rw [run] at h
    split at h
    · exact ihp _ _ _ _ h
    · exact iha _ _ _ _ h

/-! ## Sequences and choices -/

variable {text : Array Rune} {mode : Mode} {k : Cursor → Option Cursor} {c : Cursor} {r r' : Regex}
  {rs xs ys : List Regex}

theorem run_sequence_cons :
    run text (sequence (r :: rs)) mode k c = run text r mode (run text (sequence rs) mode k) c := by
  cases rs with
  | nil => rfl
  | cons s rs => rfl

theorem run_sequence_append :
    run text (sequence (xs ++ ys)) mode k c =
    run text (sequence xs) mode (run text (sequence ys) mode k) c := by
  induction xs generalizing c with
  | nil => rfl
  | cons r xs ih =>
    rw [List.cons_append, run_sequence_cons, run_sequence_cons]
    exact congrArg (run text r mode · c) (funext fun d => ih)

theorem run_choice_cons (hrs : rs ≠ []) :
    run text (choice (r :: rs)) mode k c = (run text r mode k c).orElse fun _ =>
      run text (choice rs) mode k c := by
  cases rs with
  | nil => exact absurd rfl hrs
  | cons s rs => rfl

/-- The first of some branches may be replaced by one that matches the same. -/
theorem run_choice_first (h : run text r mode k c = run text r' mode k c) :
    run text (choice (r :: rs)) mode k c = run text (choice (r' :: rs)) mode k c := by
  cases rs with
  | nil => exact h
  | cons s rs =>
    rw [run_choice_cons (List.cons_ne_nil _ _), run_choice_cons (List.cons_ne_nil _ _), h]

theorem run_choice_last (rs : List Regex) (h : run text r mode k c = run text r' mode k c) :
    run text (choice (rs ++ [r])) mode k c = run text (choice (rs ++ [r'])) mode k c := by
  induction rs with
  | nil => exact h
  | cons s rs ih =>
    rw [List.cons_append, List.cons_append, run_choice_cons (by simp),
      run_choice_cons (by simp), ih]

theorem run_lineStart :
    run text (sequence (.assertion .lineStart :: rs)) mode k .start =
    run text (sequence rs) mode k .start := by
  rw [run_sequence_cons]
  rfl

/-- A line end changes nothing in front of a continuation that wants the end of the text. -/
theorem run_lineEnd (hk : ∀ d, d.pos ≠ text.size → k d = none) :
    run text (sequence (xs ++ [.assertion .lineEnd])) mode k c =
      run text (sequence xs) mode k c := by
  have hend : run text (sequence [.assertion .lineEnd]) mode k = k := by
    funext d
    by_cases hd : d.pos = text.size
    · simp [sequence, run, holdsAt, hd]
    · simp [sequence, run, hk d hd]
  rw [run_sequence_append, hend]

end Regex

theorem Program.pos_of_fullMatch? {p : Program} {s : Text} {m : Match}
    (h : p.fullMatch? s = some m) :
    m.subject = s ∧ m.final.pos = s.length := by
  obtain ⟨final, hfinal, rfl⟩ := Option.map_eq_some_iff.mp h
  obtain ⟨e, he⟩ := Regex.handsOn_run _ _ _ _ _ _ hfinal
  split at he
  · next hpos =>
    obtain rfl := Option.some.inj he
    exact ⟨rfl, hpos.trans List.size_toArray⟩
  · cases he

namespace Pattern

open Regex

/-! ## Behind a line start and in front of a line end -/

theorem Behind.run_body {r r' : Reading} (h : Behind r r') (hout : r.outer = []) {text : Array Rune}
    {mode : Mode} {k : Cursor → Option Cursor} (hk : ∀ d, d.pos ≠ text.size → k d = none) :
    run text (r'.push (.assertion .lineEnd)).frame.body mode k .start =
      run text r.frame.body mode k .start := by
  cases h with
  | mk frames flags =>
    obtain ⟨frame, out, _⟩ := r
    dsimp only at frames hout
    subst hout
    cases frames with
    | @whole branches items branches' items' h =>
      simp only [Reading.push, Frame.push, Frame.body, Frame.branch, List.reverse_cons]
      cases h with
      | first =>
        rw [List.reverse_append]
        exact run_lineStart.trans (run_lineEnd hk)
      | later branches _ first =>
        rw [List.reverse_append, List.reverse_append]
        exact (run_choice_first run_lineStart).trans (run_choice_last (_ :: _) (run_lineEnd hk))

/-! ## Anchored text -/

/-- Only the last sign of a text may be a backslash that dangles. -/
theorem ofText_dangling {t : Text} (h : .dangling ∈ Sign.ofText t) :
    ∃ signs, Sign.ofText t = signs ++ [.dangling] := by
  fun_induction Sign.ofText t
  case case1 => cases h
  case case2 => exact ⟨[], rfl⟩
  case case3 c rest ih =>
    obtain ⟨signs, hsigns⟩ := ih (by simpa using h)
    exact ⟨.escaped c :: signs, congrArg _ hsigns⟩
  case case4 c rest _ _ ih =>
    obtain ⟨signs, hsigns⟩ := ih (by simpa using h)
    exact ⟨.plain c :: signs, congrArg _ hsigns⟩

/-- Behind a text without a backslash that dangles, text is read as it is alone. -/
theorem ofText_append {t : Text} (h : .dangling ∉ Sign.ofText t) (u : Text) :
    Sign.ofText (t ++ u) = Sign.ofText t ++ Sign.ofText u := by
  fun_induction Sign.ofText t
  case case1 => rfl
  case case2 => exact absurd (.head _) h
  case case3 c rest ih => exact congrArg _ (ih fun hm => h (.tail _ hm))
  case case4 c rest hlone hescape ih =>
    have hc : c ≠ .char '\\' := by
      intro hc
      cases rest with
      | nil => exact hlone hc rfl
      | cons d rest => exact hescape d rest hc rfl
    rw [List.cons_append, Sign.ofText, ih fun hm => h (.tail _ hm)]
    · rfl
    · exact fun h => absurd h hc
    · exact fun _ _ h => absurd h hc

/-- Text that is a pattern does not end with a backslash that dangles. -/
theorem not_dangling {t : Text} {r : Reading} (h : readFrom .start 0 (Sign.ofText t) = .ok r) :
    .dangling ∉ Sign.ofText t := by
  intro hd
  obtain ⟨signs, hsigns⟩ := ofText_dangling hd
  exact readFrom_dangling .start (Nat.zero_le _) r (hsigns ▸ h)

theorem finish_ok {r : Reading} {p : Program} (h : r.finish = .ok p) :
    r.outer = [] ∧ p = ⟨r.frame.body, .ofFlags r.flags, r.groups.length - 1, r.names⟩ := by
  rw [Reading.finish] at h
  split at h
  · cases h
  · next hout =>
    split at h
    · cases h
    · split at h
      · cases h
      · split at h
        · cases h
        · exact ⟨by simpa using hout, (Except.ok.inj h).symm⟩

theorem Behind.not_verbose {r r' : Reading} (h : Behind r r') (hout : r'.outer = []) :
    r'.frame.verbose = false := by
  cases h with
  | mk frames flags =>
    dsimp only at hout
    subst hout
    obtain ⟨frame, out, _⟩ := r
    cases frames with
    | whole h => rfl

/-- The program that is read behind a line start and in front of a line end. -/
theorem Behind.fullMatch? {r r' : Reading} (h : Behind r r') {p a : Program} (hp : r.finish = .ok p)
    (ha : (r'.push (.assertion .lineEnd)).finish = .ok a) (s : Text) :
    a.fullMatch? s = p.fullMatch? s := by
  obtain ⟨hout, rfl⟩ := finish_ok hp
  obtain ⟨-, rfl⟩ := finish_ok ha
  have hbody : ∀ mode, Regex.run s.toArray (r'.push (.assertion .lineEnd)).frame.body mode
      (fun c => if c.pos = s.toArray.size then some c else none) .start =
        Regex.run s.toArray r.frame.body mode (fun c =>
          if c.pos = s.toArray.size then some c else none) .start :=
    fun mode => h.run_body hout fun d hd => if_neg hd
  cases h with
  | mk frames flags => simp only [Program.fullMatch?, hbody]; rfl

/-- Behind a line start and in front of a line end a pattern matches what it matches without them,
and captures the same. -/
theorem fullMatch?_anchors {t : Text} {p a : Program} (hp : Program.ofText t = .ok p)
    (ha : Program.ofText (.char '^' :: t ++ [.char '$']) = .ok a) (s : Text) :
    a.fullMatch? s = p.fullMatch? s := by
  rw [Program.ofText] at hp ha
  cases hr : readFrom .start 0 (Sign.ofText t) with
  | error x => rw [hr] at hp; cases hp
  | ok r =>
    rw [hr] at hp
    have hd := not_dangling hr
    have hsigns : Sign.ofText (.char '^' :: t ++ [.char '$']) =
        .plain (.char '^') :: (Sign.ofText t ++ [Ending.line.sign]) :=
      congrArg (Sign.plain (.char '^') :: ·) (ofText_append hd [.char '$'])
    have hread : readFrom .start 0 (Sign.ofText (.char '^' :: t ++ [.char '$'])) =
        readFrom (Reading.start.push (.assertion .lineStart)) 0
          (Sign.ofText t ++ [Ending.line.sign]) := by
      rw [hsigns]
      rfl
    have hfollows : ∀ next, readFrom (Reading.start.push (.assertion .lineStart)) 0
        (Sign.ofText t) = .ok next → Behind r next := by
      intro next hnext
      obtain ⟨y, hy, hbehind⟩ := Behind.start.readFrom 0 _ next hnext
      rw [hr] at hy
      exact Except.ok.inj hy ▸ hbehind
    rw [hread] at ha
    rcases readFrom_ending (e :=
      .line) (Reading.start.push (.assertion .lineStart)) (Nat.zero_le _) hd
        with hplain | ⟨next, hnext, hverbose, hcomment⟩
    · rw [hplain] at ha
      cases hnext : readFrom (Reading.start.push (.assertion .lineStart)) 0 (Sign.ofText t) with
      | error x => rw [hnext] at ha; cases ha
      | ok next =>
        rw [hnext] at ha
        exact (hfollows next hnext).fullMatch? hp ha s
    · rw [hcomment] at ha
      have hout := (finish_ok ha).1
      rw [(hfollows next hnext).not_verbose hout] at hverbose
      cases hverbose

/-- Anchored text that is a pattern matches what the text matches alone, and captures the same. What
is matched is always the whole. -/
theorem fullMatch?_ofSource {t : Text} {p a : Program} (hp : Program.ofText t = .ok p)
    (ha : Program.ofText (anchored t) = .ok a) :
    ∃ q, ofSource t = .ok q ∧ ∀ s, q.fullMatch? s = p.fullMatch? s ∧
      ∀ m, q.fullMatch? s = some m → m.group? 0 = some s ∧ m.final.pos = s.length := by
  have hq : ∃ q, ofSource t = .ok q ∧ q.program = a := by
    rw [ofSource]
    split
    · next b hb => exact ⟨_, rfl, Except.ok.inj (hb.symm.trans ha)⟩
    · next x hx => cases hx.symm.trans ha
  obtain ⟨q, hq, rfl⟩ := hq
  refine ⟨q, hq, fun s => ⟨?_, fun m hm => ?_⟩⟩
  · rw [anchored] at ha
    split at ha
    · obtain rfl : p = q.program := Except.ok.inj (hp.symm.trans ha)
      rfl
    · exact fullMatch?_anchors hp ha s
  · obtain ⟨hsubject, hpos⟩ := Program.pos_of_fullMatch? hm
    exact ⟨by rw [Match.group?, if_pos rfl, hsubject], hpos⟩

/-- Both branches match, and the second one nothing longer. -/
theorem fullMatch?_ofSource_branches :
    ∃ p a, Program.ofText (Text.ofString "(a)|b") = .ok p ∧
    Program.ofText (anchored (Text.ofString "(a)|b")) = .ok a ∧
      ∃ q, ofSource (Text.ofString "(a)|b") = .ok q ∧ ∀ s, q.fullMatch? s = p.fullMatch? s ∧
        ∀ m, q.fullMatch? s = some m → m.group? 0 = some s ∧ m.final.pos = s.length :=
  let p : Program := ⟨.alt (.capture 1 (.char 97)) (.char 98), ⟨false, false, false, false⟩, 1, []⟩
  let a : Program :=
    ⟨.alt (.cat (.assertion .lineStart) (.capture 1 (.char 97)))
      (.cat (.char 98) (.assertion .lineEnd)),
      ⟨false, false, false, false⟩, 1, []⟩
  have hp : Program.ofText (Text.ofString "(a)|b") = .ok p := by decide +kernel
  have ha : Program.ofText (anchored (Text.ofString "(a)|b")) = .ok a := by decide +kernel
  ⟨p, a, hp, ha, fullMatch?_ofSource hp ha⟩

end Pattern

end FileTags

import FileTags.Proofs.Pattern.LineEnd

/-!
# Reading behind a line start

A pattern that is read behind a line start is read as without it: its first branch starts with the
assertion, and everything else is the same. Only less can be read, since flags of the whole pattern
come too late.
-/

set_option autoImplicit false

namespace FileTags.Pattern

open Text

/-! ## Following a reader -/

def Follows {α β : Type} (R : α → β → Prop) (a : Except PatternFault α)
    (b : Except PatternFault β) : Prop :=
  ∀ z, b = .ok z → ∃ y, a = .ok y ∧ R y z

namespace Follows

variable {α β γ δ : Type} {R : α → β → Prop} {S : γ → δ → Prop} {a : Except PatternFault α}
  {b : Except PatternFault β}

theorem ok {y : α} {z : β} (h : R y z) : Follows R (.ok y) (.ok z) := by
  rintro _ hz
  obtain rfl := Except.ok.inj hz
  exact ⟨y, rfl, h⟩

theorem error {x : PatternFault} : Follows R a (.error x) := nofun

theorem map {f : α → γ} {g : β → δ} (h : Follows R a b) (hfg : ∀ y z, R y z → S (f y) (g z)) :
    Follows S (a.map f) (b.map g) := by
  cases b with
  | error x => exact error
  | ok z =>
    obtain ⟨y, rfl, hy⟩ := h z rfl
    exact ok (hfg y z hy)

theorem map_same {c : Except PatternFault γ} {f : γ → α} {g : γ → β} (h : ∀ y, R (f y) (g y)) :
    Follows R (c.map f) (c.map g) := by
  cases c with
  | error x => exact error
  | ok y => exact ok (h y)

theorem bind {c : Except PatternFault γ} {f : γ → Except PatternFault α}
    {g : γ → Except PatternFault β} (h : ∀ y, Follows R (f y) (g y)) :
    Follows R (c >>= f) (c >>= g) := by
  cases c with
  | error x => exact error
  | ok y => exact h y

theorem bind_pure {f : α → γ} {g : β → δ} (h : Follows R a b) (hfg : ∀ y z, R y z → S (f y) (g z)) :
    Follows S (a >>= fun y => pure (f y)) (b >>= fun z => pure (g z)) := h.map hfg

theorem ite {p : Prop} [Decidable p] {a' : Except PatternFault α} {b' : Except PatternFault β}
    (h : p → Follows R a b)
    (h' : ¬ p → Follows R a' b') : Follows R (if p then a else a') (if p then b else b') := by
  split
  · next hp => exact h hp
  · next hp => exact h' hp

end Follows

/-! ## Behind a line start -/

/-- The branches and items of the whole pattern, and those behind a line start: the first branch has
it in front. -/
inductive Begins : List Regex → List Regex → List Regex → List Regex → Prop
  | first (items : List Regex) : Begins [] items [] (items ++ [.assertion .lineStart])
  | later (branches items first : List Regex) : Begins (branches ++ [.sequence first]) items
      (branches ++ [.sequence (.assertion .lineStart :: first)]) items

/-- Two frames of open groups that differ in the outermost one only, in which the whole pattern is
read. -/
inductive Stacks : Frame → List Frame → Frame → List Frame → Prop
  | whole {branches items branches' items' : List Regex}
      (h : Begins branches items branches' items') :
      Stacks ⟨.whole, false, branches, items⟩ [] ⟨.whole, false, branches', items'⟩ []
  | group {parent parent' : Frame} {outer outer' : List Frame} (f : Frame)
      (h : Stacks parent outer parent' outer') :
      Stacks f (parent :: outer) f (parent' :: outer')

inductive Behind : Reading → Reading → Prop
  | mk {r : Reading} {f : Frame} {outer : List Frame} (frames : Stacks r.frame r.outer f outer)
      (flags : r.flags = []) :
      Behind r { r with frame := f, outer }

/-- What a step gives behind a line start, when it passes over as many signs as without it. -/
def Alongside (p q : Reading × Nat) : Prop := Behind p.1 q.1 ∧ q.2 = p.2

namespace Stacks

variable {f f' : Frame} {outer outer' : List Frame}

theorem verbose (h : Stacks f outer f' outer') : f'.verbose = f.verbose := by
  cases h <;> rfl

theorem push (h : Stacks f outer f' outer') (item : Regex) :
    Stacks (f.push item) outer (f'.push item) outer' := by
  cases h with
  | whole h =>
    cases h with
    | first => exact .whole (.first (item :: _))
    | later => exact .whole (.later _ (item :: _) _)
  | group f h => exact .group (f.push item) h

end Stacks

namespace Behind

variable {r r' : Reading}

theorem verbose (h : Behind r r') : r'.frame.verbose = r.frame.verbose := by
  cases h with
  | mk frames => exact frames.verbose

theorem push (h : Behind r r') (item : Regex) : Behind (r.push item) (r'.push item) := by
  cases h with
  | mk frames flags => exact .mk (r := r.push item) (frames.push item) flags

theorem enter (h : Behind r r') (opening : Opening) (verbose : Bool) :
    Behind (r.enter opening verbose) (r'.enter opening verbose) := by
  cases h with
  | mk frames flags => exact .mk (r := r.enter opening verbose) (.group _ frames) flags

theorem backref (h : Behind r r') (n : Nat) : Follows Behind (r.backref n) (r'.backref n) := by
  have hpush := h.push (.backref n)
  cases h with
  | mk frames flags => exact .ite (fun _ => .ok hpush) fun _ => .error

theorem openCapture (h : Behind r r') (name : Option Text) :
    Follows Behind (r.openCapture name) (r'.openCapture name) := by
  have hverbose := h.verbose
  cases h with
  | mk frames flags =>
    dsimp only at hverbose
    simp only [Reading.openCapture, hverbose]
    cases name with
    | none => exact .ok (.mk (.group _ frames) flags)
    | some name => exact .ite (fun _ => .error) fun _ => .ok (.mk (.group _ frames) flags)

theorem openLook (h : Behind r r') (ahead positive : Bool) :
    Behind (r.openLook ahead positive) (r'.openLook ahead positive) := by
  have hverbose := h.verbose
  cases h with
  | mk frames flags =>
    dsimp only at hverbose
    simp only [Reading.openLook, hverbose]
    split
    · exact .mk (.group _ frames) flags
    · exact .mk (.group _ frames) flags

theorem openGiven (h : Behind r r') (condition : Text) :
    Follows Behind (r.openGiven condition) (r'.openGiven condition) := by
  have hverbose := h.verbose
  cases h with
  | @mk f outer frames flags =>
    have hopen : ∀ n asked, Follows Behind
        (if r.allowsBehind n then .ok ({ r with asked }.enter (.given n) r.frame.verbose)
          else .error .malformed)
        (if r.allowsBehind n then
            .ok ({ r with frame := f, outer, asked }.enter (.given n) f.verbose)
          else .error .malformed) := by
      intro n asked
      rw [show f.verbose = r.frame.verbose from hverbose]
      exact .ite (fun _ => .ok (.mk (.group _ frames) flags)) fun _ => .error
    rw [Reading.openGiven, Reading.openGiven]
    dsimp only
    split
    · split
      · exact hopen _ _
      · exact .error
    · split
      · exact .error
      · exact hopen _ _
      · exact .error

/-- A branch of the whole pattern that ends is the first one, or a later one. -/
theorem nextBranch (h : Behind r r') : Follows Behind r.nextBranch r'.nextBranch := by
  cases h with
  | mk frames flags =>
    obtain ⟨frame, out, _⟩ := r
    dsimp only at frames flags
    subst flags
    cases frames with
    | @whole branches items branches' items' h =>
      have hbegins : Begins (.sequence items.reverse :: branches) []
          (.sequence items'.reverse :: branches') [] := by
        cases h with
        | first =>
          rw [List.reverse_append]
          exact .later [] [] _
        | later => exact .later (_ :: _) [] _
      exact Follows.ok (.mk (.whole hbegins) rfl)
    | group f h =>
      simp only [Reading.nextBranch]
      split
      · exact Follows.ok (.mk (.group _ h) rfl)
      · exact .error
      · exact Follows.ok (.mk (.group _ h) rfl)
      · exact Follows.ok (.mk (.group _ h) rfl)

/-- The parenthesis that closes nothing is refused with a line start as without it. -/
theorem close (h : Behind r r') : Follows Behind r.close r'.close := by
  cases h with
  | mk frames flags =>
    obtain ⟨frame, out, _, groups, names, behind, asked, uneven⟩ := r
    dsimp only at frames flags
    subst flags
    cases frames with
    | whole h => exact .error
    | @group parent parent' outer outer' _ h =>
      have hback : ∀ groups behind uneven item, Follows Behind
          (.ok (Reading.push ⟨parent, outer, [], groups, names, behind, asked, uneven⟩ item))
          (.ok (Reading.push ⟨parent', outer', [], groups, names, behind, asked, uneven⟩ item)) :=
        fun groups behind uneven item => .ok (.mk (h.push item) rfl)
      have hwidths : ∀ f, Reading.widthOf ⟨f, parent' :: outer', [], groups, names, behind, asked,
        uneven⟩ =
          Reading.widthOf ⟨f, parent :: outer, [], groups, names, behind, asked, uneven⟩ :=
            fun _ => rfl
      simp only [Reading.close, hwidths]
      split
      · exact .error
      · exact hback _ _ _ _
      · exact hback _ _ _ _
      · exact hback _ _ _ _
      · exact hback _ _ _ _
      · split <;> split <;> exact hback _ _ _ _
      · exact hback _ _ _ _
      · exact hback _ _ _ _

/-- The last item may be replaced, behind the line start as without it. -/
theorem items (h : Behind r r') : r'.frame.items = [] ∨ r'.frame.items = [.assertion .lineStart] ∨
    ∃ item before before', r.frame.items = item :: before ∧ r'.frame.items = item :: before' ∧
      ∀ item', Behind { r with frame := { r.frame with items := item' :: before } }
        { r' with frame := { r'.frame with items := item' :: before' } } := by
  cases h with
  | mk frames flags =>
    obtain ⟨⟨opening, verbose, branches, items⟩, out, _⟩ := r
    dsimp only at frames flags ⊢
    cases frames with
    | @whole branches items branches' items' h =>
      cases items with
      | nil =>
        cases h with
        | first => exact .inr (.inl rfl)
        | later => exact .inl rfl
      | cons item before =>
        cases h with
        | first =>
          exact .inr (.inr ⟨item, before, _, rfl, rfl,
          fun item' => .mk (.whole (.first (item' :: before))) flags⟩)
        | later =>
          exact .inr (.inr ⟨item, before, _, rfl, rfl,
          fun item' => .mk (.whole (.later _ (item' :: before) _)) flags⟩)
    | @group parent parent' outer outer' _ h =>
      cases items with
      | nil => exact .inl rfl
      | cons item before =>
        exact .inr (.inr ⟨item, before, before, rfl, rfl, fun item' => .mk (.group _ h) flags⟩)

theorem repeatLast (h : Behind r r') (temper : Temper) (least : Nat) (most : Option Nat) :
    Follows Behind (repeatLast r temper least most) (repeatLast r' temper least most) := by
  rw [Pattern.repeatLast.eq_def, Pattern.repeatLast.eq_def]
  rcases h.items with hr' | hr' | ⟨item, before, before', hr, hr', hitem⟩
  · rw [hr']
    exact .error
  · rw [hr']
    exact .error
  · rw [hr, hr']
    cases item with
    | assertion a => exact .error
    | times temper least most body => exact .error
    | scope on off body => cases on <;> cases off <;> exact .ok (hitem _)
    | _ => exact .ok (hitem _)

theorem begun (h : Behind r r') :
    (!r'.outer.isEmpty || !r'.frame.branches.isEmpty || !r'.frame.items.isEmpty) = true := by
  cases h with
  | mk frames flags =>
    obtain ⟨frame, out, _⟩ := r
    dsimp only at frames flags ⊢
    cases frames with
    | whole h => cases h <;> simp
    | group f h => rfl

theorem taking (taken : Nat) {a b : Except PatternFault Reading} (h : Follows Behind a b) :
    Follows Alongside (a.map fun next => (next, taken)) (b.map fun next => (next, taken)) :=
      h.map fun _ _ hn => ⟨hn, rfl⟩

theorem openFlags (h : Behind r r') (rest : List Sign) :
    Follows Alongside (openFlags r rest) (openFlags r' rest) := by
  have henter : ∀ opening verbose taken,
      Follows Alongside (.ok (r.enter opening verbose, taken))
        (.ok (r'.enter opening verbose, taken)) :=
    fun opening verbose taken => .ok ⟨h.enter opening verbose, rfl⟩
  rw [Pattern.openFlags, Pattern.openFlags, h.verbose]
  refine .bind fun p => ?_
  obtain ⟨on, separator, more⟩ := p
  refine .ite (fun _ => .error) fun _ => .ite (fun _ => ?_) fun _ => ?_
  · have hlate : (on.isEmpty || !r'.outer.isEmpty || !r'.frame.branches.isEmpty ||
        !r'.frame.items.isEmpty) = true := by
      rw [Bool.or_assoc, Bool.or_assoc, ← Bool.or_assoc (!r'.outer.isEmpty), h.begun, Bool.or_true]
    rw [if_pos hlate]
    exact .error
  · refine .ite (fun _ => .error) fun _ => .ite (fun _ => henter _ _ _) fun _ => ?_
    exact .bind fun p => .ite (fun _ => .error) fun _ => henter _ _ _

theorem openGroup (h : Behind r r') (rest : List Sign) :
    Follows Alongside (openGroup r rest) (openGroup r' rest) := by
  rw [Pattern.openGroup.eq_def, Pattern.openGroup.eq_def, h.verbose]
  split
  · split
    · exact .bind fun p => .bind_pure (h.openCapture _) fun _ _ hn => ⟨hn, rfl⟩
    · refine .bind fun p => ?_
      have hnames : r'.names = r.names := by cases h; rfl
      dsimp only
      rw [hnames]
      split
      · exact .bind_pure (h.backref _) fun _ _ hn => ⟨hn, rfl⟩
      · exact .error
    · exact .ok ⟨h.enter _ _, rfl⟩
    · exact .ite (fun _ => .error) fun _ => .ok ⟨h, rfl⟩
    · exact .ok ⟨h.openLook true true, rfl⟩
    · exact .ok ⟨h.openLook true false, rfl⟩
    · exact .ok ⟨h.openLook false true, rfl⟩
    · exact .ok ⟨h.openLook false false, rfl⟩
    · exact .bind fun p => .bind_pure (h.openGiven _) fun _ _ hn => ⟨hn, rfl⟩
    · exact .ok ⟨h.enter _ _, rfl⟩
    · exact .map (h.openFlags _) fun _ _ hn => ⟨hn.1, congrArg (· + 1) hn.2⟩
  · exact taking 0 (h.openCapture none)

theorem digitEscape (h : Behind r r') (c : Rune) (rest : List Sign) :
    Follows Alongside (digitEscape r c rest) (digitEscape r' c rest) := by
  rw [Pattern.digitEscape.eq_def, Pattern.digitEscape.eq_def]
  refine .ite (fun _ => .ok ⟨h.push _, rfl⟩) fun _ => ?_
  split
  · exact .ite (fun _ => .ok ⟨h.push _, rfl⟩) fun _ => .error
  · split
    · exact .ite (fun _ => taking 1 (h.backref _)) fun _ => taking 0 (h.backref _)
    · exact taking 0 (h.backref _)

theorem escape (h : Behind r r') (c : Rune) (rest : List Sign) :
    Follows Alongside (escape r c rest) (escape r' c rest) := by
  rw [Pattern.escape.eq_def, Pattern.escape.eq_def]
  split
  · exact .ok ⟨h.push _, rfl⟩
  · exact .ok ⟨h.push _, rfl⟩
  · exact .ok ⟨h.push _, rfl⟩
  · exact .ite (fun _ => h.digitEscape c rest) fun _ => .map_same fun _ => ⟨h.push _, rfl⟩

theorem quantify (h : Behind r r') (least : Nat) (most : Option Nat) (taken : Nat)
    (rest : List Sign) :
    Follows Alongside (quantify r least most taken rest) (quantify r' least most taken rest) := by
  rw [quantify_eq, quantify_eq]
  exact taking _ (h.repeatLast _ _ _)

theorem quantifyBraces (h : Behind r r') (rest : List Sign) :
    Follows Alongside (quantifyBraces r rest) (quantifyBraces r' rest) := by
  rw [Pattern.quantifyBraces, Pattern.quantifyBraces]
  split
  · exact .ok ⟨h.push _, rfl⟩
  · refine .ite (fun _ => .error) fun _ => ?_
    exact .bind fun least => .bind fun most => .ite (fun _ => .error) fun _ => h.quantify _ _ _ _

/-! ## Steps and runs -/

theorem step (h : Behind r r') (s : Sign) (rest : List Sign) :
    Follows Alongside (step r s rest) (step r' s rest) := by
  rw [Pattern.step.eq_def, Pattern.step.eq_def, h.verbose]
  split
  · exact .error
  · exact h.escape _ rest
  · refine .ite (fun _ => .ok ⟨h, rfl⟩) fun _ => .ite (fun _ => .ok ⟨h, rfl⟩) fun _ => ?_
    split
    · exact taking 0 h.nextBranch
    · exact taking 0 h.close
    · exact h.openGroup rest
    · exact .map_same fun _ => ⟨h.push _, rfl⟩
    · exact .ok ⟨h.push _, rfl⟩
    · exact .ok ⟨h.push _, rfl⟩
    · exact .ok ⟨h.push _, rfl⟩
    · exact h.quantify _ _ _ rest
    · exact h.quantify _ _ _ rest
    · exact h.quantify _ _ _ rest
    · exact h.quantifyBraces rest
    · exact .ok ⟨h.push _, rfl⟩

/-- What is read behind a line start is read without it as well. -/
theorem readFrom (h : Behind r r') (pending : Nat) (signs : List Sign) :
    Follows Behind (readFrom r pending signs) (readFrom r' pending signs) := by
  induction signs generalizing r r' pending with
  | nil => exact Follows.ok h
  | cons s rest ih =>
    cases pending with
    | succ pending => exact ih h pending
    | zero =>
      rw [Pattern.readFrom, Pattern.readFrom]
      have hstep := h.step s rest
      cases hs : Pattern.step r' s rest with
      | error x => exact .error
      | ok q =>
        obtain ⟨p, hp, hnext, htaken⟩ := hstep q hs
        rw [hp]
        dsimp only
        rw [htaken]
        exact ih hnext p.2

end Behind

theorem Behind.start : Behind .start (Reading.start.push (.assertion .lineStart)) :=
  .mk (.whole (.first [])) rfl

end FileTags.Pattern

import FileTags.Proofs.Term.Assembly

/-!
# Levels and their parentheses

A level begins with an opening parenthesis and is there, with all the levels around it, until the
parenthesis that closes it. In a list with a derivation every opening parenthesis has a closing one,
and the stack takes the two for the ends of one level.
-/

set_option autoImplicit false

namespace FileTags.Term

/-- Where a list goes below the depth that it starts at, a closing parenthesis is the first to do
so. -/
theorem exists_closing {d : Int} {ts : List Token} (hd : 0 ≤ d) (h : d + height ts < 0) :
    ∃ us n vs, ts = us ++ .symbol .closing n :: vs ∧ d + height us = 0 ∧ ∀ ps qs, us = ps ++ qs →
    0 ≤ d + height ps := by
  induction ts generalizing d with
  | nil =>
    rw [height_nil] at h
    omega
  | cons t ts ih =>
    rw [height_cons] at h
    by_cases ht : 0 ≤ d + t.rise
    · obtain ⟨us, n, vs, rfl, hus, hprefix⟩ := ih ht (by omega)
      refine ⟨t :: us, n, vs, rfl, by rw [height_cons]; omega, ?_⟩
      intro ps qs hps
      cases ps with
      | nil => simpa using hd
      | cons p ps =>
        obtain ⟨rfl, rfl⟩ := List.cons_eq_cons.mp hps
        have := hprefix ps qs rfl
        rw [height_cons]
        omega
    · obtain ⟨n, rfl⟩ := Token.eq_closing (by omega : t.rise < 0)
      simp only [Token.rise] at ht
      refine ⟨[], n, ts, rfl, by rw [height_nil]; omega, ?_⟩
      intro ps qs hps
      rw [(List.append_eq_nil_iff.mp hps.symm).1, height_nil]
      omega

/-- In a balanced list every opening parenthesis has a closing one, with a balanced list between
them. -/
theorem Balanced.closing {us rest : List Token} {o : Nat}
    (h : Balanced (us ++ .symbol .opening o :: rest)) :
    ∃ vs n ws, rest = vs ++ .symbol .closing n :: ws ∧ Balanced vs := by
  have h0 := h.1
  have hus := h.2 us _ rfl
  rw [height_append, height_cons] at h0
  simp only [Token.rise] at h0
  have hbelow : 0 + height rest < 0 := by omega
  obtain ⟨vs, n, ws, rfl, hvs, hprefix⟩ := exists_closing (Int.le_refl 0) hbelow
  exact ⟨vs, n, ws, rfl, by omega, fun ps qs hps => by simpa using hprefix ps qs hps⟩

namespace Levels

variable {ls next : Levels} {t : Token} {us : List Token} {outer : List Level} {o : Nat} {d : Int}

/-- What a token does to the levels: a parenthesis begins one or ends one, and all others leave them
standing. -/
theorem step_cases (h : ls.step t = .ok next) :
    (t.rise = 0 ∧ next.outer = ls.outer ∧ next.inner.offset = ls.inner.offset) ∨
      (∃ n, t = .symbol .opening n ∧ next = ⟨.start n, ls.inner :: ls.outer⟩) ∨
      ∃ n parent outer, t = .symbol .closing n ∧ ls.outer = parent :: outer ∧
      next = ⟨parent.addOperand ls.inner.close, outer⟩ := by
  cases t with
  | operand e =>
    rw [step] at h
    split at h
    · cases h
      exact .inl ⟨rfl, rfl, rfl⟩
    · cases h
  | symbol k n =>
    cases k with
    | opening =>
      rw [step] at h
      split at h
      · cases h
        exact .inr (.inl ⟨n, rfl, rfl⟩)
      · cases h
    | closing =>
      rw [step] at h
      split at h
      · cases h
      · cases houter : ls.outer with
        | nil => simp [houter] at h
        | cons parent outer =>
          obtain rfl : (⟨parent.addOperand ls.inner.close, outer⟩ : Levels) = next := by
            simpa [houter] using h
          exact .inr (.inr ⟨n, parent, outer, rfl, rfl, rfl⟩)
    | not =>
      rw [step] at h
      split at h
      · cases h
        exact .inl ⟨rfl, rfl, rfl⟩
      · cases h
    | and | or =>
      rw [step] at h
      split at h
      · cases h
      · cases h
        exact .inl ⟨rfl, rfl, rfl⟩

/-- The level of a parenthesis stands on the levels around it, and so many levels stand inside
it. -/
def Holds (ls : Levels) (o : Nat) (outer : List Level) (d : Int) : Prop :=
  ∃ above level, ls.inner :: ls.outer = above ++ level :: outer ∧ level.offset = o ∧
    (above.length : Int) = d

theorem holds_opening (o : Nat) (outer : List Level) : Holds ⟨.start o, outer⟩ o outer 0 :=
  ⟨[], .start o, rfl, rfl, rfl⟩

theorem Holds.inner (h : ls.Holds o outer d) {l : Level} (hl : l.offset = ls.inner.offset) :
    Holds ⟨l, ls.outer⟩ o outer d := by
  obtain ⟨above, level, hls, ho, hd⟩ := h
  cases above with
  | nil =>
    obtain ⟨rfl, rfl⟩ := List.cons_eq_cons.mp hls
    exact ⟨[], l, rfl, hl.trans ho, hd⟩
  | cons a above =>
    obtain ⟨-, hrest⟩ := List.cons_eq_cons.mp hls
    exact ⟨l :: above, level, congrArg (l :: ·) hrest, ho, hd⟩

theorem Holds.step (h : ls.Holds o outer d) (hs : ls.step t = .ok next) (hd : 0 ≤ d + t.rise) :
    next.Holds o outer (d + t.rise) := by
  rcases step_cases hs with ⟨hrise, houter, hoffset⟩ | ⟨n, rfl, rfl⟩
    | ⟨n, parent, rest, rfl, houter, rfl⟩
  · have hnext : next = ⟨next.inner, ls.outer⟩ := by rw [← houter]
    rw [hrise, Int.add_zero, hnext]
    exact h.inner hoffset
  · obtain ⟨above, level, hls, ho, rfl⟩ := h
    exact ⟨.start n :: above, level, congrArg (_ :: ·) hls, ho, by simp [Token.rise]⟩
  · obtain ⟨above, level, hls, ho, rfl⟩ := h
    cases above with
    | nil => simp [Token.rise] at hd
    | cons a above =>
      obtain ⟨-, hrest⟩ := List.cons_eq_cons.mp hls
      rw [houter] at hrest
      have hparent : Holds ⟨parent, rest⟩ o outer (above.length : Int) :=
        ⟨above, level, hrest, ho, rfl⟩
      have hdepth : ((a :: above).length : Int) + Token.rise (.symbol .closing n) =
          above.length := by
        rw [List.length_cons, Token.rise]
        omega
      rw [hdepth]
      exact hparent.inner (l := parent.addOperand ls.inner.close) rfl

theorem Holds.run (h : ls.Holds o outer d) (hr : ls.run us = .ok next)
    (hd : ∀ ps qs, us = ps ++ qs → 0 ≤ d + height ps) :
    next.Holds o outer (d + height us) := by
  induction us generalizing ls d with
  | nil =>
    obtain rfl : ls = next := by simpa [Levels.run] using hr
    simpa using h
  | cons u us ih =>
    obtain ⟨mid, hs, hr⟩ := run_of_cons hr
    have hmid := h.step hs (by simpa using hd [u] us rfl)
    have hnext := ih hmid hr fun ps qs hps => by
      have := hd (u :: ps) qs (by rw [hps, List.cons_append])
      rw [height_cons] at this
      omega
    rwa [height_cons, ← Int.add_assoc]

end Levels

/-- The stack, which has taken `us`, begins a level for the parenthesis at an offset, keeps it while
it takes `vs`, and ends it with the parenthesis behind. -/
def ClosedBy (us : List Token) (o : Nat) (vs : List Token) (n : Nat) : Prop :=
  ∃ ls level, Levels.start.run us = .ok ls ∧
    ls.step (.symbol .opening o) = .ok ⟨.start o, ls.inner :: ls.outer⟩ ∧
    (∀ ps, ps <+: vs → ∃ next d, Levels.run ⟨.start o, ls.inner :: ls.outer⟩ ps = .ok next ∧
      next.Holds o (ls.inner :: ls.outer) d) ∧
    Levels.run ⟨.start o, ls.inner :: ls.outer⟩ vs = .ok ⟨level, ls.inner :: ls.outer⟩ ∧
      level.offset = o ∧
    Levels.step ⟨level, ls.inner :: ls.outer⟩ (.symbol .closing n) =
      .ok ⟨ls.inner.addOperand level.close, ls.outer⟩

theorem Balanced.closedBy {us vs ws : List Token} {o n : Nat} {last : Levels} (hvs : Balanced vs)
    (h : Levels.start.run (us ++ .symbol .opening o :: (vs ++ .symbol .closing n :: ws)) =
      .ok last) : ClosedBy us o vs n := by
  obtain ⟨ls, hus, h⟩ := Levels.run_of_append h
  obtain ⟨mid, hopen, h⟩ := Levels.run_of_cons h
  obtain ⟨after, hrun, h⟩ := Levels.run_of_append h
  obtain ⟨next, hclose, -⟩ := Levels.run_of_cons h
  obtain rfl : mid = ⟨.start o, ls.inner :: ls.outer⟩ := by
    rcases Levels.step_cases hopen with ⟨hrise, -⟩ | ⟨m, htoken, hmid⟩
      | ⟨m, parent, outer, htoken, -⟩
    · cases hrise
    · cases htoken
      exact hmid
    · cases htoken
  have hstart := Levels.holds_opening o (ls.inner :: ls.outer)
  have hholds : ∀ {ps next}, ps <+: vs → Levels.run ⟨.start o, ls.inner :: ls.outer⟩ ps = .ok next →
      next.Holds o (ls.inner :: ls.outer) (0 + height ps) := by
    rintro ps next ⟨qs, rfl⟩ hps
    refine hstart.run hps fun as bs hab => ?_
    simpa using hvs.2 as (bs ++ qs) (by rw [hab, List.append_assoc])
  obtain ⟨above, level, hafter, ho, hlen⟩ := hholds List.prefix_rfl hrun
  rw [hvs.1] at hlen
  obtain rfl : above = [] := List.length_eq_zero_iff.mp (by omega)
  obtain ⟨rfl, houter⟩ := List.cons_eq_cons.mp hafter
  have hafter : after = ⟨after.inner, ls.inner :: ls.outer⟩ := by rw [← houter]
  refine ⟨ls, after.inner, hus, hopen, ?_, hafter ▸ hrun, ho, ?_⟩
  · rintro ps ⟨qs, rfl⟩
    obtain ⟨next, hps, -⟩ := Levels.run_of_append hrun
    exact ⟨next, _, hps, hholds (List.prefix_append ps qs) hps⟩
  · rw [← hafter, hclose]
    rcases Levels.step_cases hclose with ⟨hrise, -⟩ | ⟨m, htoken, -⟩
      | ⟨m, parent, outer, htoken, hparent, rfl⟩
    · cases hrise
    · cases htoken
    · rw [houter] at hparent
      obtain ⟨rfl, rfl⟩ := List.cons_eq_cons.mp hparent
      rfl

end FileTags.Term

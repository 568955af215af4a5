import Mathlib.Tactic.SplitIfs
import FileTags.Proofs.Term.Grammar
import FileTags.Term.Assembly

/-!
# Assembly is derivation

The stack of levels builds exactly the expression that a derivation of the token list has, and fails
on a list without a derivation, at the place where it goes wrong. In one direction a derivation is
run through the stack. In the other, every state of the stack is related to what it has read: each
level has read a chain that still lacks an operand, or may end here.
-/

set_option autoImplicit false

namespace FileTags.Term

namespace Levels

theorem run_append (ls : Levels) (ts us : List Token) :
    ls.run (ts ++ us) = (ls.run ts).bind fun next => next.run us := by
  induction ts generalizing ls with
  | nil => rfl
  | cons t ts ih =>
    simp only [List.cons_append, run]
    cases ls.step t with
    | ok next => exact ih next
    | error e => rfl

theorem run_of_append {ls next : Levels} {us vs : List Token} (h : ls.run (us ++ vs) = .ok next) :
    ∃ mid, ls.run us = .ok mid ∧ mid.run vs = .ok next := by
  rw [run_append] at h
  cases hus : ls.run us with
  | error e => simp [hus, Except.bind] at h
  | ok mid => exact ⟨mid, rfl, by simpa [hus, Except.bind] using h⟩

theorem run_of_cons {ls next : Levels} {t : Token} {ts : List Token}
    (h : ls.run (t :: ts) = .ok next) :
    ∃ mid, ls.step t = .ok mid ∧ mid.run ts = .ok next := by
  rw [run] at h
  cases ht : ls.step t with
  | error e => simp [ht] at h
  | ok mid => exact ⟨mid, rfl, by simpa [ht] using h⟩

/-- A failing run stops at its first token that cannot be taken up. -/
theorem run_error {ls : Levels} {ts : List Token} {e : Misplaced × Nat} (h : ls.run ts = .error e) :
    ∃ us t vs next, ts = us ++ t :: vs ∧ ls.run us = .ok next ∧ next.step t = .error e := by
  induction ts generalizing ls with
  | nil => simp [run] at h
  | cons t ts ih =>
    rw [run] at h
    cases hs : ls.step t with
    | error f =>
      rw [hs] at h
      exact ⟨[], t, ts, ls, rfl, rfl, by rw [hs]; exact h⟩
    | ok next =>
      rw [hs] at h
      obtain ⟨us, u, vs, last, rfl, hrun, hstep⟩ := ih h
      exact ⟨t :: us, u, vs, last, rfl, by rw [run, hs]; exact hrun, hstep⟩

theorem step_error {ls : Levels} {t : Token} {m : Misplaced} {n : Nat}
    (h : ls.step t = .error (m, n)) : n = t.start := by
  cases t with
  | operand e =>
    simp only [step] at h
    split at h <;> simp_all [Token.start]
  | symbol k i =>
    cases k <;> simp only [step] at h <;> repeat' split at h
    all_goals simp_all [Token.start]

end Levels

/-! ## A derivation runs through the stack -/

mutual

theorem Primary.run {ts : List Token} {e : Expr} (l : Level) (outer : List Level)
    (rest : List Token) (hw : l.wantsOperand = true) : Primary ts e →
    Levels.run ⟨l, outer⟩ (ts ++ rest) = Levels.run ⟨l.addOperand e, outer⟩ rest
  | .leaf e => by
    simp only [List.singleton_append, Levels.run, Levels.step, hw, if_true]
  | .group m n h => by
    obtain ⟨last, hl, hc, hr⟩ := h.run m (l :: outer) (.symbol .closing n :: rest)
    simp only [List.cons_append, List.append_assoc, List.nil_append, Levels.run, Levels.step, hw,
      if_true]
    rw [hr]
    simp [Levels.run, Levels.step, hl, hc]

theorem Unary.run {ts : List Token} {e : Expr} (l : Level) (outer : List Level) (rest : List Token)
    (hw : l.wantsOperand = true) : Unary ts e →
    Levels.run ⟨l, outer⟩ (ts ++ rest) = Levels.run ⟨l.addOperand e, outer⟩ rest
  | .primary h => h.run l outer rest hw
  | .not n h => by
    simp only [List.cons_append, Levels.run, Levels.step]
    rw [if_pos hw]
    exact h.run { l with negations := n :: l.negations } outer rest hw

theorem Conjuncts.run {ts : List Token} {es : List Expr} (m : Nat) (ds : List Expr)
    (outer : List Level) (rest : List Token) : Conjuncts ts es →
    Levels.run ⟨⟨m, ds, [], [], true⟩, outer⟩ (ts ++ rest) =
      Levels.run ⟨⟨m, ds, es.reverse, [], false⟩, outer⟩ rest
  | .one h => h.run _ outer rest rfl
  | .more n h hu => by
    rw [List.append_assoc, h.run m ds outer]
    simp only [List.cons_append, Levels.run, Levels.step]
    simpa [Level.addOperand] using hu.run ⟨m, ds, _, [], true⟩ outer rest rfl

theorem Conjunction.run {ts : List Token} {e : Expr} (m : Nat) (ds : List Expr) (outer : List Level)
    (rest : List Token) : Conjunction ts e → ∃ cs, .conjunction cs.reverse = e ∧
    Levels.run ⟨⟨m, ds, [], [], true⟩, outer⟩ (ts ++ rest) =
      Levels.run ⟨⟨m, ds, cs, [], false⟩, outer⟩ rest
  | .single h => ⟨_, by simp [Expr.conjunction], h.run m ds outer rest⟩
  | .chain h => ⟨_, by simp only [List.reverse_reverse]; rfl, h.run m ds outer rest⟩

theorem Disjuncts.run {ts : List Token} {es : List Expr} (m : Nat) (outer : List Level)
    (rest : List Token) : Disjuncts ts es → ∃ cs ds, .conjunction cs.reverse :: ds = es.reverse ∧
    Levels.run ⟨.start m, outer⟩ (ts ++ rest) = Levels.run ⟨⟨m, ds, cs, [], false⟩, outer⟩ rest
  | .one h => by
    obtain ⟨cs, rfl, hr⟩ := h.run m [] outer rest
    exact ⟨cs, [], rfl, hr⟩
  | @Disjuncts.more us vs _ _ n h hu => by
    obtain ⟨cs, ds, hd, hr⟩ := h.run m outer (.symbol .or n :: (vs ++ rest))
    obtain ⟨as, rfl, ha⟩ := hu.run m (.conjunction cs.reverse :: ds) outer rest
    refine ⟨as, .conjunction cs.reverse :: ds, by simp [hd], ?_⟩
    rw [List.append_assoc, List.cons_append, hr]
    simpa [Levels.run, Levels.step, Level.endConjunction] using ha

theorem Disjunction.run {ts : List Token} {e : Expr} (m : Nat) (outer : List Level)
    (rest : List Token) :
    Disjunction ts e → ∃ l, l.wantsOperand = false ∧ l.close = e ∧
      Levels.run ⟨.start m, outer⟩ (ts ++ rest) = Levels.run ⟨l, outer⟩ rest
  | .single h => by
    obtain ⟨cs, ds, hd, hr⟩ := h.run m outer rest
    refine ⟨_, rfl, ?_, hr⟩
    simp [Level.close, Level.endConjunction, hd, Expr.disjunction]
  | .chain h => by
    obtain ⟨cs, ds, hd, hr⟩ := h.run m outer rest
    refine ⟨_, rfl, ?_, hr⟩
    simp only [Level.close, Level.endConjunction, hd, List.reverse_reverse]
    rfl

end

theorem Disjunction.assemble {ts : List Token} {e : Expr} (h : Disjunction ts e) (size : Nat) :
    assemble size ts = .ok e := by
  obtain ⟨l, hw, rfl, hr⟩ := h.run 0 [] []
  simp only [List.append_nil, Levels.run] at hr
  simp [Term.assemble, Levels.start, hr, Levels.finish, hw]

/-! ## The stack knows what it has read -/

def ConjunctsBefore (es : List Expr) (ts : List Token) : Prop :=
  es = [] ∧ ts = [] ∨ ∃ us n, Conjuncts us es ∧ ts = us ++ [.symbol .and n]

def DisjunctsBefore (es : List Expr) (ts : List Token) : Prop :=
  es = [] ∧ ts = [] ∨ ∃ us n, Disjuncts us es ∧ ts = us ++ [.symbol .or n]

inductive Level.Reads (l : Level) : List Token → Prop
  | wanting {us vs : List Token} (hw : l.wantsOperand = true)
      (hd : DisjunctsBefore l.disjuncts.reverse us)
      (hc : ConjunctsBefore l.conjuncts.reverse vs) :
      l.Reads (us ++ (vs ++ l.negations.reverse.map (.symbol .not)))
  | holding {us vs : List Token} (hw : l.wantsOperand = false) (hn : l.negations = [])
      (hd : DisjunctsBefore l.disjuncts.reverse us) (hc : Conjuncts vs l.conjuncts.reverse) :
        l.Reads (us ++ vs)

/-- What the outer levels have read, up to the parenthesis of the level inside, which stands at an
offset. -/
inductive OuterReads : Nat → List Level → List Token → Prop
  | nil (n : Nat) : OuterReads n [] []
  | cons {n : Nat} {parent : Level} {outer : List Level} {us vs : List Token}
      (hw : parent.wantsOperand = true)
      (ho : OuterReads parent.offset outer us) (hp : parent.Reads vs) :
      OuterReads n (parent :: outer) (us ++ vs ++ [.symbol .opening n])

def Levels.Reads (ls : Levels) (ts : List Token) : Prop :=
  ∃ us vs, ts = us ++ vs ∧ OuterReads ls.inner.offset ls.outer us ∧ ls.inner.Reads vs

theorem Conjuncts.before {es : List Expr} {e : Expr} {ts us : List Token}
    (h : ConjunctsBefore es ts) (hu : Unary us e) : Conjuncts (ts ++ us) (es ++ [e]) := by
  rcases h with ⟨rfl, rfl⟩ | ⟨vs, n, hv, rfl⟩
  · exact .one hu
  · simpa using hv.more n hu

theorem Disjuncts.before {es : List Expr} {e : Expr} {ts us : List Token}
    (h : DisjunctsBefore es ts) (hu : Conjunction us e) : Disjuncts (ts ++ us) (es ++ [e]) := by
  rcases h with ⟨rfl, rfl⟩ | ⟨vs, n, hv, rfl⟩
  · exact .one hu
  · simpa using hv.more n hu

theorem ConjunctsBefore.balanced {es : List Expr} {ts : List Token} (h : ConjunctsBefore es ts) :
    Balanced ts := by
  rcases h with ⟨rfl, rfl⟩ | ⟨us, n, hu, rfl⟩
  · exact balanced_nil
  · exact balanced_append hu.balanced (balanced_token rfl)

theorem DisjunctsBefore.balanced {es : List Expr} {ts : List Token} (h : DisjunctsBefore es ts) :
    Balanced ts := by
  rcases h with ⟨rfl, rfl⟩ | ⟨us, n, hu, rfl⟩
  · exact balanced_nil
  · exact balanced_append hu.balanced (balanced_token rfl)

theorem balanced_negations (ns : List Nat) : Balanced (ns.map (.symbol .not)) := by
  induction ns with
  | nil => exact balanced_nil
  | cons n ns ih => exact balanced_cons rfl ih

namespace Level

variable {l : Level} {ts us : List Token} {e : Expr}

theorem reads_start (n : Nat) : (start n).Reads [] :=
  @Reads.wanting (start n) [] [] rfl (.inl ⟨rfl, rfl⟩) (.inl ⟨rfl, rfl⟩)

theorem Reads.balanced (h : l.Reads ts) : Balanced ts := by
  cases h with
  | wanting hw hd hc =>
    exact balanced_append hd.balanced (balanced_append hc.balanced (balanced_negations _))
  | holding hw hn hd hc => exact balanced_append hd.balanced hc.balanced

theorem Reads.addOperand (h : l.Reads ts) (hw : l.wantsOperand = true) (hu : Primary us e) :
    (l.addOperand e).Reads (ts ++ us) := by
  cases h with
  | holding hf => simp [hf] at hw
  | wanting _ hd hc =>
    have hunary := (Unary.primary hu).negated l.negations
    have hmore := Conjuncts.before hc hunary
    rw [List.append_assoc, List.append_assoc]
    refine .holding rfl rfl hd ?_
    simpa [Level.addOperand] using hmore

theorem Reads.negate (h : l.Reads ts) (hw : l.wantsOperand = true) (n : Nat) :
    Reads { l with negations := n :: l.negations } (ts ++ [.symbol .not n]) := by
  cases h with
  | holding hf => simp [hf] at hw
  | wanting _ hd hc =>
    have := Reads.wanting (l := { l with negations := n :: l.negations }) hw hd hc
    simpa using this

theorem Reads.continueConjunction (h : l.Reads ts) (hw : l.wantsOperand = false) (n : Nat) :
    Reads { l with wantsOperand := true } (ts ++ [.symbol .and n]) := by
  cases h with
  | wanting hf => simp [hf] at hw
  | holding _ hn hd hc =>
    have := Reads.wanting (l := { l with wantsOperand := true }) rfl hd (.inr ⟨_, n, hc, rfl⟩)
    simpa [hn] using this

/-- The chain of a level that lacks nothing, with its running conjunction as the last operand. -/
theorem Reads.disjuncts (h : l.Reads ts) (hw : l.wantsOperand = false) :
    Disjuncts ts l.endConjunction.disjuncts.reverse := by
  cases h with
  | wanting hf => simp [hf] at hw
  | holding _ _ hd hc => simpa [Level.endConjunction] using Disjuncts.before hd hc.join

theorem Reads.endConjunction (h : l.Reads ts) (hw : l.wantsOperand = false) (n : Nat) :
    l.endConjunction.Reads (ts ++ [.symbol .or n]) := by
  have hn : l.negations = [] := by
    cases h with
    | wanting hf => simp [hf] at hw
    | holding _ hn => exact hn
  have :=
    @Reads.wanting l.endConjunction _ [] rfl (.inr ⟨_, n, h.disjuncts hw, rfl⟩) (.inl ⟨rfl, rfl⟩)
  simpa [Level.endConjunction, hn] using this

theorem Reads.close (h : l.Reads ts) (hw : l.wantsOperand = false) : Disjunction ts l.close :=
  (h.disjuncts hw).join

end Level

namespace Levels

theorem reads_start : start.Reads [] := ⟨[], [], rfl, .nil 0, Level.reads_start 0⟩

theorem Reads.step {ls next : Levels} {ts : List Token} {t : Token} (h : ls.Reads ts)
    (hs : ls.step t = .ok next) :
    next.Reads (ts ++ [t]) := by
  obtain ⟨us, vs, rfl, ho, hi⟩ := h
  rw [List.append_assoc]
  cases hw : ls.inner.wantsOperand with
  | true =>
    cases t with
    | operand e =>
      obtain rfl : { ls with inner := ls.inner.addOperand e } = next := by
        simpa [Levels.step, hw] using hs
      exact ⟨us, _, rfl, ho, hi.addOperand hw (.leaf e)⟩
    | symbol k n =>
      cases k with
      | not =>
        obtain rfl : { ls with inner :=
          { ls.inner with negations := n :: ls.inner.negations } } = next := by
          simpa [Levels.step, hw] using hs
        exact ⟨us, _, rfl, ho, hi.negate hw n⟩
      | opening =>
        obtain rfl : (⟨.start n, ls.inner :: ls.outer⟩ : Levels) = next := by
          simpa [Levels.step, hw] using hs
        exact ⟨us ++ vs ++ [.symbol .opening n], [], by simp, .cons hw ho hi, Level.reads_start n⟩
      | closing => simp [Levels.step, hw] at hs
      | and => simp [Levels.step, hw] at hs
      | or => simp [Levels.step, hw] at hs
  | false =>
    cases t with
    | operand e => simp [Levels.step, hw] at hs
    | symbol k n =>
      cases k with
      | not => simp [Levels.step, hw] at hs
      | opening => simp [Levels.step, hw] at hs
      | and =>
        obtain rfl : { ls with inner := { ls.inner with wantsOperand := true } } = next := by
          simpa [Levels.step, hw] using hs
        exact ⟨us, _, rfl, ho, hi.continueConjunction hw n⟩
      | or =>
        obtain rfl : { ls with inner := ls.inner.endConjunction } = next := by
          simpa [Levels.step, hw] using hs
        exact ⟨us, _, rfl, ho, hi.endConjunction hw n⟩
      | closing =>
        obtain ⟨inner, outer⟩ := ls
        change inner.wantsOperand = false at hw
        cases ho with
        | nil => simp [Levels.step, hw] at hs
        | @cons _ parent outer _ _ hparent ho hp =>
          obtain rfl : (⟨parent.addOperand inner.close, outer⟩ : Levels) = next := by
            simpa [Levels.step, hw] using hs
          have hgroup := Primary.group inner.offset n (hi.close hw)
          refine ⟨_, _, ?_, ho, hp.addOperand hparent hgroup⟩
          simp

theorem Reads.run {ls next : Levels} {ts us : List Token} (h : ls.Reads ts)
    (hr : ls.run us = .ok next) :
    next.Reads (ts ++ us) := by
  induction us generalizing ls ts with
  | nil =>
    obtain rfl : ls = next := by simpa [Levels.run] using hr
    simpa using h
  | cons u us ih =>
    obtain ⟨mid, hs, hr⟩ := run_of_cons hr
    simpa using ih (h.step hs) hr

/-- Some tokens bring every stack to an end: an operand where one is lacking, and a parenthesis for
every level. -/
theorem completed (ls : Levels) :
    ∃ us next, ls.run us = .ok next ∧ next.outer = [] ∧ next.inner.wantsOperand = false := by
  have hclose : ∀ (outer : List Level) (inner : Level), inner.wantsOperand = false →
      ∃ us next, run ⟨inner, outer⟩ us = .ok next ∧ next.outer = [] ∧
        next.inner.wantsOperand = false := by
    intro outer
    induction outer with
    | nil => exact fun inner hw => ⟨[], _, rfl, rfl, hw⟩
    | cons parent outer ih =>
      intro inner hw
      obtain ⟨us, next, hr, hn⟩ := ih (parent.addOperand inner.close) rfl
      exact ⟨.symbol .closing 0 :: us, next, by simpa [Levels.run, Levels.step, hw] using hr, hn⟩
  obtain ⟨inner, outer⟩ := ls
  cases hw : inner.wantsOperand with
  | false => exact hclose outer inner hw
  | true =>
    obtain ⟨us, next, hr, hn⟩ := hclose outer (inner.addOperand (.tag 0 [])) rfl
    exact ⟨.operand (.tag 0 []) :: us, next, by simpa [Levels.run, Levels.step, hw] using hr, hn⟩

theorem derives_of_run {ls : Levels} {ts : List Token} (h : start.run ts = .ok ls)
    (ho : ls.outer = []) (hw : ls.inner.wantsOperand = false) : Disjunction ts ls.inner.close := by
  obtain ⟨us, vs, hts, houter, hi⟩ := reads_start.run h
  rw [ho] at houter
  cases houter
  obtain rfl : ts = vs := by simpa using hts
  exact hi.close hw

theorem extendable_of_run {ls : Levels} {ts : List Token} (h : start.run ts = .ok ls) :
    Extendable ts := by
  obtain ⟨us, next, hr, ho, hw⟩ := ls.completed
  have hrun : start.run (ts ++ us) = .ok next := by rw [run_append, h]; exact hr
  exact ⟨us, _, derives_of_run hrun ho hw⟩

/-- A list that runs has only prefixes that run, so none of them is beyond mending. -/
theorem prefixes_extendable {ls : Levels} {ts : List Token} (h : start.run ts = .ok ls) :
    ∀ qs, qs <+: ts → Extendable qs := by
  rintro qs ⟨us, rfl⟩
  obtain ⟨mid, hq, -⟩ := run_of_append h
  exact extendable_of_run hq

theorem not_extendable_of_run {ts : List Token} {e : Misplaced × Nat}
    (h : start.run ts = .error e) :
    ¬ Extendable ts := by
  rintro ⟨us, f, hd⟩
  have hf := hd.assemble 0
  rw [assemble, run_append, h] at hf
  cases hf

/-- The innermost level of a run stands for the parenthesis left open last. -/
theorem innermostOpen_of_run {ls : Levels} {ts : List Token} (h : start.run ts = .ok ls)
    (ho : ls.outer ≠ []) :
    InnermostOpen ts ls.inner.offset := by
  obtain ⟨us, vs, rfl, houter, hi⟩ := reads_start.run h
  obtain ⟨inner, outer⟩ := ls
  cases houter with
  | nil => simp at ho
  | @cons _ parent outer us ws hparent houter hp => exact ⟨us ++ ws, vs, by simp, hi.balanced⟩

theorem not_innermostOpen_of_run {ls : Levels} {ts : List Token} (h : start.run ts = .ok ls)
    (ho : ls.outer = []) (n : Nat) : ¬ InnermostOpen ts n := by
  obtain ⟨us, vs, hts, houter, hi⟩ := reads_start.run h
  rw [ho] at houter
  cases houter
  obtain rfl : ts = vs := by simpa using hts
  exact not_innermostOpen hi.balanced n

/-- A run that breaks off goes wrong at the token where it does. -/
theorem goesWrongAt_of_run {ts : List Token} {m : Misplaced} {n : Nat}
    (h : start.run ts = .error (m, n)) (size : Nat) :
    GoesWrongAt size ts n := by
  obtain ⟨us, t, vs, ls, rfl, hr, hs⟩ := run_error h
  have hstop : start.run (us ++ [t]) = .error (m, n) := by
    rw [run_append, hr]
    simp [Except.bind, run, hs]
  exact .inl ⟨us, t, vs, rfl, prefixes_extendable hr, not_extendable_of_run hstop, step_error hs⟩

end Levels

theorem derives_of_assemble {size : Nat} {ts : List Token} {e : Expr}
    (h : assemble size ts = .ok e) :
    Disjunction ts e := by
  rw [assemble] at h
  cases hr : Levels.start.run ts with
  | error f => simp [hr] at h
  | ok ls =>
    simp only [hr, Levels.finish] at h
    split_ifs at h with ho hw
    obtain rfl : ls.inner.close = e := by simpa using h
    exact Levels.derives_of_run hr (by simpa using ho) (by simpa using hw)

theorem goesWrongAt_of_assemble {size : Nat} {ts : List Token} {m : Misplaced} {n : Nat}
    (h : assemble size ts = .error (m, n)) : GoesWrongAt size ts n := by
  rw [assemble] at h
  cases hr : Levels.start.run ts with
  | error f =>
    obtain rfl : f = (m, n) := by simpa [hr] using h
    exact Levels.goesWrongAt_of_run hr size
  | ok ls =>
    refine .inr ⟨Levels.prefixes_extendable hr, ?_⟩
    simp only [hr, Levels.finish] at h
    split_ifs at h with ho hw
    · obtain ⟨-, rfl⟩ : Misplaced.unclosedOpen = m ∧ ls.inner.offset = n := by simpa using h
      exact .inl (Levels.innermostOpen_of_run hr (by simpa using ho))
    · obtain ⟨-, rfl⟩ : Misplaced.missingOperand = m ∧ size = n := by simpa using h
      exact .inr ⟨Levels.not_innermostOpen_of_run hr (by simpa using ho), rfl⟩

theorem assemble_eq_ok_iff {size : Nat} {ts : List Token} {e : Expr} :
    assemble size ts = .ok e ↔ Disjunction ts e :=
  ⟨derives_of_assemble, fun h => h.assemble size⟩

/-- Assembly finds the expression that a list derives, which is the only one. Where there is none it
names the place where the list goes wrong. -/
theorem assemble_eq_derivation (size : Nat) (ts : List Token) :
    match assemble size ts with
    | .ok e => ∀ f, Disjunction ts f ↔ f = e
    | .error (_, n) => (∀ f, ¬ Disjunction ts f) ∧ GoesWrongAt size ts n := by
  cases h : assemble size ts with
  | ok e =>
    intro f
    rw [← @assemble_eq_ok_iff size, h, Except.ok.injEq]
    exact eq_comm
  | error p =>
    refine ⟨fun f hf => ?_, goesWrongAt_of_assemble h⟩
    rw [hf.assemble size] at h
    cases h

end FileTags.Term

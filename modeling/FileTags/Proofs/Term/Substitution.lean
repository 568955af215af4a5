import FileTags.Proofs.Term.Recast
import Mathlib.Data.List.Forall2

/-!
# Operands in the place of operands

In a list of tokens that derives an expression any operand may give way to a group with an
expression in it. The list still derives an expression, of the same form but for the operands that
were put in: a group counts as one operand. What holds between the operands and goes over to
connectives then holds between the expressions.
-/

set_option autoImplicit false

namespace FileTags.Term

structure Congruent (R : Expr → Expr → Prop) : Prop where
  same : ∀ {e f : Expr}, e.unplaced = f.unplaced → R e f
  trans : ∀ {e f g : Expr}, R e f → R f g → R e g
  not : ∀ {e f : Expr} (m n : Nat), R e f → R (.not m e) (.not n f)
  and : ∀ {es fs : List Expr} (m n : Nat), List.Forall₂ R es fs → R (.and m es) (.and n fs)
  or : ∀ {es fs : List Expr} (m n : Nat), List.Forall₂ R es fs → R (.or m es) (.or n fs)

inductive Substituted (R : Expr → Expr → Prop) : List Token → List Token → Prop
  | nil : Substituted R [] []
  | symbol {ts ts' : List Token} (k : Symbol) (m n : Nat) (h : Substituted R ts ts') :
      Substituted R (.symbol k m :: ts) (.symbol k n :: ts')
  | operand {ts ts' us : List Token} {e f : Expr} (hf : Primary us f) (hR : R e f)
      (h : Substituted R ts ts') :
      Substituted R (.operand e :: ts) (us ++ ts')

variable {R : Expr → Expr → Prop}

theorem Substituted.split {ts us ws : List Token} (h : Substituted R (ts ++ us) ws) :
    ∃ ts' us', ws = ts' ++ us' ∧ Substituted R ts ts' ∧ Substituted R us us' := by
  induction ts generalizing ws with
  | nil => exact ⟨[], ws, rfl, .nil, h⟩
  | cons t ts ih =>
    rw [List.cons_append] at h
    generalize hw : ts ++ us = vs at h
    cases h with
    | symbol k m n h =>
      obtain ⟨ts', us', rfl, hts, hus⟩ := ih (hw ▸ h)
      exact ⟨_, us', rfl, .symbol k m n hts, hus⟩
    | operand hf hR h =>
      obtain ⟨ts', us', rfl, hts, hus⟩ := ih (hw ▸ h)
      exact ⟨_, us', (List.append_assoc _ _ _).symm, .operand hf hR hts, hus⟩

theorem Substituted.split_symbol {ts us ws : List Token} {k : Symbol} {m : Nat}
    (h : Substituted R (ts ++ .symbol k m :: us) ws) :
    ∃ ts' n us', ws = ts' ++ .symbol k n :: us' ∧ Substituted R ts ts' ∧ Substituted R us us' := by
  obtain ⟨ts', vs, rfl, hts, hvs⟩ := h.split
  cases hvs with
  | symbol _ _ n hus => exact ⟨ts', n, _, rfl, hts, hus⟩

mutual

/-- Tokens with operands substituted derive what the tokens derive, up to the relation. -/
theorem Primary.substituted (hR : Congruent R) {ts : List Token} {e : Expr} :
    Primary ts e → ∀ {ts' : List Token}, Substituted R ts ts' → ∃ f, Primary ts' f ∧ R e f
  | .leaf e, ts', hs => by
    cases hs with
    | operand hf hef h =>
      cases h with
      | nil => exact ⟨_, by simpa using hf, hef⟩
  | .group m n h, ts', hs => by
    cases hs with
    | symbol _ _ m' hs =>
      obtain ⟨us, n', vs, rfl, hus, hvs⟩ := hs.split_symbol
      cases hvs with
      | nil =>
        obtain ⟨f, hf, hef⟩ := h.substituted hR hus
        exact ⟨f, .group m' n' hf, hef⟩

theorem Unary.substituted (hR : Congruent R) {ts : List Token} {e : Expr} :
    Unary ts e → ∀ {ts' : List Token}, Substituted R ts ts' → ∃ f, Unary ts' f ∧ R e f
  | .primary h, ts', hs => by
    obtain ⟨f, hf, hef⟩ := h.substituted hR hs
    exact ⟨f, .primary hf, hef⟩
  | .not n h, ts', hs => by
    cases hs with
    | symbol _ _ n' hs =>
      obtain ⟨f, hf, hef⟩ := h.substituted hR hs
      exact ⟨_, .not n' hf, hR.not n n' hef⟩

theorem Conjuncts.substituted (hR : Congruent R) {ts : List Token} {es : List Expr} :
    Conjuncts ts es → ∀ {ts' : List Token}, Substituted R ts ts' →
    ∃ fs, Conjuncts ts' fs ∧ List.Forall₂ R es fs
  | .one h, ts', hs => by
    obtain ⟨f, hf, hef⟩ := h.substituted hR hs
    exact ⟨[f], .one hf, .cons hef .nil⟩
  | .more n h hu, ts', hs => by
    obtain ⟨us, n', vs, rfl, hus, hvs⟩ := hs.split_symbol
    obtain ⟨fs, hfs, hR'⟩ := h.substituted hR hus
    obtain ⟨f, hf, hef⟩ := hu.substituted hR hvs
    exact ⟨fs ++ [f], .more n' hfs hf, List.rel_append hR' (.cons hef .nil)⟩

theorem Conjunction.substituted (hR : Congruent R) {ts : List Token} {e : Expr} :
    Conjunction ts e → ∀ {ts' : List Token}, Substituted R ts ts' → ∃ f, Conjunction ts' f ∧ R e f
  | .single h, ts', hs => by
    obtain ⟨fs, hfs, hR'⟩ := h.substituted hR hs
    obtain ⟨f, _, hef, ⟨⟩, rfl⟩ := List.forall₂_cons_left_iff.mp hR'
    exact ⟨f, .single hfs, hef⟩
  | .chain h, ts', hs => by
    obtain ⟨fs, hfs, hR'⟩ := h.substituted hR hs
    obtain ⟨f, gs, hef, hgs, rfl⟩ := List.forall₂_cons_left_iff.mp hR'
    obtain ⟨g, gs, heg, hgs', rfl⟩ := List.forall₂_cons_left_iff.mp hgs
    exact ⟨_, .chain hfs, hR.and _ _ (.cons hef (.cons heg hgs'))⟩

theorem Disjuncts.substituted (hR : Congruent R) {ts : List Token} {es : List Expr} :
    Disjuncts ts es → ∀ {ts' : List Token}, Substituted R ts ts' →
    ∃ fs, Disjuncts ts' fs ∧ List.Forall₂ R es fs
  | .one h, ts', hs => by
    obtain ⟨f, hf, hef⟩ := h.substituted hR hs
    exact ⟨[f], .one hf, .cons hef .nil⟩
  | .more n h hu, ts', hs => by
    obtain ⟨us, n', vs, rfl, hus, hvs⟩ := hs.split_symbol
    obtain ⟨fs, hfs, hR'⟩ := h.substituted hR hus
    obtain ⟨f, hf, hef⟩ := hu.substituted hR hvs
    exact ⟨fs ++ [f], .more n' hfs hf, List.rel_append hR' (.cons hef .nil)⟩

theorem Disjunction.substituted (hR : Congruent R) {ts : List Token} {e : Expr} :
    Disjunction ts e → ∀ {ts' : List Token}, Substituted R ts ts' → ∃ f, Disjunction ts' f ∧ R e f
  | .single h, ts', hs => by
    obtain ⟨fs, hfs, hR'⟩ := h.substituted hR hs
    obtain ⟨f, _, hef, ⟨⟩, rfl⟩ := List.forall₂_cons_left_iff.mp hR'
    exact ⟨f, .single hfs, hef⟩
  | .chain h, ts', hs => by
    obtain ⟨fs, hfs, hR'⟩ := h.substituted hR hs
    obtain ⟨f, gs, hef, hgs, rfl⟩ := List.forall₂_cons_left_iff.mp hR'
    obtain ⟨g, gs, heg, hgs', rfl⟩ := List.forall₂_cons_left_iff.mp hgs
    exact ⟨_, .chain hfs, hR.or _ _ (.cons hef (.cons heg hgs'))⟩

end

theorem substituted_of_unplaced (hR : Congruent R) {ts us : List Token}
    (h : ts.map Token.unplaced = us.map Token.unplaced) :
    Substituted R ts us := by
  induction ts generalizing us with
  | nil =>
    obtain rfl : us = [] := by simpa using h.symm
    exact .nil
  | cons t ts ih =>
    cases us with
    | nil => simp at h
    | cons u us =>
      rw [List.map_cons, List.map_cons, List.cons_eq_cons] at h
      cases t <;> cases u <;>
        simp only [Token.unplaced, reduceCtorEq, Token.symbol.injEq, Token.operand.injEq, false_and]
        at h
      · obtain ⟨⟨rfl, -⟩, h⟩ := h
        exact .symbol _ _ _ (ih h)
      · exact .operand (.leaf _) (hR.same h.1) (ih h.2)

/-- The tokens of a recast text have groups for the bookmarks that were replaced. -/
theorem Recast.substituted (hR : Congruent R) {P : Text → Expr → Prop}
    (hP : ∀ {name : Text} {e f : Expr} (m : Nat), P name e → R e f → R (.bookmark m name) f)
    {z t t' : Text} {ts ts' : List Token} (h : Recast P z t t' ts ts') : Substituted R ts ts' := by
  induction h with
  | done => exact .nil
  | gap hc h ih => exact ih
  | @kept _ _ _ _ token _ _ _ _ hx h ih =>
    cases token with
    | symbol k n => exact .symbol k n n ih
    | operand e => exact .operand (.leaf e) (hR.same rfl) ih
  | @replaced z inside term t t' w us us' ts ts' e m n k hi hp he htame h hterm ih ihterm =>
    obtain ⟨f, hf, hef⟩ := he.substituted hR ihterm
    have hs := Substituted.operand (Primary.group n k hf) (hP m hp hef) ih
    simpa using hs

end FileTags.Term

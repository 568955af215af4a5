import FileTags.Proofs.Filter.Canonical
import FileTags.Proofs.Filter.Splice
import FileTags.Proofs.Filter.Unfolding
import Mathlib.Logic.Function.Iterate

/-!
# Bookmarks as parentheses

A bookmark has the filter that its term has in parentheses. When the bookmarks of a term give way to
their terms, and those of the terms in turn, a term without bookmarks is left in the end, and it has
the filter of the first one. One round changes neither the filter nor what the text needs to be
spliced again; how often there are bookmarks left is bounded by how deep they nest.
-/

set_option autoImplicit false

namespace FileTags

open Term

/-- The term has no tabs, and every opening brace outside escapes and classes is that of a
bookmark. -/
structure Clean (t : Text) : Prop where
  no_tab : .char '\t' ∉ t
  braces : ∀ e, Expr.ofTerm t = .ok e → bracesAt ((marksOf e.leaves).map Prod.fst) 0 0 t = true

instance (t : Text) : Decidable (Clean t) :=
  match h : Expr.ofTerm t with
  | .ok e =>
    decidable_of_iff (.char '\t' ∉ t ∧
    bracesAt ((marksOf e.leaves).map Prod.fst) 0 0 t = true) <| by
      constructor
      · rintro ⟨ht, hb⟩
        refine ⟨ht, fun f hf => ?_⟩
        obtain rfl := Except.ok.inj (h.symm.trans hf)
        exact hb
      · exact fun hp => ⟨hp.no_tab, hp.braces e h⟩
  | .error x =>
    decidable_of_iff (.char '\t' ∉ t) ⟨fun ht => ⟨ht, fun e he => by simp [h] at he⟩,
    fun hp => hp.no_tab⟩

theorem Clean.tamed {t : Text} {e : Expr} (h : Clean t) (he : Expr.ofTerm t = .ok e) :
    Tamed t e := by
  obtain ⟨behind, ts, hcut, hd, hbare⟩ := cut_of_ofTerm h.no_tab he
  have hplaces : ∀ n ∈ (marksOf e.leaves).map Prod.fst, 0 ≤ n →
      ∃ name, (n, name) ∈ marksOf (leavesOf ts) := by
    intro n hn _
    obtain ⟨⟨n, name⟩, hm, rfl⟩ := List.mem_map.mp hn
    exact ⟨name, hd.leaves ▸ hm⟩
  exact ⟨h.no_tab, he, hd.leaves ▸ (tame_iff hbare).mp (hcut.tame hplaces (h.braces e he))⟩

def Resolver.Nests (lookUp : Resolver) : Nat → Text → Prop
  | 0, t => ∀ name, ¬ Mentions t name
  | depth + 1, t => ∀ name, Mentions t name →
      ∃ term, lookUp name = .ok term ∧ lookUp.Nests depth term

/-- A term whose bookmarks come from the terms of another's nests one level less. -/
theorem Resolver.Nests.of_mentions {lookUp : Resolver} {depth : Nat} {t u : Text}
    (h : lookUp.Nests (depth + 1) t)
    (hm : ∀ name, Mentions u name → ∃ first, Mentions t first ∧ lookUp.RefersTo first name) :
    lookUp.Nests depth u := by
  have hterm : ∀ name, Mentions u name → ∃ term, Mentions term name ∧ lookUp.Nests depth term := by
    intro name hname
    obtain ⟨first, hfirst, term, hl, hmention⟩ := hm name hname
    obtain ⟨term', hl', hnests⟩ := h first hfirst
    obtain rfl := Except.ok.inj (hl.symm.trans hl')
    exact ⟨term, hmention, hnests⟩
  cases depth
  all_goals
    intro name hname
    obtain ⟨term, hmention, hnests⟩ := hterm name hname
    exact hnests name hmention

namespace Filter

variable {lookUp : Resolver} {depth : Nat} {expanding : List Text} {t : Text} {f : Filter}

theorem nests_of_ok (h : ofTermAt (some lookUp) depth expanding t = .ok f) :
    lookUp.Nests depth t := by
  induction depth generalizing expanding t f with
  | zero =>
    intro name hm
    obtain ⟨-, below, _, _, hdepth, -⟩ := bookmark_of_ok h hm
    cases hdepth
  | succ depth ih =>
    intro name hm
    obtain ⟨-, below, term, g, hdepth, hl, hg⟩ := bookmark_of_ok h hm
    obtain rfl := Nat.succ.inj hdepth
    exact ⟨term, hl, ih hg⟩

/-! ## Filters that stay -/

def Refines (bookmark : Tree → Except CompileError Filter) (e e' : Expr) : Prop :=
  ∀ f, joinTree bookmark e.toTree = .ok f → joinTree bookmark e'.toTree = .ok f

theorem refines_operands {bookmark : Tree → Except CompileError Filter} {es es' : List Expr}
    {fs : List Filter} (h : List.Forall₂ (Refines bookmark) es es')
    (hf : List.Forall₂ (fun e f => joinTree bookmark e.toTree = .ok f) es fs) :
    List.Forall₂ (fun e f => joinTree bookmark e.toTree = .ok f) es' fs := by
  induction h generalizing fs with
  | nil => exact hf
  | cons he h ih =>
    cases hf with
    | cons hf hfs => exact .cons (he _ hf) (ih hfs)

theorem congruent_refines (bookmark : Tree → Except CompileError Filter) :
    Congruent (Refines bookmark) where
  same := fun {e e'} h f hf => by rwa [← joinTree_unplaced, ← h, joinTree_unplaced]
  trans := fun h h' f hf => h' f (h f hf)
  not := fun m n h f hf => by
    obtain ⟨g, hg, rfl⟩ := joinTree_not_iff.mp hf
    exact joinTree_not_iff.mpr ⟨g, h g hg, rfl⟩
  and := fun m n h f hf => by
    obtain ⟨hlen, g, gs, hgs, rfl⟩ := joinTree_and_iff.mp hf
    exact joinTree_and_iff.mpr ⟨h.length_eq ▸ hlen, g, gs, refines_operands h hgs, rfl⟩
  or := fun m n h f hf => by
    obtain ⟨hlen, g, gs, hgs, rfl⟩ := joinTree_or_iff.mp hf
    exact joinTree_or_iff.mpr ⟨h.length_eq ▸ hlen, g, gs, refines_operands h hgs, rfl⟩

theorem standsFor_term {name term : Text} {e : Expr} (hl : lookUp name = .ok term)
    (he : Expr.ofTerm term = .ok e) :
    Tamed.StandsFor (Refines (ofBookmark (some lookUp) (nested (some lookUp) depth) []))
      name e := by
  intro m e' hrefines f hf
  rw [joinTree_bookmark, ofBookmark_resolved List.not_mem_nil hl] at hf
  cases depth with
  | zero => cases hf
  | succ below =>
    refine hrefines f ?_
    rw [← ofTermAt_read he]
    exact ofTermAt_mono hf (Nat.le_succ below) (List.nil_subset _)

/-! ## Rounds -/

/-- The term has the filter, and neither it nor the terms that it leads to have any braces in the
way. -/
structure Expandable (lookUp : Resolver) (depth : Nat) (t : Text) (f : Filter) : Prop where
  tamed : ∃ e, Tamed t e
  clean : ∀ name term, lookUp.Reaches t name → lookUp name = .ok term → Clean term
  compiled : ofTermAt (some lookUp) depth [] t = .ok f

namespace Expandable

theorem replaceable (h : Expandable lookUp depth t f) :
    Tamed.Replaceable lookUp (Refines (ofBookmark (some lookUp) (nested (some lookUp) depth) []))
      t := by
  intro name hm
  obtain ⟨-, below, term, g, -, hl, hg⟩ := bookmark_of_ok h.compiled hm
  obtain ⟨e, he, -⟩ := ofTermAt_eq_ok_iff.mp hg
  exact ⟨term, e, hl, (h.clean name term (.direct hm) hl).tamed he, standsFor_term hl he⟩

/-- A round changes nothing but the bookmarks, which are now those of the terms that came in. -/
theorem splice (h : Expandable lookUp depth t f) : Expandable lookUp depth (lookUp.splice t) f ∧
    ∀ name, Mentions (lookUp.splice t) name →
    ∃ first, Mentions t first ∧ lookUp.RefersTo first name := by
  obtain ⟨e, he⟩ := h.tamed
  obtain ⟨e', he', hrefines, hmentions⟩ := he.splice (congruent_refines _) h.replaceable
  refine ⟨⟨⟨e', he'⟩, fun name term hr hl => h.clean name term ?_ hl, ?_⟩, hmentions⟩
  · obtain ⟨second, hm, hr⟩ := hr
    obtain ⟨first, hfirst, href⟩ := hmentions second hm
    exact ⟨first, hfirst, .head href hr⟩
  · have hf := h.compiled
    rw [ofTermAt_read he.read] at hf
    rw [ofTermAt_read he'.read]
    exact hrefines f hf

theorem iterate (h : Expandable lookUp depth t f) (k : Nat) :
    Expandable lookUp depth (lookUp.splice^[k] t) f := by
  induction k with
  | zero => exact h
  | succ k ih =>
    rw [Function.iterate_succ_apply']
    exact ih.splice.1

theorem iterate_nests (h : Expandable lookUp depth t f) {k : Nat} (hn : lookUp.Nests k t) :
    ∀ name, ¬ Mentions (lookUp.splice^[k] t) name := by
  induction k generalizing t with
  | zero => exact hn
  | succ k ih => exact ih h.splice.1 (hn.of_mentions h.splice.2)

theorem ofTerm_none (h : Expandable lookUp depth t f) (hm : ∀ name, ¬ Mentions t name) :
    ofTerm none t = .ok f := by
  obtain ⟨e, he⟩ := h.tamed
  have hf := h.compiled
  rw [ofTermAt_read he.read] at hf
  refine ofTerm_eq_ok_of_joinTree he.read fun bookmark => ?_
  rw [← hf]
  exact joinTree_eq_of_mentions he.read fun name hname => absurd hname (hm name)

end Expandable

theorem expandable_of_ofTermAt (ht : Clean t)
    (hr : ∀ name term, lookUp.Reaches t name → lookUp name = .ok term → Clean term)
    (h : ofTermAt (some lookUp) depth [] t = .ok f) : Expandable lookUp depth t f := by
  obtain ⟨e, he, -⟩ := ofTermAt_eq_ok_iff.mp h
  exact ⟨⟨e, ht.tamed he⟩, hr, h⟩

/-- If a term has a filter, compiled to any depth, and all opening braces in it and in the terms it
leads to are those of bookmarks, its bookmarks give way to terms in parentheses until none is left,
and what is left compiles to the same filter without a resolver. -/
theorem ofTerm_splice (ht : Clean t)
    (hr : ∀ name term, lookUp.Reaches t name → lookUp name = .ok term → Clean term)
    (h : ofTermAt (some lookUp) depth [] t = .ok f) :
    (∃ k, ∀ name, ¬ Mentions (lookUp.splice^[k] t) name) ∧
      ∀ k, (∀ name, ¬ Mentions (lookUp.splice^[k] t) name) →
      ofTerm none (lookUp.splice^[k] t) = .ok f := by
  have he := expandable_of_ofTermAt ht hr h
  exact ⟨⟨depth, he.iterate_nests (nests_of_ok he.compiled)⟩,
    fun k hm => (he.iterate k).ofTerm_none hm⟩

theorem ofTerm_splice_nested :
    let lookUp :=
      Resolver.ofTable [([.char 'o', .char 'u', .char 't'],
        Text.ofString "\x7b in \x7d AND (b|[\x7b)])d"),
        ([.char 'i', .char 'n'], Text.ofString "x OR y==\\\x7b")]
    let t := Text.ofString "NOT\x7bout\x7d||(\x7bin\x7d)"
    let u := Text.ofString "NOT((x OR y==\\\x7b) AND (b|[\x7b)])d)||((x OR y==\\\x7b))"
    Clean t ∧ (∀ name term, lookUp.Reaches t name → lookUp name = .ok term → Clean term) ∧
      lookUp.splice^[2] t = u ∧
      ∃ f, ofTerm (some lookUp) t = .ok f ∧ ofTerm none u = .ok f := by
  intro lookUp t u
  have ht : Clean t := by decide +kernel
  have hfound : ∀ name ∈ [[.char 'o', .char 'u', .char 't'], [.char 'i', .char 'n']], ∃ term,
    lookUp name = .ok term ∧ Clean term ∧
      ∀ other ∈ mentioned term, other ∈ [[.char 'o', .char 'u', .char 't'],
        [.char 'i', .char 'n']] := by
    simp only [List.forall_mem_cons]
    refine ⟨⟨_, rfl, ?_⟩, ⟨_, rfl, ?_⟩, by simp⟩ <;> decide +kernel
  have hterm : ∀ name ∈ [[.char 'o', .char 'u', .char 't'], [.char 'i', .char 'n']], ∀ term,
    lookUp name = .ok term → Clean term ∧
      ∀ other ∈ mentioned term, other ∈ [[.char 'o', .char 'u', .char 't'],
        [.char 'i', .char 'n']] := by
    intro name hname term hl
    obtain ⟨term', hl', h⟩ := hfound name hname
    obtain rfl := Except.ok.inj (hl.symm.trans hl')
    exact h
  have hclean : ∀ name term, lookUp.Reaches t name → lookUp name = .ok term → Clean term :=
    fun name term hr hl =>
    (hterm name (hr.mem (by decide +kernel) fun name hname term hl =>
      (hterm name hname term hl).2) term hl).1
  have hu : lookUp.splice^[2] t = u := by decide +kernel
  have hnone : ∀ name, ¬ Mentions (lookUp.splice^[2] t) name := by
    intro name hm
    have hempty : mentioned u = [] := by decide +kernel
    rw [hu, ← mem_mentioned, hempty] at hm
    cases hm
  have hok : (ofTerm (some lookUp) t).isOk = true := by decide +kernel
  cases h : ofTerm (some lookUp) t with
  | error x => rw [h] at hok; cases hok
  | ok f =>
    exact ⟨ht, hclean, hu, f, rfl,
      hu ▸ (ofTerm_splice ht hclean (ofTerm_iff_ofTermAt.mp h)).2 2 hnone⟩

end Filter

end FileTags

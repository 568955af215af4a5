import FileTags.Proofs.Filter.Reference

/-!
# Terms that unfold

A term unfolds if it compiles but for its bookmarks and these are found, each with a term that
unfolds in turn. A term that has a filter unfolds, and a term that unfolds has a filter when its
bookmarks may nest deeply enough. So it does not matter how bookmarks are looked up as long as each
name leads to a term that unfolds.
-/

set_option autoImplicit false

namespace FileTags

open Relation (TransGen)

namespace Resolver

/-- The term has only bookmarks of some kind in it, which are found, and so have their terms; all of
them compile but for their bookmarks. -/
inductive Unfolds (P : Text → Prop) (lookUp : Resolver) : Text → Prop
  | intro {t : Text} (hc : Compilable t) (found : ∀ name, Mentions t name →
      P name ∧ ∃ term, lookUp name = .ok term)
      (h : ∀ name term, Mentions t name → lookUp name = .ok term →
        Unfolds P lookUp term) : Unfolds P lookUp t

variable {P : Text → Prop} {lookUp lookUp' : Resolver} {t term name other : Text}

theorem Unfolds.found (h : lookUp.Unfolds P t) (hr : lookUp.Reaches t name) :
    ∃ term, lookUp name = .ok term := by
  induction h generalizing name with
  | @intro t hc found h ih =>
    rcases hr.cases with hm | ⟨first, term, hm, hl, hr⟩
    · exact (found name hm).2
    · exact ih first term hm hl hr

theorem Unfolds.acyclic (h : lookUp.Unfolds P t) (hr : lookUp.Reaches t name) :
    ¬ TransGen lookUp.RefersTo name name := by
  induction h generalizing name with
  | @intro t hc found h ih =>
    rcases hr.cases with hm | ⟨first, term, hm, hl, hr⟩
    · intro hcycle
      obtain ⟨term, hl, hr⟩ := refersTo_trans_iff.mp hcycle
      exact ih name term hm hl hr hcycle
    · exact ih first term hm hl hr

/-- The term of a bookmark that unfolds does not lead to the bookmark. -/
theorem Unfolds.not_reaches_self (h : lookUp.Unfolds P term) (hl : lookUp name = .ok term) :
    ¬ lookUp.Reaches term name :=
  fun hr => h.acyclic hr (refersTo_trans_iff.mpr ⟨term, hl, hr⟩)

/-- Names that are found in another way, but have the same terms, unfold in the same way. -/
theorem Unfolds.congr (h : lookUp.Unfolds P t)
    (hsame : ∀ name, lookUp.Reaches t name → P name → lookUp' name = lookUp name) :
    lookUp'.Unfolds P t := by
  induction h with
  | @intro t hc found h ih =>
    have heq : ∀ name, Mentions t name → lookUp' name = lookUp name :=
      fun name hm => hsame name (.direct hm) (found name hm).1
    refine .intro hc (fun name hm => heq name hm ▸ found name hm) fun name term hm hl => ?_
    rw [heq name hm] at hl
    exact ih name term hm hl fun other hr => hsame other (.through hm hl hr)

theorem Unfolds.change (h : lookUp.Unfolds P t)
    (hchange : ∀ name, P name → lookUp' name = lookUp name ∨
      ∃ term, lookUp' name = .ok term ∧ lookUp'.Unfolds P term) :
    lookUp'.Unfolds P t := by
  induction h with
  | @intro t hc found h ih =>
    have hfound : ∀ name, Mentions t name → ∃ term, lookUp' name = .ok term ∧
        lookUp'.Unfolds P term := by
      intro name hm
      obtain ⟨hname, term, hl⟩ := found name hm
      rcases hchange name hname with heq | hnew
      · exact ⟨term, heq.trans hl, ih name term hm hl⟩
      · exact hnew
    refine .intro hc (fun name hm => ⟨(found name hm).1, ?_⟩) fun name term hm hl => ?_
    · obtain ⟨term, hl, -⟩ := hfound name hm
      exact ⟨term, hl⟩
    · obtain ⟨term', hl', hterm⟩ := hfound name hm
      obtain rfl := Except.ok.inj (hl'.symm.trans hl)
      exact hterm

end Resolver

namespace Filter

open Resolver

variable {P : Text → Prop} {lookUp : Resolver} {depth : Nat} {expanding : List Text} {t : Text}
  {f : Filter}

theorem compilable_of_ok (h : ofTermAt (some lookUp) depth expanding t = .ok f) : Compilable t := by
  obtain ⟨e, he, hf⟩ := ofTermAt_eq_ok_iff.mp h
  refine ⟨e, he, fun leaf hleaf => ?_⟩
  by_cases hb : ∃ n name, leaf = .bookmark n name
  · exact .inl hb
  · obtain ⟨g, hg⟩ := joinTree_ok_leaf e hf leaf hleaf
    rw [joinTree_leaf (Expr.isLeaf_of_mem_leaves e hleaf) hb] at hg
    exact .inr ⟨g, hg⟩

/-- A term with a filter unfolds. By induction on the depth of its bookmarks. -/
theorem unfolds_of_ok (h : ofTermAt (some lookUp) depth expanding t = .ok f)
    (hP : ∀ name, lookUp.Reaches t name → P name) :
    lookUp.Unfolds P t := by
  induction depth generalizing expanding t f with
  | zero =>
    have hnone : ∀ name, ¬ Mentions t name := fun name hm => by
      obtain ⟨-, below, _, _, hdepth, -⟩ := bookmark_of_ok h hm
      cases hdepth
    exact .intro (compilable_of_ok h) (fun name hm => absurd hm (hnone name)) fun name _ hm =>
      absurd hm (hnone name)
  | succ depth ih =>
    refine .intro (compilable_of_ok h) (fun name hm =>
      ⟨hP name (.direct hm), ?_⟩) fun name term hm hl => ?_
    · obtain ⟨-, _, term, _, -, hl, -⟩ := bookmark_of_ok h hm
      exact ⟨term, hl⟩
    · obtain ⟨-, _, term', g, ⟨⟩, hl', hg⟩ := bookmark_of_ok h hm
      obtain rfl := Except.ok.inj (hl'.symm.trans hl)
      exact ih hg fun other hr => hP other (.through hm hl hr)

/-- A filter that a term has at some depth while some bookmarks are expanded, it has at any greater
depth and with fewer of them expanded. -/
theorem ofTermAt_mono {depth' : Nat} {expanding' : List Text}
    (h : ofTermAt (some lookUp) depth expanding t = .ok f)
    (hd : depth ≤ depth') (hsub : expanding' ⊆ expanding) :
    ofTermAt (some lookUp) depth' expanding' t = .ok f := by
  induction depth using Nat.strongRecOn generalizing depth' expanding expanding' t f with
  | ind depth ih =>
  obtain ⟨e, he, hf⟩ := ofTermAt_eq_ok_iff.mp h
  rw [ofTermAt_read he, ← hf]
  refine joinTree_eq_of_mentions he fun name hm => ?_
  obtain ⟨hn, below, term, g, rfl, hl, hg⟩ := bookmark_of_ok h hm
  obtain ⟨below', rfl⟩ := Nat.exists_eq_add_of_le' (Nat.le_of_add_left_le hd)
  rw [ofBookmark_resolved hn hl, ofBookmark_resolved (fun hm => hn (hsub hm)) hl]
  exact (ih below (Nat.lt_succ_self _) hg (Nat.le_of_succ_le_succ hd)
    (List.cons_subset_cons _ hsub)).trans hg.symm

theorem ok_of_mentions (hc : Compilable t)
    (h : ∀ name, Mentions t name →
    ∃ f, ofBookmark (some lookUp) (nested (some lookUp) depth) expanding
    (.text name) = .ok f) : ∃ f, ofTermAt (some lookUp) depth expanding t = .ok f := by
  obtain ⟨e, he, hleaves⟩ := hc
  rw [ofTermAt_read he]
  cases hf : joinTree (ofBookmark (some lookUp) (nested (some lookUp) depth) expanding) e.toTree
    with
  | ok f => exact ⟨f, rfl⟩
  | error x =>
    obtain ⟨leaf, hleaf, hx⟩ := joinTree_error_leaf e (Expr.shaped_of_ofTerm he) hf
    by_cases hb : ∃ n name, leaf = .bookmark n name
    · obtain ⟨n, name, rfl⟩ := hb
      obtain ⟨g, hg⟩ := h name ⟨e, n, he, hleaf⟩
      rw [joinTree_bookmark, hg] at hx
      cases hx
    · obtain ⟨g, hg⟩ := (hleaves leaf hleaf).resolve_left hb
      rw [joinTree_leaf (Expr.isLeaf_of_mem_leaves e hleaf) hb, hg] at hx
      cases hx

/-- A depth for each of some names is found with a depth for all of them. -/
theorem exists_depth {Q : Text → Nat → Prop}
    (hmono : ∀ name depth depth', depth ≤ depth' → Q name depth → Q name depth') (names : List Text)
    (h : ∀ name ∈ names, ∃ depth, Q name depth) : ∃ depth, ∀ name ∈ names, Q name depth := by
  induction names with
  | nil => exact ⟨0, nofun⟩
  | cons name names ih =>
    obtain ⟨d, hd⟩ := h name List.mem_cons_self
    obtain ⟨d', hd'⟩ := ih fun other hm => h other (List.mem_cons_of_mem name hm)
    refine ⟨max d d', fun other hm => ?_⟩
    rcases List.mem_cons.mp hm with rfl | hm
    · exact hmono _ _ _ (Nat.le_max_left d d') hd
    · exact hmono _ _ _ (Nat.le_max_right d d') (hd' other hm)

/-- A term that unfolds has a filter at some depth, while bookmarks that it does not lead to are
expanded. -/
theorem ok_of_unfolds (h : lookUp.Unfolds P t)
    (hexpanding : ∀ name ∈ expanding, ¬ lookUp.Reaches t name) :
    ∃ depth f, ofTermAt (some lookUp) depth expanding t = .ok f := by
  induction h generalizing expanding with
  | @intro t hc found h ih =>
    have heach : ∀ name ∈ mentioned t, ∃ depth, ∃ term g, lookUp name = .ok term ∧
        ofTermAt (some lookUp) depth (name :: expanding) term = .ok g := by
      intro name hname
      have hm := mem_mentioned.mp hname
      obtain ⟨-, term, hl⟩ := found name hm
      have hnew : ∀ other ∈ name :: expanding, ¬ lookUp.Reaches term other := by
        intro other hother
        rcases List.mem_cons.mp hother with rfl | hother
        · exact (h other term hm hl).not_reaches_self hl
        · exact fun hr => hexpanding other hother (.through hm hl hr)
      obtain ⟨depth, g, hg⟩ := ih name term hm hl hnew
      exact ⟨depth, term, g, hl, hg⟩
    obtain ⟨depth, hall⟩ := exists_depth
      (fun name d d' hd ⟨term, g, hl, hg⟩ =>
        ⟨term, g, hl, ofTermAt_mono hg hd (List.Subset.refl _)⟩) (mentioned t) heach
    refine ⟨depth + 1, ok_of_mentions hc fun name hm => ?_⟩
    obtain ⟨term, g, hl, hg⟩ := hall name (mem_mentioned.mpr hm)
    have hname : name ∉ expanding := fun hin => hexpanding name hin (.direct hm)
    exact ⟨g, by rw [ofBookmark_resolved hname hl]; exact hg⟩

end Filter

end FileTags

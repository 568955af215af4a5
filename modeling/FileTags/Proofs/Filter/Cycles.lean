import FileTags.Proofs.Filter.Reference

/-!
# One bookmark more that is being expanded

A name more among those that are being expanded makes no difference to a term, or a cycle is told
of. If the name is that of the term itself, then a cycle is told of without it, too: the term comes
up inside itself, and there its name is being expanded. Bookmarks may nest deeply enough if they may
nest as deeply as there are names in all the terms.
-/

set_option autoImplicit false

namespace FileTags.Filter

open Resolver

variable {lookUp : Resolver} {depth depth' : Nat} {expanding expanding' names : List Text}
  {t name term : Text} {P : CompileError → Prop}

def bookmarkAt (lookUp : Resolver) (depth : Nat) (expanding : List Text) (name : Text) :
    Except CompileError Filter :=
  ofBookmark (some lookUp) (nested (some lookUp) depth) expanding (.text name)

/-- An error of some kind, or no difference: if this holds of the bookmarks of a term, then it holds
of the term. -/
theorem ofTermAt_eq_unless
    (h : ∀ name, Mentions t name → (∃ x, P x ∧ bookmarkAt lookUp depth expanding name = .error x) ∨
      bookmarkAt lookUp depth expanding name = bookmarkAt lookUp depth' expanding' name) :
    (∃ x, P x ∧ ofTermAt (some lookUp) depth expanding t = .error x) ∨
      ofTermAt (some lookUp) depth expanding t = ofTermAt (some lookUp) depth' expanding' t := by
  cases he : Expr.ofTerm t with
  | error x =>
    rw [ofTermAt_unread he, ofTermAt_unread he]
    exact .inr rfl
  | ok e =>
    rw [ofTermAt_read he, ofTermAt_read he]
    refine joinTree_eq_unless e fun leaf hleaf => ?_
    by_cases hb : ∃ n name, leaf = .bookmark n name
    · obtain ⟨n, name, rfl⟩ := hb
      rw [joinTree_bookmark, joinTree_bookmark]
      exact h name ⟨e, n, he, hleaf⟩
    · have hkind := Expr.isLeaf_of_mem_leaves e hleaf
      rw [joinTree_leaf hkind hb, joinTree_leaf hkind hb]
      exact .inr rfl

/-- A bookmark that is not being expanded comes to what its term comes to. -/
theorem bookmarkAt_eq_unless (hn : name ∉ expanding) (hn' : name ∉ expanding')
    (h : ∀ term, lookUp name = .ok term →
      (∃ x, P x ∧ nested (some lookUp) depth (name :: expanding) term = .error x) ∨
      nested (some lookUp) depth (name :: expanding) term =
        nested (some lookUp) depth (name :: expanding') term) :
    (∃ x, P x ∧ bookmarkAt lookUp depth expanding name = .error x) ∨
      bookmarkAt lookUp depth expanding name = bookmarkAt lookUp depth expanding' name := by
  rw [bookmarkAt, bookmarkAt]
  cases hl : lookUp name with
  | error x =>
    rw [ofBookmark_unresolved hn hl, ofBookmark_unresolved hn' hl]
    exact .inr rfl
  | ok term =>
    rw [ofBookmark_resolved hn hl, ofBookmark_resolved hn' hl]
    exact h term hl

/-! ## Names that are being expanded -/

def IsCyclic (x : CompileError) : Prop := ∃ name, x = .bookmark (.cyclic name)

/-- More names that are being expanded make no difference, unless a cycle is told of. -/
theorem nested_cyclic_or_eq (hsub : expanding ⊆ expanding') :
    (∃ x, IsCyclic x ∧ nested (some lookUp) depth expanding' t = .error x) ∨
      nested (some lookUp) depth expanding' t = nested (some lookUp) depth expanding t := by
  induction depth generalizing expanding expanding' t with
  | zero => exact .inr rfl
  | succ depth ih =>
    refine ofTermAt_eq_unless fun name _ => ?_
    by_cases hn : name ∈ expanding'
    · exact .inl ⟨_, ⟨name, rfl⟩, ofBookmark_expanding hn _⟩
    · exact bookmarkAt_eq_unless hn (fun h => hn (hsub h)) fun term _ =>
        ih (List.cons_subset_cons _ hsub)

/-- If the term of a bookmark leads to a cycle while the bookmark is being expanded, every term
leads to one while the bookmark is not being expanded, unless it makes no difference whether it
is. -/
theorem nested_cyclic_or_eq_self (hl : lookUp name = .ok term) {x : CompileError} (hx : IsCyclic x)
    (hterm : nested (some lookUp) depth' [name] term = .error x) (hd : depth ≤ depth')
    (hmem : ∀ other, other ∈ expanding' ↔ other = name ∨ other ∈ expanding) :
    (∃ y, (y = .tooDeep ∨ IsCyclic y) ∧ nested (some lookUp) depth expanding t = .error y) ∨
      nested (some lookUp) depth expanding t = nested (some lookUp) depth expanding' t := by
  induction depth generalizing expanding expanding' t with
  | zero => exact .inr rfl
  | succ depth ih =>
    have hd := Nat.le_of_succ_le hd
    refine ofTermAt_eq_unless fun other _ => ?_
    by_cases hn : other ∈ expanding
    · exact .inl ⟨_, .inr ⟨other, rfl⟩, ofBookmark_expanding hn _⟩
    by_cases hother : other = name
    · -- Here the term comes up inside itself.
      subst hother
      have hbelow : bookmarkAt lookUp depth expanding other =
          nested (some lookUp) depth (other :: expanding) term :=
        ofBookmark_resolved hn hl _
      rw [hbelow]
      rcases @nested_cyclic_or_eq lookUp depth [other] _ term
        (List.cons_subset_cons other (List.nil_subset expanding)) with
        ⟨y, hy, hinside⟩ | hsame
      · exact .inl ⟨y, .inr hy, hinside⟩
      · rw [hsame]
        rcases nested_deeper hd [other] term with hdeep | hdeep
        · exact .inl ⟨_, .inl rfl, hdeep⟩
        · exact .inl ⟨x, .inr hx, hdeep.trans hterm⟩
    · have hn' : other ∉ expanding' := by
        rw [hmem]
        exact not_or.mpr ⟨hother, hn⟩
      refine bookmarkAt_eq_unless hn hn' fun _ _ => ih hd fun next => ?_
      rw [List.mem_cons, List.mem_cons, hmem]
      exact or_left_comm

/-- The term of a bookmark comes to the same inside the bookmark as by itself, or to a cycle both
times. -/
theorem ofTermAt_agrees (hl : lookUp name = .ok term)
    (hinside : nested (some lookUp) depth [name] term ≠ .error .tooDeep)
    (halone : ofTermAt (some lookUp) depth [] term ≠ .error .tooDeep) :
    ofTermAt (some lookUp) depth [] term = nested (some lookUp) depth [name] term ∨
      ∃ x y, IsCyclic x ∧ IsCyclic y ∧ ofTermAt (some lookUp) depth [] term = .error x ∧
      nested (some lookUp) depth [name] term = .error y := by
  have hdeeper := (nested_deeper (Nat.le_succ depth) [name] term).resolve_left hinside
  rw [hdeeper]
  rcases @nested_cyclic_or_eq lookUp (depth + 1) [] _ term (List.nil_subset [name])
    with ⟨y, hy, hcyclic⟩ | hsame
  · have hmem : ∀ other, other ∈ [name] ↔ other = name ∨ other ∈ ([] : List Text) := by simp
    rcases nested_cyclic_or_eq_self (t := term) hl hy hcyclic (Nat.le_refl _) hmem
      with ⟨x, rfl | hx, herror⟩ | hsame
    · exact absurd herror halone
    · exact .inr ⟨x, y, hx, hy, herror, hcyclic⟩
    · exact .inl hsame
  · exact .inl hsame.symm

/-! ## Depths that suffice -/

/-- As many levels as there are names are enough, of which each is expanded once. -/
theorem nested_ne_tooDeep
    (hterms : ∀ name term, lookUp name = .ok term → ∀ other, Mentions term other → other ∈ names)
    (hfound : ∀ name, lookUp name ≠ .error .tooDeep) (ht : ∀ name, Mentions t name → name ∈ names)
    (hd : (names.filter fun name => name ∉ expanding).length < depth) :
    nested (some lookUp) depth expanding t ≠ .error .tooDeep := by
  induction depth generalizing expanding t with
  | zero => exact absurd hd (Nat.not_lt_zero _)
  | succ depth ih =>
    intro h
    cases he : Expr.ofTerm t with
    | error x =>
      have hunread := (@ofTermAt_unread (some lookUp) t x he depth expanding).symm.trans h
      cases hunread
    | ok e =>
      have hread := (@ofTermAt_read (some lookUp) t e he depth expanding).symm.trans h
      obtain ⟨leaf, hleaf, hx⟩ := joinTree_error_leaf e (Expr.shaped_of_ofTerm he) hread
      by_cases hb : ∃ n name, leaf = .bookmark n name
      · obtain ⟨n, name, rfl⟩ := hb
        rw [joinTree_bookmark] at hx
        have hname : name ∈ names := ht name ⟨e, n, he, hleaf⟩
        by_cases hn : name ∈ expanding
        · rw [ofBookmark_expanding hn] at hx
          cases hx
        · cases hl : lookUp name with
          | error y =>
            rw [ofBookmark_unresolved hn hl] at hx
            exact hfound name (hl.trans (congrArg _ (Except.error.inj hx)))
          | ok term =>
            rw [ofBookmark_resolved hn hl] at hx
            refine ih (hterms name term hl) (Nat.lt_of_lt_of_le ?_ (Nat.le_of_lt_succ hd)) hx
            have hfilter : (names.filter fun other => other ∉ name :: expanding) =
                (names.filter fun other => other ∉ expanding).filter fun other => other ≠ name := by
              rw [List.filter_filter]
              simp [not_or]
            rw [hfilter, List.length_filter_lt_length_iff_exists]
            exact ⟨name, List.mem_filter.mpr ⟨hname, by simpa using hn⟩, by simp⟩
      · rw [joinTree_leaf (Expr.isLeaf_of_mem_leaves e hleaf) hb] at hx
        exact ofLeaf_of_error (Expr.isLeaf_of_mem_leaves e hleaf) hb hx

end FileTags.Filter

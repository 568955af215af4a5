import FileTags.Proofs.Filter.Fold
import FileTags.Proofs.Term.Leaf

/-!
# Filters from leaves

The filter of an expression comes from the filters of its leaves. Bookmarks that are looked up
differently make no difference to an expression whose leaves agree, an expression has a filter only
if all its leaves have one, and if it has none one of its leaves has the same error.
-/

set_option autoImplicit false

namespace FileTags

def CompileError.OfLeaf : CompileError → Prop
  | .badPattern _ _ | .badInteger _ _ _ | .tooManyDigits _ => True
  | _ => False

namespace Filter

variable {bookmark bookmark' : Tree → Except CompileError Filter}

theorem combine_ok {c : Connective} {fs : List Filter} (h : fs ≠ []) :
    ∃ f, c.combine fs = .ok f := by
  cases fs with
  | nil => exact absurd rfl h
  | cons f fs => cases c <;> exact ⟨_, rfl⟩

/-- Operands that are there can be joined, so an error is one of theirs. -/
theorem error_of_combine {c : Connective} {es : List Expr} {x : CompileError} (hl : 2 ≤ es.length)
    (h : (joinTrees bookmark (Expr.toTrees es)).bind c.combine = .error x) :
    joinTrees bookmark (Expr.toTrees es) = .error x := by
  cases hfs : joinTrees bookmark (Expr.toTrees es) with
  | error y => simpa [hfs, Except.bind] using h
  | ok fs =>
    have hne : fs ≠ [] := by
      rintro rfl
      have := length_joinTrees hfs
      simp [length_toTrees] at this
      omega
    obtain ⟨f, hf⟩ := combine_ok (c := c) hne
    simp [hfs, Except.bind, hf] at h

theorem joinTree_not (n : Nat) (e : Expr) :
    joinTree bookmark (Expr.not n e).toTree = (joinTree bookmark e.toTree).bind fun f =>
      .ok (.not f) := by
  change ((joinTree bookmark e.toTree).bind fun f => .ok [f]).bind (Connective.combine .not) = _
  cases joinTree bookmark e.toTree <;> rfl

theorem joinTree_join {rule : Rule} {c : Connective} {n : Nat} {es : List Expr}
    (hrule : Connective.ofRule? rule = some c) (hc : c ≠ .not) (hl : 2 ≤ es.length) :
    joinTree bookmark (.node rule (Expr.toTrees es) n) =
      (joinTrees bookmark (Expr.toTrees es)).bind c.combine := by
  simp only [joinTree, hrule, length_toTrees, (check_eq_ok_iff hc es.length).mpr hl]

/-! ## Agreement -/

section agreement

variable {P : CompileError → Prop}

mutual

theorem joinTree_eq_unless : (e : Expr) →
    (∀ leaf ∈ e.leaves, (∃ x, P x ∧ joinTree bookmark leaf.toTree = .error x) ∨
      joinTree bookmark leaf.toTree = joinTree bookmark' leaf.toTree) →
    (∃ x, P x ∧ joinTree bookmark e.toTree = .error x) ∨
    joinTree bookmark e.toTree = joinTree bookmark' e.toTree
  | .tag n p, h => h (.tag n p) (List.mem_singleton_self _)
  | .comparison n t op v, h => h (.comparison n t op v) (List.mem_singleton_self _)
  | .bookmark n name, h => h (.bookmark n name) (List.mem_singleton_self _)
  | .not n e, h => by
    rw [joinTree_not, joinTree_not]
    rcases joinTree_eq_unless e h with ⟨x, hx, he⟩ | he
    · exact .inl ⟨x, hx, by rw [he]; rfl⟩
    · exact .inr (by rw [he])
  | .and n es, h => by
    simp only [Expr.toTree, joinTree, Connective.ofRule?]
    cases Connective.check .and (Expr.toTrees es).length with
    | error y => exact .inr rfl
    | ok u =>
      exact (joinTrees_eq_unless es h).imp (fun ⟨x, hx, he⟩ =>
      ⟨x, hx, by simp only [he]; rfl⟩) fun he => by rw [he]
  | .or n es, h => by
    simp only [Expr.toTree, joinTree, Connective.ofRule?]
    cases Connective.check .or (Expr.toTrees es).length with
    | error y => exact .inr rfl
    | ok u =>
      exact (joinTrees_eq_unless es h).imp (fun ⟨x, hx, he⟩ =>
      ⟨x, hx, by simp only [he]; rfl⟩) fun he => by rw [he]

theorem joinTrees_eq_unless : (es : List Expr) →
    (∀ leaf ∈ Expr.leavesAll es, (∃ x, P x ∧ joinTree bookmark leaf.toTree = .error x) ∨
      joinTree bookmark leaf.toTree = joinTree bookmark' leaf.toTree) →
    (∃ x, P x ∧ joinTrees bookmark (Expr.toTrees es) = .error x) ∨
      joinTrees bookmark (Expr.toTrees es) = joinTrees bookmark' (Expr.toTrees es)
  | [], _ => .inr rfl
  | e :: es, h => by
    rw [Expr.toTrees, joinTrees, joinTrees]
    rcases joinTree_eq_unless e fun leaf hl =>
      h leaf (List.mem_append_left _ hl) with ⟨x, hx, he⟩ | he
    · exact .inl ⟨x, hx, by rw [he]; rfl⟩
    · rw [← he]
      cases joinTree bookmark e.toTree with
      | error y => exact .inr rfl
      | ok f =>
        rcases joinTrees_eq_unless es fun leaf hl =>
          h leaf (List.mem_append_right _ hl) with ⟨x, hx, hes⟩ | hes
        · exact .inl ⟨x, hx, by rw [hes]; rfl⟩
        · exact .inr (by rw [hes])

end

theorem joinTree_eq_of_leaves (e : Expr)
    (h : ∀ leaf ∈ e.leaves, joinTree bookmark leaf.toTree = joinTree bookmark' leaf.toTree) :
    joinTree bookmark e.toTree = joinTree bookmark' e.toTree := by
  rcases joinTree_eq_unless (P := fun _ => False) e fun leaf hl =>
    .inr (h leaf hl) with ⟨x, hx, -⟩ | he
  · exact hx.elim
  · exact he

end agreement

/-! ## From the whole to its leaves -/

mutual

theorem joinTree_ok_leaf {f : Filter} : (e : Expr) → joinTree bookmark e.toTree = .ok f →
    ∀ leaf ∈ e.leaves, ∃ g, joinTree bookmark leaf.toTree = .ok g
  | .tag n p, h => fun leaf hl => ⟨f, by rwa [List.mem_singleton.mp hl]⟩
  | .comparison n t op v, h => fun leaf hl => ⟨f, by rwa [List.mem_singleton.mp hl]⟩
  | .bookmark n name, h => fun leaf hl => ⟨f, by rwa [List.mem_singleton.mp hl]⟩
  | .not n e, h => by
    obtain ⟨g, hg, -⟩ := joinTree_not_iff.mp h
    exact joinTree_ok_leaf e hg
  | .and n es, h => by
    obtain ⟨-, g, gs, hgs, -⟩ := joinTree_and_iff.mp h
    exact joinTrees_ok_leaf es (joinTrees_iff.mpr hgs)
  | .or n es, h => by
    obtain ⟨-, g, gs, hgs, -⟩ := joinTree_or_iff.mp h
    exact joinTrees_ok_leaf es (joinTrees_iff.mpr hgs)

theorem joinTrees_ok_leaf {fs : List Filter} :
    (es : List Expr) → joinTrees bookmark (Expr.toTrees es) = .ok fs →
      ∀ leaf ∈ Expr.leavesAll es, ∃ g, joinTree bookmark leaf.toTree = .ok g
  | [], _ => fun _ hl => nomatch hl
  | e :: es, h => by
    obtain ⟨f, gs, hf, hgs, -⟩ := List.forall₂_cons_left_iff.mp (joinTrees_iff.mp h)
    intro leaf hl
    rcases List.mem_append.mp hl with hl | hl
    · exact joinTree_ok_leaf e hf leaf hl
    · exact joinTrees_ok_leaf es (joinTrees_iff.mpr hgs) leaf hl

end

mutual

/-- An expression of proper shape without a filter has the error of one of its leaves. -/
theorem joinTree_error_leaf {x : CompileError} :
    (e : Expr) → e.Shaped → joinTree bookmark e.toTree = .error x →
      ∃ leaf ∈ e.leaves, joinTree bookmark leaf.toTree = .error x
  | .tag n p, _, h => ⟨_, List.mem_singleton_self _, h⟩
  | .comparison n t op v, _, h => ⟨_, List.mem_singleton_self _, h⟩
  | .bookmark n name, _, h => ⟨_, List.mem_singleton_self _, h⟩
  | .not n e, hs, h => by
    rw [joinTree_not] at h
    cases he : joinTree bookmark e.toTree with
    | error y =>
      obtain rfl : y = x := by simpa [he, Except.bind] using h
      exact joinTree_error_leaf e hs he
    | ok f => simp [he, Except.bind] at h
  | .and n es, hs, h => joinTrees_error_leaf es hs.2 <| by
    rw [Expr.toTree, joinTree_join rfl (by decide) hs.1] at h
    exact error_of_combine hs.1 h
  | .or n es, hs, h => joinTrees_error_leaf es hs.2 <| by
    rw [Expr.toTree, joinTree_join rfl (by decide) hs.1] at h
    exact error_of_combine hs.1 h

theorem joinTrees_error_leaf {x : CompileError} : (es : List Expr) → Expr.ShapedAll es →
    joinTrees bookmark (Expr.toTrees es) = .error x →
    ∃ leaf ∈ Expr.leavesAll es, joinTree bookmark leaf.toTree = .error x
  | [], _, h => nomatch h
  | e :: es, hs, h => by
    rw [Expr.toTrees, joinTrees] at h
    cases he : joinTree bookmark e.toTree with
    | error y =>
      obtain rfl : y = x := by simpa [he, Except.bind] using h
      obtain ⟨leaf, hl, hx⟩ := joinTree_error_leaf e hs.1 he
      exact ⟨leaf, List.mem_append_left _ hl, hx⟩
    | ok f =>
      cases hes : joinTrees bookmark (Expr.toTrees es) with
      | error y =>
        obtain rfl : y = x := by simpa [he, hes, Except.bind, Except.map] using h
        obtain ⟨leaf, hl, hx⟩ := joinTrees_error_leaf es hs.2 hes
        exact ⟨leaf, List.mem_append_right _ hl, hx⟩
      | ok fs => simp [he, hes, Except.bind, Except.map] at h

end

/-! ## Leaves and bookmarks -/

theorem joinTree_bookmark (bookmark : Tree → Except CompileError Filter) (n : Nat) (name : Text) :
    joinTree bookmark (Expr.bookmark n name).toTree = bookmark (.text name) := by
  rw [Expr.toTree, joinTree]
  rfl

theorem joinTree_leaf {leaf : Expr} (h : leaf.IsLeaf) (hn : ¬ ∃ n name, leaf = .bookmark n name)
    (bookmark : Tree → Except CompileError Filter) :
    joinTree bookmark leaf.toTree = ofTree none leaf.toTree := by
  rw [ofTree, fold_tree]
  cases leaf with
  | tag | comparison => rfl
  | bookmark n name => exact absurd ⟨n, name, rfl⟩ hn
  | not | and | or => exact h.elim

theorem bind_eq_error {ε α β : Type} {a : Except ε α} {f : α → Except ε β} {x : ε}
    (h : a.bind f = .error x) :
    a = .error x ∨ ∃ y, a = .ok y ∧ f y = .error x := by
  cases a with
  | error e => exact .inl (by simpa [Except.bind] using h)
  | ok y => exact .inr ⟨y, rfl, h⟩

theorem ofLeaf_patternOf {p : Text} {x : CompileError} (h : patternOf p = .error x) : x.OfLeaf := by
  rw [patternOf] at h
  cases hs : Pattern.ofSource p <;> simp only [hs, Except.error.injEq, reduceCtorEq] at h
  subst h
  trivial

theorem ofLeaf_ofBound {t op v : Text} {x : CompileError} (h : ofBound t op (.text v) = .error x) :
    x.OfLeaf := by
  rw [ofBound] at h
  rcases hr : Text.readInteger v with k | _ | k <;>
    simp only [hr, Except.error.injEq, reduceCtorEq] at h
  all_goals
    subst h
    trivial

theorem ofLeaf_of_error {leaf : Expr} {x : CompileError} (h : leaf.IsLeaf)
    (hn : ¬ ∃ n name, leaf = .bookmark n name)
    (hx : ofTree none leaf.toTree = .error x) : x.OfLeaf := by
  rw [ofTree, fold_tree] at hx
  cases leaf with
  | bookmark n name => exact absurd ⟨n, name, rfl⟩ hn
  | not | and | or => exact h.elim
  | tag n p =>
    obtain hp | ⟨_, -, hp⟩ := bind_eq_error (a := patternOf p) hx
    · exact ofLeaf_patternOf hp
    · cases hp
  | comparison n t op v =>
    cases op with
    | equal | notEqual =>
      obtain ht | ⟨tag, -, hx⟩ := bind_eq_error (a := patternOf t) hx
      · exact ofLeaf_patternOf ht
      · obtain hv | ⟨value, -, hx⟩ := bind_eq_error (a := patternOf v) hx
        · exact ofLeaf_patternOf hv
        · cases hx
    | less | lessEqual | greater | greaterEqual =>
      obtain ht | ⟨tag, -, hx⟩ := bind_eq_error (a := patternOf t) hx
      · exact ofLeaf_patternOf ht
      · obtain hv | ⟨bound, -, hx⟩ := bind_eq_error (a := ofBound t _ (.text v)) hx
        · exact ofLeaf_ofBound hv
        · cases hx

end Filter

end FileTags

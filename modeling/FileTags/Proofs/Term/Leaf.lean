import FileTags.Proofs.Term.Rendering

/-!
# The leaves of expressions

Tags, comparisons and bookmarks are the leaves of an expression. From left to right they are the
operands among its tokens. A term is read as an expression of proper shape: its connectives have two
operands at least.
-/

set_option autoImplicit false

namespace FileTags

namespace Expr

mutual

def leaves : Expr → List Expr
  | .tag n p => [.tag n p]
  | .comparison n t op v => [.comparison n t op v]
  | .bookmark n name => [.bookmark n name]
  | .not _ e => leaves e
  | .and _ es => leavesAll es
  | .or _ es => leavesAll es

def leavesAll : List Expr → List Expr
  | [] => []
  | e :: es => leaves e ++ leavesAll es

end

mutual

def Shaped : Expr → Prop
  | .tag _ _ | .comparison _ _ _ _ | .bookmark _ _ => True
  | .not _ e => Shaped e
  | .and _ es | .or _ es => 2 ≤ es.length ∧ ShapedAll es

def ShapedAll : List Expr → Prop
  | [] => True
  | e :: es => Shaped e ∧ ShapedAll es

end

def IsLeaf : Expr → Prop
  | .tag _ _ | .comparison _ _ _ _ | .bookmark _ _ => True
  | .not _ _ | .and _ _ | .or _ _ => False

theorem IsLeaf.leaves {e : Expr} (h : e.IsLeaf) : e.leaves = [e] := by
  cases e with
  | tag | comparison | bookmark => rfl
  | not | and | or => exact h.elim

theorem IsLeaf.shaped {e : Expr} (h : e.IsLeaf) : e.Shaped := by
  cases e with
  | tag | comparison | bookmark => trivial
  | not | and | or => exact h.elim

mutual

theorem isLeaf_of_mem_leaves {leaf : Expr} : (e : Expr) → leaf ∈ e.leaves → leaf.IsLeaf
  | .tag n p, h => by rw [List.mem_singleton.mp h]; trivial
  | .comparison n t op v, h => by rw [List.mem_singleton.mp h]; trivial
  | .bookmark n name, h => by rw [List.mem_singleton.mp h]; trivial
  | .not _ e, h => isLeaf_of_mem_leaves e h
  | .and _ es, h => isLeaf_of_mem_leavesAll es h
  | .or _ es, h => isLeaf_of_mem_leavesAll es h

theorem isLeaf_of_mem_leavesAll {leaf : Expr} : (es : List Expr) → leaf ∈ leavesAll es → leaf.IsLeaf
  | [], h => nomatch h
  | e :: es, h => (List.mem_append.mp h).elim (isLeaf_of_mem_leaves e) (isLeaf_of_mem_leavesAll es)

end

mutual

theorem leaves_unplaced : (e : Expr) → e.unplaced.leaves = e.leaves.map unplaced
  | .tag _ _ | .comparison _ _ _ _ | .bookmark _ _ => rfl
  | .not _ e => leaves_unplaced e
  | .and _ es => leavesAll_unplaced es
  | .or _ es => leavesAll_unplaced es

theorem leavesAll_unplaced : (es : List Expr) →
    leavesAll (unplacedAll es) = (leavesAll es).map unplaced
  | [] => rfl
  | e :: es => by
      rw [unplacedAll, leavesAll, leavesAll, List.map_append, leaves_unplaced e,
        leavesAll_unplaced es]

end

theorem leavesAll_append (es fs : List Expr) :
    leavesAll (es ++ fs) = leavesAll es ++ leavesAll fs := by
  induction es with
  | nil => rfl
  | cons e es ih => simp [leavesAll, ih]

theorem shapedAll_append {es fs : List Expr} :
    ShapedAll (es ++ fs) ↔ ShapedAll es ∧ ShapedAll fs := by
  induction es with
  | nil => simp [ShapedAll]
  | cons e es ih => simp [ShapedAll, ih, and_assoc]

end Expr

namespace Term

open FileTags.Expr

def Token.leaves : Token → List Expr
  | .symbol _ _ => []
  | .operand e => Expr.leaves e

def leavesOf (ts : List Token) : List Expr := ts.flatMap Token.leaves

@[simp] theorem leavesOf_append (ts us : List Token) :
    leavesOf (ts ++ us) = leavesOf ts ++ leavesOf us :=
  List.flatMap_append

@[simp] theorem leavesOf_symbol (k : Symbol) (n : Nat) (ts : List Token) :
    leavesOf (.symbol k n :: ts) = leavesOf ts := rfl

mutual

/-- The leaves of a derived expression are those of the tokens, in their order. -/
theorem Primary.leaves {ts : List Token} {e : Expr} : Primary ts e → Expr.leaves e = leavesOf ts
  | .leaf e => by simp [leavesOf, Token.leaves]
  | .group m n h => by simpa [leavesOf, Token.leaves] using h.leaves

theorem Unary.leaves {ts : List Token} {e : Expr} : Unary ts e → Expr.leaves e = leavesOf ts
  | .primary h => h.leaves
  | .not n h => h.leaves

theorem Conjuncts.leaves {ts : List Token} {es : List Expr} :
    Conjuncts ts es → leavesAll es = leavesOf ts
  | .one h => by simp [leavesAll, h.leaves]
  | .more n h hu => by simp [leavesAll_append, leavesAll, h.leaves, hu.leaves]

theorem Conjunction.leaves {ts : List Token} {e : Expr} :
    Conjunction ts e → Expr.leaves e = leavesOf ts
  | .single h => by simpa [leavesAll] using h.leaves
  | .chain h => h.leaves

theorem Disjuncts.leaves {ts : List Token} {es : List Expr} :
    Disjuncts ts es → leavesAll es = leavesOf ts
  | .one h => by simp [leavesAll, h.leaves]
  | .more n h hu => by simp [leavesAll_append, leavesAll, h.leaves, hu.leaves]

theorem Disjunction.leaves {ts : List Token} {e : Expr} :
    Disjunction ts e → Expr.leaves e = leavesOf ts
  | .single h => by simpa [leavesAll] using h.leaves
  | .chain h => h.leaves

end

def Token.Bare : Token → Prop
  | .symbol _ _ => True
  | .operand e => e.IsLeaf

mutual

theorem Primary.shaped {ts : List Token} {e : Expr} : Primary ts e → (∀ t ∈ ts, t.Bare) → e.Shaped
  | .leaf e, hb => IsLeaf.shaped (hb (.operand e) (by simp))
  | .group _ _ h, hb => h.shaped fun t ht => hb t (by simp [ht])

theorem Unary.shaped {ts : List Token} {e : Expr} : Unary ts e → (∀ t ∈ ts, t.Bare) → e.Shaped
  | .primary h, hb => h.shaped hb
  | .not _ h, hb => h.shaped fun t ht => hb t (by simp [ht])

theorem Conjuncts.shaped {ts : List Token} {es : List Expr} :
    Conjuncts ts es → (∀ t ∈ ts, t.Bare) → ShapedAll es
  | .one h, hb => ⟨h.shaped hb, trivial⟩
  | .more _ h hu, hb => shapedAll_append.mpr
      ⟨h.shaped fun t ht => hb t (by simp [ht]), hu.shaped fun t ht => hb t (by simp [ht]), trivial⟩

theorem Conjunction.shaped {ts : List Token} {e : Expr} :
    Conjunction ts e → (∀ t ∈ ts, t.Bare) → e.Shaped
  | .single h, hb => (h.shaped hb).1
  | .chain h, hb => ⟨by simp, h.shaped hb⟩

theorem Disjuncts.shaped {ts : List Token} {es : List Expr} :
    Disjuncts ts es → (∀ t ∈ ts, t.Bare) → ShapedAll es
  | .one h, hb => ⟨h.shaped hb, trivial⟩
  | .more _ h hu, hb => shapedAll_append.mpr
      ⟨h.shaped fun t ht => hb t (by simp [ht]), hu.shaped fun t ht => hb t (by simp [ht]), trivial⟩

theorem Disjunction.shaped {ts : List Token} {e : Expr} :
    Disjunction ts e → (∀ t ∈ ts, t.Bare) → e.Shaped
  | .single h, hb => (h.shaped hb).1
  | .chain h, hb => ⟨by simp, h.shaped hb⟩

end

theorem bare_comparison? {offset n : Nat} {t : Text} {e : Expr}
    (h : comparison? offset t = some (e, n)) : e.IsLeaf := by
  obtain ⟨k, -, ⟨rfl, -⟩ | ⟨op, m, -, -, rfl, -⟩⟩ := comparison?_eq_some h <;> trivial

theorem bare_token? {behind offset n : Nat} {t : Text} {token : Token}
    (h : token? behind offset t = some (token, n)) :
    token.Bare := by
  simp only [token?] at h
  split at h
  · obtain ⟨rfl, -⟩ := Prod.mk.inj (Option.some.inj h); trivial
  split at h
  · obtain ⟨rfl, -⟩ := Prod.mk.inj (Option.some.inj h); trivial
  split at h
  · obtain ⟨rfl, -⟩ := Prod.mk.inj (Option.some.inj h); trivial
  · obtain ⟨rfl, -⟩ := Prod.mk.inj (Option.some.inj h); trivial
  · obtain ⟨rfl, -⟩ := Prod.mk.inj (Option.some.inj h); trivial
  split at h
  · obtain ⟨rfl, -⟩ := Prod.mk.inj (Option.some.inj h); trivial
  · obtain ⟨⟨e, m⟩, he, heq⟩ := Option.map_eq_some_iff.mp h
    obtain ⟨rfl, -⟩ := Prod.mk.inj heq
    exact bare_comparison? he

theorem bare_tokensFrom {behind offset pending : Nat} {t : Text} {ts : List Token}
    (h : tokensFrom behind offset pending t = .ok ts) : ∀ token ∈ ts, token.Bare := by
  fun_induction tokensFrom behind offset pending t generalizing ts with
  | case1 => cases h; simp
  | case2 _ _ _ _ _ ih => exact ih h
  | case3 _ _ _ _ _ ih => exact ih h
  | case4 behind offset c rest hc token n ht ih =>
    cases hus : tokensFrom (offset + n) (offset + 1) (n - 1) rest with
    | error k => simp [hus, Except.map] at h
    | ok us =>
      obtain rfl : token :: us = ts := by simpa [hus, Except.map] using h
      simpa using ⟨bare_token? ht, ih hus⟩
  | case5 => cases h

end Term

namespace Expr

theorem shaped_of_ofTerm {t : Text} {e : Expr} (h : ofTerm t = .ok e) : e.Shaped := by
  obtain ⟨ts, hts, hd⟩ := Term.ofTerm_eq_ok_iff.mp h
  exact hd.shaped (Term.bare_tokensFrom hts)

end Expr

end FileTags

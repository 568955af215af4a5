import FileTags.Filter.Compile
import Mathlib.Data.List.Forall2

/-!
# The fold by recursion

What the fold with its two stacks computes is a recursion over trees: a node is checked before its
children, the children are taken from left to right, and the first error ends everything. The
offsets of a tree play no part.
-/

set_option autoImplicit false

namespace FileTags.Filter

mutual

def joinTree (bookmark : Tree → Except CompileError Filter) : Tree → Except CompileError Filter
  | .node rule children _ =>
    match Connective.ofRule? rule with
    | none => ofLeaf bookmark rule children
    | some c =>
      match c.check children.length with
      | .ok () => (joinTrees bookmark children).bind c.combine
      | .error e => .error e
  | .text t => .error (.mismatch (.notANode (Tree.text t).written))
  | .other kind written => .error (.mismatch (.notANode (Tree.other kind written).written))

def joinTrees (bookmark : Tree → Except CompileError Filter) :
    List Tree → Except CompileError (List Filter)
  | [] => .ok []
  | t :: ts => (joinTree bookmark t).bind fun f => (joinTrees bookmark ts).map (f :: ·)

end

variable {bookmark : Tree → Except CompileError Filter}

theorem length_joinTrees {ts : List Tree} {fs : List Filter} (h : joinTrees bookmark ts = .ok fs) :
    fs.length = ts.length := by
  induction ts generalizing fs with
  | nil =>
    obtain rfl : [] = fs := by simpa [joinTrees] using h
    rfl
  | cons t ts ih =>
    rw [joinTrees] at h
    cases ht : joinTree bookmark t with
    | error e => simp [ht, Except.bind] at h
    | ok f =>
      cases hts : joinTrees bookmark ts with
      | error e => simp [ht, hts, Except.bind, Except.map] at h
      | ok gs =>
        obtain rfl : f :: gs = fs := by simpa [ht, hts, Except.bind, Except.map] using h
        simp [ih hts]

mutual

theorem fold_visit (todo : List Work) (done : List Filter) : (t : Tree) →
    fold bookmark (.visit t :: todo) done = (joinTree bookmark t).bind fun f =>
      fold bookmark todo (f :: done)
  | .text t => by rw [fold, joinTree]; rfl; simp
  | .other kind written => by rw [fold, joinTree]; rfl; simp
  | .node rule children offset => by
    rw [fold, joinTree]
    cases hc : Connective.ofRule? rule with
    | none => cases ofLeaf bookmark rule children <;> rfl
    | some c =>
      simp only
      cases hn : c.check children.length with
      | error e => rfl
      | ok u =>
        simp only
        rw [fold_visits (.join c children.length :: todo) done children]
        cases hs : joinTrees bookmark children with
        | error e => rfl
        | ok fs =>
          simp only [Except.bind]
          rw [fold]
          have hl : fs.reverse.length = children.length := by simp [length_joinTrees hs]
          rw [← hl, List.take_left, List.drop_left, List.reverse_reverse]
          cases c.combine fs <;> rfl

theorem fold_visits (todo : List Work) (done : List Filter) : (ts : List Tree) →
    fold bookmark (visits ts ++ todo) done =
      (joinTrees bookmark ts).bind fun fs => fold bookmark todo (fs.reverse ++ done)
  | [] => rfl
  | t :: ts => by
    rw [joinTrees]
    change fold bookmark (.visit t :: (visits ts ++ todo)) done = _
    rw [fold_visit]
    cases joinTree bookmark t with
    | error e => rfl
    | ok f =>
      simp only [Except.bind]
      rw [fold_visits]
      cases joinTrees bookmark ts with
      | error e => rfl
      | ok fs => simp [Except.bind, Except.map]

end

theorem fold_tree (t : Tree) : fold bookmark [.visit t] [] = joinTree bookmark t := by
  rw [fold_visit]
  cases joinTree bookmark t with
  | error e => rfl
  | ok f =>
    simp only [Except.bind]
    rw [fold]
    rfl

/-! ## Expressions -/

section expressions

variable {n : Nat} {f : Filter}

theorem patternOf_eq_ok_iff {t : Text} {p : Pattern} :
    patternOf t = .ok p ↔ Pattern.ofSource t = .ok p := by
  rw [patternOf]
  cases Pattern.ofSource t <;> simp

theorem joinTree_tag_iff {p : Text} : joinTree bookmark (Expr.tag n p).toTree = .ok f ↔
    ∃ tag, Pattern.ofSource p = .ok tag ∧ f = .leaf (.tagExists tag) := by
  change (patternOf p).bind (fun tag => .ok (.leaf (.tagExists tag))) = .ok f ↔ _
  simp only [← patternOf_eq_ok_iff]
  cases patternOf p <;> simp [Except.bind, eq_comm]

theorem joinTree_equal_iff {t v : Text} :
    joinTree bookmark (Expr.comparison n t .equal v).toTree = .ok f ↔
      ∃ tag value, Pattern.ofSource t = .ok tag ∧ Pattern.ofSource v = .ok value ∧
      f = .leaf (.valueEquals tag value) := by
  change (patternOf t).bind (fun tag => (patternOf v).bind fun value =>
    .ok (.leaf (.valueEquals tag value))) = .ok f ↔ _
  simp only [← patternOf_eq_ok_iff]
  cases patternOf t <;> cases patternOf v <;> simp [Except.bind, eq_comm]

theorem joinTree_notEqual_iff {t v : Text} :
    joinTree bookmark (Expr.comparison n t .notEqual v).toTree = .ok f ↔
      ∃ tag value, Pattern.ofSource t = .ok tag ∧ Pattern.ofSource v = .ok value ∧
      f = valueDiffers tag value := by
  change (patternOf t).bind (fun tag => (patternOf v).bind fun value =>
    .ok (valueDiffers tag value)) = .ok f ↔ _
  simp only [← patternOf_eq_ok_iff]
  cases patternOf t <;> cases patternOf v <;> simp [Except.bind, eq_comm]

theorem joinTree_order_iff {t v : Text} {test : OrderTest} :
    joinTree bookmark (Expr.comparison n t test.comparator v).toTree = .ok f ↔
    ∃ tag bound, Pattern.ofSource t = .ok tag ∧ Text.readInteger v = .ok (some bound) ∧
      f = .leaf (.valueOrder test tag bound) := by
  have hjoin : joinTree bookmark (Expr.comparison n t test.comparator v).toTree =
      (patternOf t).bind fun tag =>
        (ofBound t test.comparator.symbol (.text v)).bind fun bound =>
          .ok (.leaf (.valueOrder test tag bound)) := by
    cases test <;> rfl
  rw [hjoin]
  simp only [← patternOf_eq_ok_iff, ofBound]
  cases patternOf t with
  | error e => simp [Except.bind]
  | ok tag =>
    cases Text.readInteger v with
    | error e => simp [Except.bind]
    | ok r => cases r <;> simp [Except.bind, eq_comm]

theorem joinTree_not_iff {e : Expr} : joinTree bookmark (Expr.not n e).toTree = .ok f ↔
    ∃ g, joinTree bookmark e.toTree = .ok g ∧ f = .not g := by
  change ((joinTree bookmark e.toTree).bind fun g => .ok [g]).bind (Connective.combine .not) =
    .ok f ↔ _
  cases joinTree bookmark e.toTree <;> simp [Except.bind, Connective.combine, eq_comm]

theorem length_toTrees (es : List Expr) : (Expr.toTrees es).length = es.length := by
  induction es with
  | nil => rfl
  | cons e es ih => simp [Expr.toTrees, ih]

theorem joinTrees_iff {es : List Expr} {fs : List Filter} :
    joinTrees bookmark (Expr.toTrees es) = .ok fs ↔
      List.Forall₂ (fun e f => joinTree bookmark e.toTree = .ok f) es fs := by
  induction es generalizing fs with
  | nil => cases fs <;> simp [Expr.toTrees, joinTrees]
  | cons e es ih =>
    rw [Expr.toTrees, joinTrees, List.forall₂_cons_left_iff]
    simp only [← ih]
    cases joinTree bookmark e.toTree <;> cases joinTrees bookmark (Expr.toTrees es) <;>
      simp [Except.bind, Except.map, eq_comm]

theorem check_eq_ok_iff {c : Connective} (hc : c ≠ .not) (count : Nat) :
    c.check count = .ok () ↔ 2 ≤ count := by
  cases c with
  | not => exact absurd rfl hc
  | and | or =>
    rw [Connective.check]
    by_cases h : 2 ≤ count
    · rw [if_pos h]
      exact iff_of_true rfl h
    · rw [if_neg h]
      exact iff_of_false (by simp) h

/-- A connective that joins wants two operands at least, and joins their filters to the left. -/
theorem joinTree_join_iff {rule : Rule} {c : Connective} {join : Filter → Filter → Filter}
    {es : List Expr} (hrule : Connective.ofRule? rule = some c) (hc : c ≠ .not)
    (hcombine : ∀ g gs, c.combine (g :: gs) = .ok (gs.foldl join g)) :
    joinTree bookmark (.node rule (Expr.toTrees es) n) = .ok f ↔
      2 ≤ es.length ∧ ∃ g gs, List.Forall₂ (fun e f =>
        joinTree bookmark e.toTree = .ok f) es (g :: gs) ∧
        f = gs.foldl join g := by
  simp only [joinTree, hrule, length_toTrees, ← joinTrees_iff, ← check_eq_ok_iff hc es.length]
  cases c.check es.length with
  | error e => simp
  | ok u =>
    cases hfs : joinTrees bookmark (Expr.toTrees es) with
    | error e => simp [Except.bind]
    | ok fs =>
      cases fs with
      | nil =>
        have hnone : c.combine [] = .error .missingPart := rfl
        simp [Except.bind, hnone]
      | cons g gs => simp [Except.bind, hcombine, eq_comm]

theorem joinTree_and_iff {es : List Expr} : joinTree bookmark (Expr.and n es).toTree = .ok f ↔
    2 ≤ es.length ∧ ∃ g gs, List.Forall₂ (fun e f =>
      joinTree bookmark e.toTree = .ok f) es (g :: gs) ∧
      f = gs.foldl .and g :=
  joinTree_join_iff (c := .and) rfl (by decide) fun _ _ => rfl

theorem joinTree_or_iff {es : List Expr} : joinTree bookmark (Expr.or n es).toTree = .ok f ↔
    2 ≤ es.length ∧ ∃ g gs, List.Forall₂ (fun e f =>
      joinTree bookmark e.toTree = .ok f) es (g :: gs) ∧
      f = gs.foldl .or g :=
  joinTree_join_iff (c := .or) rfl (by decide) fun _ _ => rfl

end expressions

/-! ## Terms -/

section terms

variable {resolve : Option Resolver} {next : List Text → Text → Except CompileError Filter}
  {expanding : List Text}
  {term : Text} {f : Filter}

theorem ofTermWith_eq_ok_iff : ofTermWith resolve next expanding term = .ok f ↔
    ∃ e, Expr.ofTerm term = .ok e ∧
    joinTree (ofBookmark resolve next expanding) e.toTree = .ok f := by
  rw [ofTermWith]
  cases Expr.ofTerm term <;> simp [fold_tree]

/-- A bookmark has the filter of its term, if it is not being expanded already. -/
theorem ofBookmark_eq_ok_iff {name : Text} :
    ofBookmark resolve next expanding (.text name) = .ok f ↔
      ∃ lookUp term, resolve = some lookUp ∧ name ∉ expanding ∧ lookUp name = .ok term ∧
        next (name :: expanding) term = .ok f := by
  simp only [ofBookmark, Tree.plain]
  cases resolve with
  | none => simp
  | some lookUp =>
    by_cases h : name ∈ expanding
    · simp [h]
    · cases hl : lookUp name <;> simp [h, hl]

theorem ofTerm_iff_ofTermAt : ofTerm resolve term = .ok f ↔
    ofTermAt resolve depthLimit [] term = .ok f := by
  rw [ofTerm]
  split
  · next h => simp [h]
  · exact Iff.rfl

end terms

end FileTags.Filter

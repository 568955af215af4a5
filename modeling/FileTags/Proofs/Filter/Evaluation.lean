import FileTags.Filter.Formula
import Mathlib.Data.List.Forall2

/-!
# Evaluation by recursion

The evaluation with a stack is a recursive one: the left operand of a connective comes first, and
the right one is looked at only when the left one has not decided. This holds for every effect that
a condition may have, so both look at the same conditions in the same order.
-/

set_option autoImplicit false

namespace FileTags.Formula

variable {α ε : Type}

/-! ## Any effects -/

section effects

variable {m : Type → Type} [Monad m] {holds : α → m Bool}

def shortCircuit (holds : α → m Bool) : Formula α → m Bool
  | .leaf a => holds a
  | .not f => do return !(← shortCircuit holds f)
  | .and l r => do if ← shortCircuit holds l then shortCircuit holds r else return false
  | .or l r => do if ← shortCircuit holds l then return true else shortCircuit holds r

@[simp] theorem resume_nil (b : Bool) : resume holds b [] = pure b := by rw [resume]

@[simp] theorem resume_negate (b : Bool) (stack : List (Pending α)) :
    resume holds b (.negate :: stack) = resume holds (!b) stack := by
  rw [resume]

/-- The right operand of a conjunction is started by a left one that holds, and only once. -/
theorem resume_conjunct (b : Bool) (r : Formula α) (stack : List (Pending α)) :
    resume holds b (.conjunct r false :: stack) =
        (if b then descend holds r (.conjunct r true :: stack) else resume holds false stack) ∧
      resume holds b (.conjunct r true :: stack) = resume holds b stack := by
  constructor
  · cases b <;> simp [resume]
  · simp [resume]

theorem resume_disjunct (b : Bool) (r : Formula α) (stack : List (Pending α)) :
    resume holds b (.disjunct r false :: stack) =
        (if b then resume holds true stack else descend holds r (.disjunct r true :: stack)) ∧
      resume holds b (.disjunct r true :: stack) = resume holds b stack := by
  constructor
  · cases b <;> simp [resume]
  · simp [resume]

variable [LawfulMonad m]

/-- Going down a formula is evaluating it by recursion and going up with its value, whatever is
above. -/
theorem descend_eq_bind (f : Formula α) (stack : List (Pending α)) :
    descend holds f stack = shortCircuit holds f >>= fun b => resume holds b stack := by
  induction f generalizing stack with
  | leaf a => rw [descend, shortCircuit]
  | not f ih => simp [descend, shortCircuit, ih]
  | and l r ihl ihr =>
    rw [descend, ihl, shortCircuit, bind_assoc]
    congr 1
    funext b
    cases b with
    | false => simp [resume_conjunct]
    | true => simp [resume_conjunct, ihr]
  | or l r ihl ihr =>
    rw [descend, ihl, shortCircuit, bind_assoc]
    congr 1
    funext b
    cases b with
    | false => simp [resume_disjunct, ihr]
    | true => simp [resume_disjunct]

theorem evaluate_eq_shortCircuit (holds : α → m Bool) (f : Formula α) :
    evaluate holds f = shortCircuit holds f := by
  simp [evaluate, descend_eq_bind]

@[simp] theorem evaluate_leaf (a : α) : evaluate holds (.leaf a) = holds a :=
  evaluate_eq_shortCircuit holds (.leaf a)

end effects

/-! ## Conditions that fail -/

variable {holds : α → Except ε Bool}

theorem evaluate_not (f : Formula α) : evaluate holds (.not f) = (evaluate holds f).map (!·) := by
  simp only [evaluate_eq_shortCircuit, shortCircuit]
  cases shortCircuit holds f <;> rfl

theorem evaluate_and (l r : Formula α) :
    evaluate holds (.and l r) = (evaluate holds l).bind fun b =>
      if b then evaluate holds r else .ok false := by
  simp only [evaluate_eq_shortCircuit, shortCircuit]
  rfl

theorem evaluate_or (l r : Formula α) :
    evaluate holds (.or l r) = (evaluate holds l).bind fun b =>
      if b then .ok true else evaluate holds r := by
  simp only [evaluate_eq_shortCircuit, shortCircuit]
  rfl

section values

variable {f g : Formula α} {b c : Bool}

theorem evaluate_and_ok (hf : evaluate holds f = .ok b) (hg : evaluate holds g = .ok c) :
    evaluate holds (.and f g) = .ok (b && c) := by
  rw [evaluate_and, hf]
  cases b <;> simp [Except.bind, hg]

theorem evaluate_or_ok (hf : evaluate holds f = .ok b) (hg : evaluate holds g = .ok c) :
    evaluate holds (.or f g) = .ok (b || c) := by
  rw [evaluate_or, hf]
  cases b <;> simp [Except.bind, hg]

theorem evaluate_foldl {join : Formula α → Formula α → Formula α} {op : Bool → Bool → Bool}
    (hjoin : ∀ {f g : Formula α} {b c : Bool}, evaluate holds f = .ok b → evaluate holds g = .ok c →
      evaluate holds (join f g) = .ok (op b c))
    {fs : List (Formula α)} {bs : List Bool} (h : evaluate holds f = .ok b)
    (hs : List.Forall₂ (fun f b => evaluate holds f = .ok b) fs bs) :
    evaluate holds (fs.foldl join f) = .ok (bs.foldl op b) := by
  induction hs generalizing f b with
  | nil => exact h
  | cons hg hs ih => exact ih (hjoin h hg)

theorem foldl_and_eq_true {bs : List Bool} :
    bs.foldl (· && ·) b = true ↔ ∀ c ∈ b :: bs, c = true := by
  induction bs generalizing b with
  | nil => simp
  | cons c bs ih =>
    rw [List.foldl_cons, ih]
    simp [and_assoc]

theorem foldl_or_eq_true {bs : List Bool} :
    bs.foldl (· || ·) b = true ↔ ∃ c ∈ b :: bs, c = true := by
  induction bs generalizing b with
  | nil => simp
  | cons c bs ih =>
    rw [List.foldl_cons, ih]
    simp [or_assoc]

end values

/-! ## Conditions looked at -/

section looks

def conditions : Formula α → List α
  | .leaf a => [a]
  | .not f => conditions f
  | .and l r | .or l r => conditions l ++ conditions r

def lookedAt (holds : α → Except ε Bool) : Formula α → List α
  | .leaf a => [a]
  | .not f => lookedAt holds f
  | .and l r =>
    lookedAt holds l ++
      match shortCircuit holds l with
      | .ok true => lookedAt holds r
      | _ => []
  | .or l r =>
    lookedAt holds l ++
      match shortCircuit holds l with
      | .ok false => lookedAt holds r
      | _ => []

/-- Looks at a condition and writes down that it did, also when the condition fails. -/
def noted (holds : α → Except ε Bool) (a : α) : ExceptT ε (StateM (List α)) Bool :=
  ExceptT.mk fun seen => (holds a, seen ++ [a])

theorem run_bind_noted (a : ExceptT ε (StateM (List α)) Bool)
    (next : Bool → ExceptT ε (StateM (List α)) Bool) (seen : List α) :
    (a >>= next).run.run seen =
      match a.run.run seen with
      | (.ok b, seen) => (next b).run.run seen
      | (.error e, seen) => (.error e, seen) := by
  rw [ExceptT.run_bind, StateT.run_bind]
  rcases a.run.run seen with ⟨_ | _, _⟩ <;> rfl

theorem run_noted (f : Formula α) (seen : List α) :
    (shortCircuit (noted holds) f).run.run seen =
    (shortCircuit holds f, seen ++ lookedAt holds f) := by
  induction f generalizing seen with
  | leaf a => rfl
  | not f ih =>
    rw [shortCircuit, run_bind_noted, ih, shortCircuit, lookedAt]
    cases shortCircuit holds f <;> rfl
  | and l r ihl ihr =>
    rw [shortCircuit, run_bind_noted, ihl, shortCircuit, lookedAt, ← List.append_assoc]
    rcases shortCircuit holds l with e | _ | _
    · exact congrArg _ (List.append_nil _).symm
    · exact congrArg _ (List.append_nil _).symm
    · exact ihr _
  | or l r ihl ihr =>
    rw [shortCircuit, run_bind_noted, ihl, shortCircuit, lookedAt, ← List.append_assoc]
    rcases shortCircuit holds l with e | _ | _
    · exact congrArg _ (List.append_nil _).symm
    · exact ihr _
    · exact congrArg _ (List.append_nil _).symm

theorem lookedAt_sublist (f : Formula α) : (lookedAt holds f).Sublist f.conditions := by
  induction f with
  | leaf a => exact .refl _
  | not f ih => exact ih
  | and l r ihl ihr | or l r ihl ihr =>
    rw [lookedAt]
    refine ihl.append ?_
    split
    · exact ihr
    · exact List.nil_sublist _

/-- Nothing that has been looked at fails if the formula has a value. -/
theorem holds_of_mem_lookedAt {f : Formula α} {v : Bool} (h : shortCircuit holds f = .ok v) :
    ∀ a ∈ lookedAt holds f, ∃ b, holds a = .ok b := by
  induction f generalizing v with
  | leaf a => exact List.forall_mem_singleton.mpr ⟨v, h⟩
  | not f ih =>
    rw [shortCircuit] at h
    cases hf : shortCircuit holds f with
    | error e => simp [hf, bind, Except.bind] at h
    | ok b => exact ih hf
  | and l r ihl ihr =>
    rw [shortCircuit] at h
    rw [lookedAt]
    rcases hl : shortCircuit holds l with e | _ | _ <;> rw [hl] at h
    · cases h
    · simpa using ihl hl
    · exact List.forall_mem_append.mpr ⟨ihl hl, ihr h⟩
  | or l r ihl ihr =>
    rw [shortCircuit] at h
    rw [lookedAt]
    rcases hl : shortCircuit holds l with e | _ | _ <;> rw [hl] at h
    · cases h
    · exact List.forall_mem_append.mpr ⟨ihl hl, ihr h⟩
    · simpa using ihl hl

/-- An error is that of the condition looked at last, the first one that fails. -/
def FailsLast (holds : α → Except ε Bool) (e : ε) (looked : List α) : Prop :=
  ∃ before a, looked = before ++ [a] ∧ holds a = .error e ∧ ∀ b ∈ before, ∃ v, holds b = .ok v

theorem FailsLast.append {e : ε} {as bs : List α} (h : FailsLast holds e bs)
    (has : ∀ a ∈ as, ∃ v, holds a = .ok v) :
    FailsLast holds e (as ++ bs) := by
  obtain ⟨before, a, rfl, ha, hbefore⟩ := h
  exact ⟨as ++ before, a, (List.append_assoc _ _ _).symm, ha,
    List.forall_mem_append.mpr ⟨has, hbefore⟩⟩

theorem failsLast_lookedAt {f : Formula α} {e : ε} (h : shortCircuit holds f = .error e) :
    FailsLast holds e (lookedAt holds f) := by
  induction f with
  | leaf a => exact ⟨[], a, rfl, h, by simp⟩
  | not f ih =>
    rw [shortCircuit] at h
    cases hf : shortCircuit holds f with
    | error x =>
      rw [hf] at h
      cases h
      exact ih hf
    | ok b =>
      rw [hf] at h
      cases h
  | and l r ihl ihr =>
    rw [shortCircuit] at h
    rw [lookedAt]
    rcases hl : shortCircuit holds l with x | _ | _ <;> rw [hl] at h
    · cases h
      simpa using ihl hl
    · cases h
    · exact (ihr h).append (holds_of_mem_lookedAt hl)
  | or l r ihl ihr =>
    rw [shortCircuit] at h
    rw [lookedAt]
    rcases hl : shortCircuit holds l with x | _ | _ <;> rw [hl] at h
    · cases h
      simpa using ihl hl
    · exact (ihr h).append (holds_of_mem_lookedAt hl)
    · cases h

/-- The evaluation with a stack does what the recursion does, whatever effects the conditions have.
So it looks at the same conditions in the same order and as often, at each place of the formula once
at most, and ends with the same value, or with the error of the condition looked at last. -/
theorem evaluate_looks_alike (holds : α → Except ε Bool) (f : Formula α) :
    (∀ {m : Type → Type} [Monad m] [LawfulMonad m] (act : α → m Bool), evaluate act f =
      shortCircuit act f) ∧
      (∀ seen, (evaluate (noted holds) f).run.run seen =
        (shortCircuit holds f, seen ++ lookedAt holds f)) ∧
      evaluate holds f = shortCircuit holds f ∧ (lookedAt holds f).Sublist f.conditions ∧
      ∀ e, evaluate holds f = .error e → FailsLast holds e (lookedAt holds f) := by
  refine ⟨fun act => evaluate_eq_shortCircuit act f, fun seen => ?_,
    evaluate_eq_shortCircuit holds f, lookedAt_sublist f, fun e he => ?_⟩
  · rw [evaluate_eq_shortCircuit, run_noted]
  · exact failsLast_lookedAt ((evaluate_eq_shortCircuit holds f).symm.trans he)

end looks

end FileTags.Formula

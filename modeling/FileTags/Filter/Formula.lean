import FileTags.Text.Ranges

/-!
# Formulas

Boolean formulas over conditions of any kind. They are evaluated from left to right with a stack of
the connectives above, so the right operand of a connective is looked at only when the left one has
not decided. Evaluating a condition may fail, or have any other effect. A formula is written with
both operands of a connective, and the operand of a negation, in parentheses.
-/

set_option autoImplicit false

namespace FileTags

inductive Formula (α : Type)
  | leaf (a : α)
  | not (f : Formula α)
  | and (l r : Formula α)
  | or (l r : Formula α)
  deriving DecidableEq, Repr

namespace Formula

variable {α : Type}

def size : Formula α → Nat
  | .leaf _ => 1
  | .not f => f.size + 1
  | .and l r | .or l r => l.size + r.size + 1

/-- A connective above the formula that is being evaluated. One that joins knows its right operand,
and whether that has been started. -/
inductive Pending (α : Type)
  | negate
  | conjunct (r : Formula α) (started : Bool)
  | disjunct (r : Formula α) (started : Bool)

def Pending.weight : Pending α → Nat
  | .negate => 1
  | .conjunct r started | .disjunct r started => if started then 1 else 3 * r.size + 2

theorem Pending.weight_pos (p : Pending α) : 0 < p.weight := by
  cases p with
  | negate => exact Nat.one_pos
  | conjunct r started | disjunct r started => cases started <;> simp [weight]

def weight : List (Pending α) → Nat
  | [] => 0
  | p :: stack => p.weight + weight stack

variable {m : Type → Type} [Monad m]

mutual

def descend (holds : α → m Bool) (f : Formula α) (stack : List (Pending α)) : m Bool :=
  match f with
  | .leaf a => do resume holds (← holds a) stack
  | .not f => descend holds f (.negate :: stack)
  | .and l r => descend holds l (.conjunct r false :: stack)
  | .or l r => descend holds l (.disjunct r false :: stack)
termination_by 3 * f.size + weight stack
decreasing_by
  all_goals
    simp only [size, weight, Pending.weight, Bool.false_eq_true, if_false]
    omega

def resume (holds : α → m Bool) (b : Bool) (stack : List (Pending α)) : m Bool :=
  match stack with
  | [] => pure b
  | .negate :: stack => resume holds (!b) stack
  | .conjunct r started :: stack =>
    if started = false ∧ b = true then descend holds r (.conjunct r true :: stack)
    else resume holds b stack
  | .disjunct r started :: stack =>
    if started = false ∧ b = false then descend holds r (.disjunct r true :: stack)
    else resume holds b stack
termination_by weight stack
decreasing_by
  · simp [weight, Pending.weight]
  · simp [weight, Pending.weight, *]
    omega
  · exact Nat.lt_add_of_pos_left (Pending.weight_pos _)
  · simp [weight, Pending.weight, *]
    omega
  · exact Nat.lt_add_of_pos_left (Pending.weight_pos _)

end

def evaluate (holds : α → m Bool) (f : Formula α) : m Bool := descend holds f []

def writtenBefore (leafText : α → Text) : Formula α → Text → Text
  | .leaf a, rest => leafText a ++ rest
  | .not f, rest =>
    [.char 'N', .char 'O', .char 'T', .char ' ', .char '('] ++
      f.writtenBefore leafText (.char ')' :: rest)
  | .and l r, rest =>
    .char '(' :: l.writtenBefore leafText
      ([.char ')', .char ' ', .char 'A', .char 'N', .char 'D', .char ' ', .char '('] ++
        r.writtenBefore leafText (.char ')' :: rest))
  | .or l r, rest =>
    .char '(' :: l.writtenBefore leafText
      ([.char ')', .char ' ', .char 'O', .char 'R', .char ' ', .char '('] ++
        r.writtenBefore leafText (.char ')' :: rest))

def written (leafText : α → Text) (f : Formula α) : Text := f.writtenBefore leafText []

end Formula

end FileTags

import FileTags.Term.Token

/-!
# Assembling expressions

Tokens become an expression with a stack of levels, one for each open parenthesis. A level collects
the operands of the running conjunction and the finished conjunctions of the disjunction around it,
so negation binds tighter than conjunction, and conjunction tighter than disjunction.
-/

set_option autoImplicit false

namespace FileTags.Term

inductive Misplaced
  | operandAfterOperand
  | symbolAfterOperand (kind : Symbol)
  | symbolWithoutOperand (kind : Symbol)
  | unmatchedClose
  | unclosedOpen
  | missingOperand
  deriving DecidableEq, Repr

def Misplaced.message : Misplaced → String
  | .operandAfterOperand => "Expected AND or OR between operands"
  | .symbolAfterOperand kind => s!"Unexpected '{kind.written}' after operand"
  | .symbolWithoutOperand kind => s!"Expected operand before '{kind.written}'"
  | .unmatchedClose => "Unmatched ')'"
  | .unclosedOpen => "Unclosed '('"
  | .missingOperand => "Expected operand"

/-- One pair of parentheses. All lists have their latest entry first. -/
structure Level where
  offset : Nat
  disjuncts : List Expr
  conjuncts : List Expr
  negations : List Nat
  wantsOperand : Bool
  deriving Repr

namespace Level

def start (offset : Nat) : Level := ⟨offset, [], [], [], true⟩

/-- The negations read in front of the operand apply to it, the latest one first. -/
def addOperand (l : Level) (e : Expr) : Level :=
  { l with
    conjuncts := l.negations.foldl (fun e n => .not n e) e :: l.conjuncts
    negations := []
    wantsOperand := false }

def endConjunction (l : Level) : Level :=
  { l with
    disjuncts := .conjunction l.conjuncts.reverse :: l.disjuncts
    conjuncts := []
    wantsOperand := true }

def close (l : Level) : Expr := .disjunction l.endConjunction.disjuncts.reverse

end Level

structure Levels where
  inner : Level
  outer : List Level
  deriving Repr

namespace Levels

def start : Levels := ⟨.start 0, []⟩

/-- Takes one token up; an error comes with the offset of the token. -/
def step (ls : Levels) : Token → Except (Misplaced × Nat) Levels
  | .operand e =>
    if ls.inner.wantsOperand then .ok { ls with inner := ls.inner.addOperand e }
    else .error (.operandAfterOperand, e.start)
  | .symbol .not n =>
    if ls.inner.wantsOperand then
      .ok { ls with inner := { ls.inner with negations := n :: ls.inner.negations } }
    else .error (.symbolAfterOperand .not, n)
  | .symbol .opening n =>
    if ls.inner.wantsOperand then .ok ⟨.start n, ls.inner :: ls.outer⟩
    else .error (.symbolAfterOperand .opening, n)
  | .symbol .or n =>
    if ls.inner.wantsOperand then .error (.symbolWithoutOperand .or, n)
    else .ok { ls with inner := ls.inner.endConjunction }
  | .symbol .and n =>
    if ls.inner.wantsOperand then .error (.symbolWithoutOperand .and, n)
    else .ok { ls with inner := { ls.inner with wantsOperand := true } }
  | .symbol .closing n =>
    if ls.inner.wantsOperand then .error (.symbolWithoutOperand .closing, n)
    else
      match ls.outer with
      | [] => .error (.unmatchedClose, n)
      | parent :: outer => .ok ⟨parent.addOperand ls.inner.close, outer⟩

def finish (ls : Levels) (size : Nat) : Except (Misplaced × Nat) Expr :=
  if !ls.outer.isEmpty then .error (.unclosedOpen, ls.inner.offset)
  else if ls.inner.wantsOperand then .error (.missingOperand, size)
  else .ok ls.inner.close

def run (ls : Levels) : List Token → Except (Misplaced × Nat) Levels
  | [] => .ok ls
  | t :: ts =>
    match ls.step t with
    | .ok next => next.run ts
    | .error e => .error e

end Levels

/-- The expression of a list of tokens; `size` is the offset that stands for the end of the term. -/
def assemble (size : Nat) (ts : List Token) : Except (Misplaced × Nat) Expr :=
  match Levels.start.run ts with
  | .ok ls => ls.finish size
  | .error e => .error e

end FileTags.Term

import FileTags.Term.Token

/-!
# The grammar of token lists

A disjunction joins conjunctions, a conjunction joins operands that may be negated, and an operand
is a leaf or a disjunction in parentheses. A chain of one operand stands for that operand; a longer
chain becomes one node that starts where its first operand starts. The derivations are relations
between token lists and expressions, and know nothing of how a list is read.
-/

set_option autoImplicit false

namespace FileTags.Term

mutual

/-- `primary := leaf | '(' disjunction ')'` -/
inductive Primary : List Token → Expr → Prop
  | leaf (e : Expr) : Primary [.operand e] e
  | group {ts : List Token} {e : Expr} (m n : Nat) (h : Disjunction ts e) :
      Primary (.symbol .opening m :: ts ++ [.symbol .closing n]) e

/-- `unary := NOT* primary` -/
inductive Unary : List Token → Expr → Prop
  | primary {ts : List Token} {e : Expr} (h : Primary ts e) : Unary ts e
  | not {ts : List Token} {e : Expr} (n : Nat) (h : Unary ts e) :
      Unary (.symbol .not n :: ts) (.not n e)

/-- The operands of `unary (AND unary)*`. -/
inductive Conjuncts : List Token → List Expr → Prop
  | one {ts : List Token} {e : Expr} (h : Unary ts e) : Conjuncts ts [e]
  | more {ts us : List Token} {es : List Expr} {e : Expr} (n : Nat) (h : Conjuncts ts es)
      (hu : Unary us e) :
      Conjuncts (ts ++ .symbol .and n :: us) (es ++ [e])

/-- `conjunction := unary (AND unary)*` -/
inductive Conjunction : List Token → Expr → Prop
  | single {ts : List Token} {e : Expr} (h : Conjuncts ts [e]) : Conjunction ts e
  | chain {ts : List Token} {e f : Expr} {es : List Expr} (h : Conjuncts ts (e :: f :: es)) :
      Conjunction ts (.and e.start (e :: f :: es))

/-- The operands of `conjunction (OR conjunction)*`. -/
inductive Disjuncts : List Token → List Expr → Prop
  | one {ts : List Token} {e : Expr} (h : Conjunction ts e) : Disjuncts ts [e]
  | more {ts us : List Token} {es : List Expr} {e : Expr} (n : Nat) (h : Disjuncts ts es)
      (hu : Conjunction us e) :
      Disjuncts (ts ++ .symbol .or n :: us) (es ++ [e])

/-- `disjunction := conjunction (OR conjunction)*` -/
inductive Disjunction : List Token → Expr → Prop
  | single {ts : List Token} {e : Expr} (h : Disjuncts ts [e]) : Disjunction ts e
  | chain {ts : List Token} {e f : Expr} {es : List Expr} (h : Disjuncts ts (e :: f :: es)) :
      Disjunction ts (.or e.start (e :: f :: es))

end

def Extendable (ts : List Token) : Prop := ∃ us e, Disjunction (ts ++ us) e

def Token.rise : Token → Int
  | .symbol .opening _ => 1
  | .symbol .closing _ => -1
  | _ => 0

theorem Token.eq_closing {t : Token} (h : t.rise < 0) : ∃ n, t = .symbol .closing n := by
  cases t with
  | operand e => simp [rise] at h
  | symbol k n => cases k <;> simp [rise] at h ⊢

def height : List Token → Int
  | [] => 0
  | t :: ts => t.rise + height ts

/-- Every parenthesis has its partner: as many are opened as closed, and never more are closed than
opened. -/
def Balanced (ts : List Token) : Prop := height ts = 0 ∧ ∀ us vs, ts = us ++ vs → 0 ≤ height us

def InnermostOpen (ts : List Token) (n : Nat) : Prop :=
  ∃ us vs, ts = us ++ .symbol .opening n :: vs ∧ Balanced vs

/-- Where a list that is no disjunction goes wrong: at the first token that no continuation can
mend; if there is none, at the parenthesis left open last, or else at the end. -/
def GoesWrongAt (size : Nat) (ts : List Token) (n : Nat) : Prop :=
  (∃ us t vs, ts = us ++ t :: vs ∧ (∀ qs, qs <+: us → Extendable qs) ∧ ¬ Extendable (us ++ [t]) ∧
    n = t.start) ∨
  (∀ qs, qs <+: ts → Extendable qs) ∧ (InnermostOpen ts n ∨ (∀ m, ¬ InnermostOpen ts m) ∧ n = size)

@[simp] theorem height_nil : height [] = 0 := rfl

@[simp] theorem height_cons (t : Token) (ts : List Token) :
    height (t :: ts) = t.rise + height ts := rfl

@[simp] theorem height_append (ts us : List Token) : height (ts ++ us) = height ts + height us := by
  induction ts with
  | nil => simp
  | cons t ts ih => simp [ih, Int.add_assoc]

theorem balanced_nil : Balanced [] := by
  constructor
  · rfl
  · intro us vs h
    simp [(List.append_eq_nil_iff.mp h.symm).1]

theorem balanced_append {ts us : List Token} (ht : Balanced ts) (hu : Balanced us) :
    Balanced (ts ++ us) := by
  constructor
  · rw [height_append, ht.1, hu.1]
    rfl
  · intro ps qs h
    rcases List.append_eq_append_iff.mp h with ⟨ws, rfl, hw⟩ | ⟨ws, hw, rfl⟩
    · have := hu.2 ws qs hw
      rw [height_append, ht.1]
      omega
    · exact ht.2 ps ws hw

theorem balanced_token {t : Token} (h : t.rise = 0) : Balanced [t] := by
  constructor
  · simp [h]
  · intro us vs hs
    rcases List.singleton_eq_append_iff.mp hs with ⟨rfl, -⟩ | ⟨rfl, -⟩
    · simp
    · simp [h]

theorem balanced_cons {t : Token} {ts : List Token} (h : t.rise = 0) (ht : Balanced ts) :
    Balanced (t :: ts) :=
  balanced_append (balanced_token h) ht

theorem balanced_group {ts : List Token} (m n : Nat) (h : Balanced ts) :
    Balanced (.symbol .opening m :: ts ++ [.symbol .closing n]) := by
  have h0 := h.1
  constructor
  · simp [Token.rise, h0]
  · intro us vs hs
    cases us with
    | nil => simp
    | cons u us =>
      simp only [List.cons_append] at hs
      obtain ⟨rfl, htail⟩ := List.cons_eq_cons.mp hs
      rcases List.append_eq_append_iff.mp htail with ⟨ws, rfl, hw⟩ | ⟨ws, hw, -⟩
      · rcases List.singleton_eq_append_iff.mp hw with ⟨rfl, -⟩ | ⟨rfl, -⟩ <;> simp [Token.rise, h0]
      · have := h.2 us ws hw
        simp only [height_cons, Token.rise]
        omega

theorem not_innermostOpen {ts : List Token} (h : Balanced ts) (n : Nat) : ¬ InnermostOpen ts n := by
  rintro ⟨us, vs, rfl, hv⟩
  have h0 := h.1
  have hu := h.2 us _ rfl
  have hv0 := hv.1
  simp only [height_append, height_cons, Token.rise] at h0
  omega

mutual

theorem Primary.balanced {ts : List Token} {e : Expr} : Primary ts e → Balanced ts
  | .leaf _ => balanced_token rfl
  | .group m n h => balanced_group m n h.balanced

theorem Unary.balanced {ts : List Token} {e : Expr} : Unary ts e → Balanced ts
  | .primary h => h.balanced
  | .not _ h => balanced_cons rfl h.balanced

theorem Conjuncts.balanced {ts : List Token} {es : List Expr} : Conjuncts ts es → Balanced ts
  | .one h => h.balanced
  | .more _ h hu => balanced_append h.balanced (balanced_cons rfl hu.balanced)

theorem Conjunction.balanced {ts : List Token} {e : Expr} : Conjunction ts e → Balanced ts
  | .single h => h.balanced
  | .chain h => h.balanced

theorem Disjuncts.balanced {ts : List Token} {es : List Expr} : Disjuncts ts es → Balanced ts
  | .one h => h.balanced
  | .more _ h hu => balanced_append h.balanced (balanced_cons rfl hu.balanced)

theorem Disjunction.balanced {ts : List Token} {e : Expr} : Disjunction ts e → Balanced ts
  | .single h => h.balanced
  | .chain h => h.balanced

end

theorem Conjuncts.ne_nil {ts : List Token} {es : List Expr} (h : Conjuncts ts es) : es ≠ [] := by
  cases h <;> simp

theorem Disjuncts.ne_nil {ts : List Token} {es : List Expr} (h : Disjuncts ts es) : es ≠ [] := by
  cases h <;> simp

theorem Conjuncts.join {ts : List Token} {es : List Expr} (h : Conjuncts ts es) :
    Conjunction ts (.conjunction es) := by
  match es, h with
  | [], h => exact absurd rfl h.ne_nil
  | [e], h => exact .single h
  | e :: f :: es, h => exact .chain h

theorem Disjuncts.join {ts : List Token} {es : List Expr} (h : Disjuncts ts es) :
    Disjunction ts (.disjunction es) := by
  match es, h with
  | [], h => exact absurd rfl h.ne_nil
  | [e], h => exact .single h
  | e :: f :: es, h => exact .chain h

theorem Unary.negated {ts : List Token} {e : Expr} (h : Unary ts e) (ns : List Nat) :
    Unary (ns.reverse.map (.symbol .not) ++ ts) (ns.foldl (fun e n => .not n e) e) := by
  induction ns generalizing ts e with
  | nil => exact h
  | cons n ns ih => simpa using ih (.not n h)

end FileTags.Term

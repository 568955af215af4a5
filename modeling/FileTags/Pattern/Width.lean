import FileTags.Pattern.Basic

/-!
# Widths

The least and the greatest number of characters a pattern can take. A look-behind needs a pattern of
one width.
-/

set_option autoImplicit false

namespace FileTags

structure Width where
  least : Nat
  /-- Absent when there is no bound. -/
  most : Option Nat
  deriving DecidableEq, Repr

namespace Width

def zero : Width := ⟨0, some 0⟩

def one : Width := ⟨1, some 1⟩

def add (v w : Width) : Width :=
  ⟨v.least + w.least, match v.most, w.most with | some a, some b => some (a + b) | _, _ => none⟩

def either (v w : Width) : Width :=
  ⟨min v.least w.least, match v.most, w.most with | some a, some b => some (max a b) | _, _ => none⟩

def repeated (least : Nat) (most : Option Nat) (w : Width) : Width :=
  ⟨w.least * least,
    match w.most, most with
    | some 0, _ => some 0
    | _, some 0 => some 0
    | some a, some b => some (a * b)
    | _, _ => none⟩

end Width

def Regex.width (groups : Nat → Width) : Regex → Width
  | .empty => .zero
  | .char _ => .one
  | .any => .one
  | .oneOf _ _ => .one
  | .assertion _ => .zero
  | .cat l r => (l.width groups).add (r.width groups)
  | .alt l r => (l.width groups).either (r.width groups)
  | .times _ least most body => (body.width groups).repeated least most
  | .capture _ body => body.width groups
  | .scope _ _ body => body.width groups
  | .atomic body => body.width groups
  | .look _ _ _ _ => .zero
  | .backref n => groups n
  | .given _ present absent => (present.width groups).either (absent.width groups)

def lookBehindLimit : Nat := 4294967295

def Width.fixed? (w : Width) : Option Nat :=
  if w.most = some w.least ∧ w.least ≤ lookBehindLimit then some w.least else none

end FileTags

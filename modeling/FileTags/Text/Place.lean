import FileTags.Text.Ranges

/-!
# Places in a text

Tabs run to the next of the stops that stand every eight columns; a line feed or a carriage return
starts the columns afresh. A place is given by its offset, or by its line and column, both counted
from one.
-/

set_option autoImplicit false

namespace FileTags.Text

def expandTabsFrom : Nat → Text → Text
  | _, [] => []
  | column, c :: rest =>
    if c = '\t' then List.replicate (8 - column % 8) (.char ' ') ++ expandTabsFrom 0 rest
    else if c = '\n' ∨ c = '\r' then c :: expandTabsFrom 0 rest
    else c :: expandTabsFrom (column + 1) rest

def expandTabs (t : Text) : Text := expandTabsFrom 0 t

theorem expandTabsFrom_eq_self (t : Text) (h : .char '\t' ∉ t) :
    ∀ column, expandTabsFrom column t = t := by
  induction t with
  | nil => intro _; rfl
  | cons c rest ih =>
    intro column
    simp only [List.mem_cons, not_or] at h
    simp only [expandTabsFrom, ih h.2, if_neg (Ne.symm h.1)]
    split <;> rfl

theorem expandTabs_eq_self {t : Text} (h : .char '\t' ∉ t) : expandTabs t = t :=
  expandTabsFrom_eq_self t h 0

def line (t : Text) (offset : Nat) : Nat := (t.take offset).count (.char '\n') + 1

/-- One more than the characters between the last line feed in front of the place, or the start of
the text, and the place. The place may lie beyond the end of the text. -/
def column (t : Text) (offset : Nat) : Nat :=
  match (t.take offset).reverse.findIdx? (· == .char '\n') with
  | some k => k + 1 + (offset - t.length)
  | none => offset + 1

end FileTags.Text

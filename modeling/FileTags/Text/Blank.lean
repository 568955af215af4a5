import FileTags.Text.Ranges

/-!
# Blanks

Two kinds of space meet in tags and search terms. A *blank* is any space of Unicode 14; names and
patterns end in front of one. A *gap* character is one of the four that may stand between two
tokens.
-/

set_option autoImplicit false

namespace FileTags.Text

def blankRanges : Ranges :=
  [(9, 13), (28, 32), (133, 133), (160, 160), (5760, 5760), (8192, 8202), (8232, 8233),
    (8239, 8239), (8287, 8287), (12288, 12288)]

def isBlankCode (n : Nat) : Bool := inRanges n blankRanges

def isBlank (c : Rune) : Bool := isBlankCode c.toNat

def isGap (c : Rune) : Bool := c == ' ' || c == '\n' || c == '\r' || c == '\t'

theorem isBlank_of_isGap {c : Rune} (h : isGap c = true) : isBlank c = true := by
  simp only [isGap, Bool.or_eq_true, beq_iff_eq] at h
  rcases h with ((rfl | rfl) | rfl) | rfl <;> decide

def dropTrailing (p : Rune → Bool) (t : Text) : Text := (t.reverse.dropWhile p).reverse

def stripOf (p : Rune → Bool) (t : Text) : Text := dropTrailing p (t.dropWhile p)

def strip (t : Text) : Text := stripOf isBlank t

def skipGap (t : Text) : Text := t.dropWhile isGap

def startsWith : Text → Text → Bool
  | _, [] => true
  | [], _ :: _ => false
  | c :: cs, d :: ds => c == d && startsWith cs ds

theorem startsWith_append (t u : Text) : startsWith (t ++ u) t = true := by
  induction t with
  | nil => cases u <;> rfl
  | cons c cs ih => simp [startsWith, ih]

end FileTags.Text

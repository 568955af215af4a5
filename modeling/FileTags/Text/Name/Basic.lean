import FileTags.Text.Blank
import FileTags.Text.Split

/-!
# Runs of names

The names of characters with neighbouring code points often start with the same words. A run holds
the first code point, those words, and what follows them for one code point after the other,
separated by commas.
-/

set_option autoImplicit false

namespace FileTags.Text

structure NameRun where
  first : Nat
  stem : String
  endings : List String

namespace NameRun

def ending? (r : NameRun) (name : Text) : Option Text :=
  if r.stem = "" then some name
  else
    let stem := ofString r.stem ++ [.char ' ']
    if startsWith name stem then some (name.drop stem.length) else none

def find? (r : NameRun) (name : Text) : Option Nat := do
  let ending ← r.ending? name
  let n ← (r.endings.flatMap fun part => split (.char ',') (ofString part)).findIdx? (· == ending)
  return r.first + n

end NameRun

end FileTags.Text

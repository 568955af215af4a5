import FileTags.Text.Ranges

/-!
# Splitting texts
-/

set_option autoImplicit false

namespace FileTags.Text

def split {α : Type} [DecidableEq α] (sep : α) : List α → List (List α)
  | [] => [[]]
  | c :: rest =>
    if c = sep then [] :: split sep rest
    else
      match split sep rest with
      | [] => [[c]]
      | part :: parts => (c :: part) :: parts

end FileTags.Text

import FileTags.Pattern.Anchored
import FileTags.TagMap.Basic
import FileTags.Text.Numeral

/-!
# Renaming tags

A replacement is a text with references to the groups of a match: `$1` or `$name`, with the name in
braces where it would run on, and `$$` for the sign itself. It is read once from left to right; what
a group has captured is put in as it is.
-/

set_option autoImplicit false

namespace FileTags

inductive Piece
  | literal (c : Rune)
  | reference (name : Text)
  deriving DecidableEq, Repr

namespace Template

open Text

def isNameChar (c : Rune) : Bool :=
  isDigit c || ('a' ≤ c && c ≤ 'z') || ('A' ≤ c && c ≤ 'Z') || c == '_'

/-- What a dollar sign means in front of a text, and how much of the text belongs to it. -/
def afterDollar (t : Text) : Piece × Nat :=
  let bare : Piece × Nat :=
    let name := t.takeWhile isNameChar
    if name.isEmpty then (.literal '$', 0) else (.reference name, name.length)
  match t with
  | '$' :: _ => (.literal '$', 1)
  | '\x7b' :: rest =>
    let name := rest.takeWhile isNameChar
    match rest.drop name.length with
    | '\x7d' :: _ => if name.isEmpty then bare else (.reference name, name.length + 2)
    | _ => bare
  | _ => bare

/-- The pieces of a template; the number says how many characters belong to the piece read last. -/
def piecesFrom : Nat → Text → List Piece
  | _, [] => []
  | pending + 1, _ :: rest => piecesFrom pending rest
  | 0, c :: rest =>
    if c = '$' then (afterDollar rest).1 :: piecesFrom (afterDollar rest).2 rest
    else .literal c :: piecesFrom 0 rest

def pieces (t : Text) : List Piece := piecesFrom 0 t

/-- Digits name a group by its number, anything else by its name. What did not take part, or does
not exist, is empty. -/
def pieceText (m : Match) : Piece → Except TooManyDigits Text
  | .literal c => .ok [c]
  | .reference name =>
    if name.all isDigit then (readNatural name).map fun n => (m.group? n).getD []
    else .ok ((m.named? name).getD [])

def expandPieces (m : Match) : List Piece → Except TooManyDigits Text
  | [] => .ok []
  | p :: ps => do return (← pieceText m p) ++ (← expandPieces m ps)

def expand (m : Match) (template : Text) : Except TooManyDigits Text :=
  expandPieces m (pieces template)

end Template

namespace TagMap

def renamedEntries (find : Pattern) (replace : Text) :
    List (Text × Option Text) → Except Text.TooManyDigits (List (Text × Option Text))
  | [] => .ok []
  | (name, value) :: es => do
    let renamed ← match find.fullMatch? name with
      | some m => Template.expand m replace
      | none => .ok name
    return (renamed, value) :: (← renamedEntries find replace es)

/-- Every name that the pattern matches in full becomes the text of the replacement. Where names
meet, the one that comes last keeps its value. -/
def rename (find : Pattern) (replace : Text) (m : TagMap) : Except Text.TooManyDigits TagMap :=
  (renamedEntries find replace m.entries).map ofList

end TagMap

end FileTags

import FileTags.Text.Blank

/-!
# Lexemes of search terms

Patterns are written raw, so they share characters with the operators around them. The functions
here measure lexemes at the head of a text: a character class, a pattern, a word operator, a
bookmark, and the group that an opening parenthesis starts. In a pattern, escapes and classes are
taken verbatim and parentheses have to balance; blanks, the connectives `&&` and `||` and, outside
of parentheses, the comparison operators end it.
-/

set_option autoImplicit false

namespace FileTags.Term

open Text

/-- The length of the rest of a class, closing bracket included. A blank that is not escaped breaks
the class off. -/
def classRest? : Text → Option Nat
  | [] => none
  | ['\\'] => none
  | '\\' :: _ :: rest => (classRest? rest).map (· + 2)
  | c :: rest =>
    if isBlank c then none
    else if c = ']' then some 1 else (classRest? rest).map (· + 1)

/-- The length of the class whose opening bracket stands in front of the text. A closing bracket
that comes first, or right after a caret, is a member. -/
def classLength? (inside : Text) : Option Nat :=
  match inside with
  | '^' :: ']' :: rest => (classRest? rest).map (· + 3)
  | '^' :: rest => (classRest? rest).map (· + 2)
  | ']' :: rest => (classRest? rest).map (· + 2)
  | rest => (classRest? rest).map (· + 1)

def startsConnective (t : Text) : Bool := startsWith t ['&', '&'] || startsWith t ['|', '|']

def startsOperator (t : Text) : Bool :=
  startsConnective t || startsWith t ['=', '='] || startsWith t ['!', '='] || startsWith t ['<'] ||
    startsWith t ['>']

/-- The length of the longest run that a pattern can be, at a depth of open parentheses. The number
says how many characters belong to what has been read already. There is no run when a class does not
close or the parentheses do not balance. -/
def runLength? (depth : Nat) : Nat → Text → Option Nat
  | _, [] => if depth = 0 then some 0 else none
  | pending + 1, _ :: rest => (runLength? depth pending rest).map (· + 1)
  | 0, c :: rest =>
    if c = '\\' then
      if rest.isEmpty then runEnd depth else (runLength? depth 1 rest).map (· + 1)
    else if c = '[' then
      match classLength? rest with
      | some n => (runLength? depth (n - 1) rest).map (· + 1)
      | none => none
    else if isBlank c || startsConnective (c :: rest) then runEnd depth
    else if depth = 0 && startsOperator (c :: rest) then runEnd depth
    else if c = '(' then (runLength? (depth + 1) 0 rest).map (· + 1)
    else if c = ')' then
      match depth with
      | 0 => runEnd 0
      | depth + 1 => (runLength? depth 0 rest).map (· + 1)
    else (runLength? depth 0 rest).map (· + 1)
where
  runEnd (depth : Nat) : Option Nat := if depth = 0 then some 0 else none

def keywords : List Text := ["AND", "and", "OR", "or", "NOT", "not"].map ofString

/-- The length of the pattern at the head of a text. It is not empty and no keyword. -/
def patternLength? (t : Text) : Option Nat :=
  match runLength? 0 0 t with
  | some n => if n = 0 ∨ t.take n ∈ keywords then none else some n
  | none => none

/-- The distance to the parenthesis that closes the first one of the text. Escapes, classes and what
stands in braces are passed over. -/
def closeDistance? (depth : Int) : Nat → Text → Option Nat
  | _, [] => none
  | pending + 1, _ :: rest => (closeDistance? depth pending rest).map (· + 1)
  | 0, c :: rest =>
    if c = '\\' then (closeDistance? depth 1 rest).map (· + 1)
    else if c = '[' then (closeDistance? depth (((classLength? rest).getD 1) - 1) rest).map (· + 1)
    else if c = .char '\x7b' then
      (closeDistance? depth (((rest.findIdx? (· == .char '\x7d')).map (· + 1)).getD 0) rest).map
      (· + 1)
    else if c = '(' then (closeDistance? (depth + 1) 0 rest).map (· + 1)
    else if c = ')' then if depth = 1 then some 0
      else (closeDistance? (depth - 1) 0 rest).map (· + 1)
    else (closeDistance? depth 0 rest).map (· + 1)

def groupClose? (t : Text) (offset : Nat) : Option Nat :=
  (closeDistance? 0 0 (t.drop offset)).map (· + offset)

/-- Whether a word operator may end here: in front of a blank, a parenthesis, a brace or an
exclamation mark. -/
def endsWord : Text → Bool
  | c :: _ => isBlank c || c == '(' || c == '\x7b' || c == '!'
  | [] => false

def isWordOperator (upper lower : Text) (t : Text) : Bool :=
  (startsWith t upper || startsWith t lower) && endsWord (t.drop upper.length)

def andLength? (t : Text) : Option Nat :=
  if isWordOperator ['A', 'N', 'D'] ['a', 'n', 'd'] t then some 3
  else if startsWith t ['&', '&'] then some 2
  else none

def orLength? (t : Text) : Option Nat :=
  if isWordOperator ['O', 'R'] ['o', 'r'] t || startsWith t ['|', '|'] then some 2 else none

def notLength? (t : Text) : Option Nat :=
  if isWordOperator ['N', 'O', 'T'] ['n', 'o', 't'] t then some 3
  else if startsWith t ['!'] && !startsWith t ['!', '='] then some 1
  else none

def mayFollowGroup (t : Text) : Bool :=
  match skipGap t with
  | [] => true
  | ')' :: _ => true
  | rest => (andLength? rest).isSome || (orLength? rest).isSome

/-- A parenthesis opens a group when it closes and what may follow a group stands behind it.
Otherwise it belongs to a pattern. -/
def opensGroup (t : Text) : Bool :=
  startsWith t ['('] &&
    match groupClose? t 0 with
    | some close => mayFollowGroup (t.drop (close + 1))
    | none => false

/-- The name in braces at the head of a text, without the blanks around it, and the length of the
whole. -/
def bookmark? : Text → Option (Text × Nat)
  | '\x7b' :: rest =>
    let inside := rest.takeWhile fun c => c != .char '\x7b' && c != .char '\x7d'
    match rest.drop inside.length with
    | .char '\x7d' :: _ => if inside.isEmpty then none else some (strip inside, inside.length + 2)
    | _ => none
  | _ => none

end FileTags.Term

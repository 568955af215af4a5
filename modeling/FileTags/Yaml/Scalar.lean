import FileTags.Yaml.Cursor
import FileTags.Yaml.Token

/-!
# Scalars of YAML

Scalars stand between quotes, in indented blocks, or plain. In quotes and in plain scalars a line
break reads as a space and further ones as themselves; blocks keep theirs, or fold them. The number
that each reader takes first bounds its steps; the characters ahead are enough.
-/

set_option autoImplicit false

namespace FileTags.Yaml

def isHexDigit (c : Rune) : Bool := Text.isDigit c || ('a' ≤ c && c ≤ 'f') || ('A' ≤ c && c ≤ 'F')

def hexDigitValue (c : Rune) : Nat :=
  if Text.isDigit c then c.toNat - 48 else if 'a' ≤ c then c.toNat - 87 else c.toNat - 55

def hexValue (t : Text) : Nat := t.foldl (fun n c => 16 * n + hexDigitValue c) 0

def foldBreaks (first further : Text) : Text :=
  if first != [.char '\n'] then first ++ further
  else if further.isEmpty then [.char ' '] else further

/-! ## Quotes -/

def quotedBreaks : Nat → Cursor → Except YamlFault (Text × Cursor)
  | 0, _ => .error .malformed
  | fuel + 1, c =>
    if c.atMarker then .error .malformed
    else
      let c := c.skip fun x => x == ' ' || x == '\t'
      if isBreak c.peek then do
        let (first, c) := c.lineBreak
        let (further, c) ← quotedBreaks fuel c
        return (first ++ further, c)
      else return ([], c)

def escape? (c : Rune) : Option Rune :=
  match c with
  | '0' => some '\x00'
  | 'a' => some '\x07'
  | 'b' => some '\x08'
  | 't' | '\t' => some '\t'
  | 'n' => some '\n'
  | 'v' => some '\x0b'
  | 'f' => some '\x0c'
  | 'r' => some '\r'
  | 'e' => some '\x1b'
  | ' ' | '"' | '\\' | '/' => some c
  | 'N' => some '\x85'
  | '_' => some '\xa0'
  | 'L' => some '\u2028'
  | 'P' => some '\u2029'
  | _ => none

def escapeWidth? (c : Rune) : Option Nat :=
  match c with
  | 'x' => some 2
  | 'u' => some 4
  | 'U' => some 8
  | _ => none

def readEscape (fuel : Nat) (c : Cursor) : Except YamlFault (Text × Cursor) :=
  match escape? c.peek, escapeWidth? c.peek with
  | some x, _ => .ok ([x], c.step)
  | none, some width =>
    let digits := c.step.rest.take width
    if digits.length < width || !digits.all isHexDigit then .error .malformed
    else if hexValue digits > 1114111 then .error .noCharacter
    else .ok ([.ofNat (hexValue digits)], c.forward (width + 1))
  | none, none => if isBreak c.peek then quotedBreaks fuel c.lineBreak.2 else .error .malformed

def readQuoted (quote : Rune) : Nat → Cursor → Except YamlFault (Text × Cursor)
  | 0, _ => .error .malformed
  | fuel + 1, c =>
    let more (part : Text) (c : Cursor) : Except YamlFault (Text × Cursor) := do
      let (rest, c) ← readQuoted quote fuel c
      return (part ++ rest, c)
    if c.peek = '\x00' then .error .malformed
    else if c.peek = quote then
      if quote = '\'' && c.peekAt 1 == '\'' then more ['\''] (c.forward 2) else .ok ([], c.step)
    else if c.peek = '\\' && quote == '"' then do
      let (part, c) ← readEscape (fuel + 1) c.step
      more part c
    else if c.peek = ' ' || c.peek = '\t' || isBreak c.peek then
      let (blanks, after) := c.span fun x => x == ' ' || x == '\t'
      if isBreak after.peek then do
        let (first, after) := after.lineBreak
        let (further, after) ← quotedBreaks (fuel + 1) after
        more (foldBreaks first further) after
      else more blanks after
    else more [c.peek] c.step

/-! ## Blocks -/

inductive Chomping
  | clip
  | strip
  | keep
  deriving DecidableEq, Repr

def chomping? (c : Rune) : Option Chomping :=
  if c = '+' then some .keep else if c = '-' then some .strip else none

def blockHeader (c : Cursor) : Except YamlFault (Chomping × Option Nat × Cursor) :=
  let digit? (c : Cursor) : Option Nat :=
    if Text.isDigit c.peek then some (Text.digitValue c.peek) else none
  let (chomping, width, c) :=
    match chomping? c.peek with
    | some k =>
      match digit? c.step with
      | some n => (k, some n, c.forward 2)
      | none => (k, none, c.step)
    | none =>
      match digit? c with
      | some n =>
        match chomping? (c.peekAt 1) with
        | some k => (k, some n, c.forward 2)
        | none => (.clip, some n, c.step)
      | none => (.clip, none, c)
  if width = some 0 || !isSpaceOrEnd c.peek then .error .malformed
  else
    let c := c.skipSpaces.skipComment
    if isEnd c.peek then .ok (chomping, width, c.lineBreak.2) else .error .malformed

def blockIndentation : Nat → Nat → Cursor → Text × Nat × Cursor
  | 0, deepest, c => ([], deepest, c)
  | fuel + 1, deepest, c =>
    if c.peek = ' ' then blockIndentation fuel (max deepest c.step.column) c.step
    else if isBreak c.peek then
      let (first, c) := c.lineBreak
      let (breaks, deepest, c) := blockIndentation fuel deepest c
      (first ++ breaks, deepest, c)
    else ([], deepest, c)

def skipIndent : Nat → Cursor → Cursor
  | 0, c => c
  | n + 1, c => if c.peek = ' ' then skipIndent n c.step else c

def blockBreaks (indent : Nat) : Nat → Cursor → Text × Cursor
  | 0, c => ([], c)
  | fuel + 1, c =>
    let c := skipIndent (indent - c.column) c
    if isBreak c.peek then
      let (first, c) := c.lineBreak
      let (breaks, c) := blockBreaks indent fuel c
      (first ++ breaks, c)
    else ([], c)

/-- The lines of a block: its text without what stands at its end, the break behind its last line,
and the breaks behind that. -/
def blockLines (folded : Bool) (indent : Nat) : Nat → Text → Cursor → Text × Text × Text × Cursor
  | 0, breaks, c => ([], [], breaks, c)
  | fuel + 1, breaks, c =>
    if c.column = indent && c.peek != '\x00' then
      let isBlank (x : Rune) : Bool := x == ' ' || x == '\t'
      let (line, after) := c.span fun x => !isEnd x
      let (ending, after) := after.lineBreak
      let (further, after) := blockBreaks indent (fuel + 1) after
      if after.column = indent && after.peek != '\x00' then
        let between :=
          if folded && ending == [.char '\n'] && !isBlank c.peek && !isBlank after.peek then
            (if further.isEmpty then [.char ' '] else [])
          else ending
        let (text, last, tail, c) := blockLines folded indent fuel further after
        (breaks ++ line ++ between ++ text, last, tail, c)
      else (breaks ++ line, ending, further, after)
    else ([], [], breaks, c)

/-- A block, from behind its sign on. Its lines are indented more than `parent`, the column of what
holds it. -/
def readBlock (folded : Bool) (parent : Int) (c : Cursor) : Except YamlFault (Text × Cursor) := do
  let (chomping, width, c) ← blockHeader c
  let fuel := c.rest.length + 1
  let least := (max (parent + 1) 1).toNat
  let (indent, breaks, c) :=
    match width with
    | some n =>
      let (breaks, c) := blockBreaks (least + n - 1) fuel c
      (least + n - 1, breaks, c)
    | none =>
      let (breaks, deepest, c) := blockIndentation fuel 0 c
      (max least deepest, breaks, c)
  let (text, last, tail, c) := blockLines folded indent fuel breaks c
  let ending :=
    match chomping with
    | .strip => []
    | .clip => last
    | .keep => last ++ tail
  return (text ++ ending, c)

/-! ## Plain scalars -/

def plainWord (inFlow : Bool) : Text → Text
  | [] => []
  | x :: rest =>
    let next := rest.headD '\x00'
    let ends :=
      isGapOrEnd x ||
        (x == ':' &&
        (isGapOrEnd next || (inFlow && (Text.ofString ",[]\x7b\x7d").contains next))) ||
      (inFlow && (Text.ofString ",?[]\x7b\x7d").contains x)
    if ends then [] else x :: plainWord inFlow rest

/-- The blanks and breaks behind a line break in a plain scalar; `none` when a line that parts
documents comes. -/
def plainBreaks : Nat → Cursor → Option Text × Cursor
  | 0, c => (none, c)
  | fuel + 1, c =>
    if c.atMarker && c.column == 0 then (none, c)
    else
      let c := c.skipSpaces
      if isBreak c.peek then
        let (first, c) := c.lineBreak
        let (further, c) := plainBreaks fuel c
        (further.map (first ++ ·), c)
      else (some [], c)

/-- What stands between two words of a plain scalar, empty when it ends here, and whether a line has
ended. -/
def plainSpaces (c : Cursor) : Text × Bool × Cursor :=
  let (spaces, after) := c.span (· == ' ')
  if isBreak after.peek then
    let (first, after) := after.lineBreak
    match plainBreaks (after.rest.length + 1) after with
    | (some further, after) => (foldBreaks first further, true, after)
    | (none, after) => ([], true, after)
  else (spaces, false, after)

/-- A plain scalar, whether a line has ended behind its last word, and the cursor behind that. The
blanks in front of a word, and whether they hold the end of a line, come from the word before. -/
def readPlain (inFlow : Bool) (indent : Int) : Nat → Text → Bool → Cursor → Text × Bool × Cursor
  | 0, _, ended, c => ([], ended, c)
  | fuel + 1, spaces, ended, c =>
    let word := if c.peek = '#' then [] else plainWord inFlow c.rest
    if word.isEmpty then ([], ended, c)
    else
      let (between, ended, after) := plainSpaces (c.forward word.length)
      if between.isEmpty || after.peek = '#' ||
        (!inFlow && (after.column : Int) < indent) then (spaces ++ word, ended, after)
      else
        let (text, ended, c) := readPlain inFlow indent fuel between ended after
        (spaces ++ word ++ text, ended, c)

end FileTags.Yaml

import FileTags.Text.Ranges

/-!
# Places in a YAML text

A cursor holds what is left of a text, how far it has gone, and its line and column. The end of the
text looks like a null character, which no YAML text holds.
-/

set_option autoImplicit false

namespace FileTags.Yaml

def isBreak (c : Rune) : Bool :=
  c == '\n' || c == '\r' || c == '\x85' || c == '\u2028' || c == '\u2029'

def isEnd (c : Rune) : Bool := c == '\x00' || isBreak c

def isSpaceOrEnd (c : Rune) : Bool := c == ' ' || isEnd c

def isGapOrEnd (c : Rune) : Bool := c == '\t' || isSpaceOrEnd c

def printableRanges : Text.Ranges :=
  [(9, 10), (13, 13), (32, 126), (133, 133), (160, 55295), (57344, 65533), (65536, 1114111)]

def isPrintable (c : Rune) : Bool := Text.inRanges c.toNat printableRanges

structure Cursor where
  rest : Text
  index : Nat
  line : Nat
  column : Nat

namespace Cursor

def ofText (t : Text) : Cursor := ⟨t, 0, 0, 0⟩

def peek (c : Cursor) : Rune := c.rest.headD '\x00'

def peekAt (c : Cursor) (n : Nat) : Rune := (c.rest.drop n).headD '\x00'

def step (c : Cursor) : Cursor :=
  match c.rest with
  | [] => c
  | x :: rest =>
    if isBreak x then ⟨rest, c.index + 1, c.line + 1, 0⟩
    else ⟨rest, c.index + 1, c.line, if x = '\ufeff' then c.column else c.column + 1⟩

def forward : Nat → Cursor → Cursor
  | 0, c => c
  | n + 1, c => forward n c.step

def span (p : Rune → Bool) (c : Cursor) : Text × Cursor :=
  let taken := c.rest.takeWhile p
  (taken, c.forward taken.length)

def skip (p : Rune → Bool) (c : Cursor) : Cursor := (c.span p).2

def skipSpaces (c : Cursor) : Cursor := c.skip (· == ' ')

def skipLine (c : Cursor) : Cursor := c.skip fun x => !isEnd x

def skipComment (c : Cursor) : Cursor := if c.peek = '#' then c.skipLine else c

def lineBreak (c : Cursor) : Text × Cursor :=
  if c.peek = '\r' && c.peekAt 1 == '\n' then (['\n'], c.forward 2)
  else if c.peek = '\u2028' || c.peek = '\u2029' then ([c.peek], c.step)
  else if isBreak c.peek then (['\n'], c.step)
  else ([], c)

def atMarker (c : Cursor) : Bool :=
  (c.rest.take 3 == [.char '-', .char '-', .char '-'] ||
    c.rest.take 3 == [.char '.', .char '.', .char '.']) && isGapOrEnd (c.peekAt 3)

end Cursor

end FileTags.Yaml

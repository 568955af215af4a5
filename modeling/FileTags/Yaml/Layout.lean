import FileTags.Yaml.Property

/-!
# The layout of a YAML text

Tokens are found one after another, from the characters ahead and the indentation. Whether a token
is the key of a map shows only at a colon behind it, so tokens that may be keys are held as pending,
one for each level of brackets. A pending key is given up when its line ends, or when it gets too
long; at the start of a block it must be a key. A colon settles the pending key. Settled keys are
noted by the number of their first token, and are put in place at the end, when `Layout.result`
lines the tokens up.
-/

set_option autoImplicit false

namespace FileTags.Yaml

structure PendingKey where
  number : Nat
  required : Bool
  index : Nat
  line : Nat
  column : Nat

/-- What is known at a place of a text. Tokens stand newest first; `pending` is of the innermost
brackets, `outer` of those around them. -/
structure Layout where
  cursor : Cursor
  tokens : List Token
  count : Nat
  indent : Int
  indents : List Int
  pending : Option PendingKey
  outer : List (Option PendingKey)
  allowsKey : Bool
  settled : List (Nat × Bool)

namespace Layout

def keyLengthLimit : Nat := 1024

def ofText (t : Text) : Layout := ⟨Cursor.ofText t, [], 0, -1, [], none, [], true, []⟩

def inFlow (l : Layout) : Bool := !l.outer.isEmpty

def emit (token : Token) (l : Layout) : Layout :=
  { l with tokens := token :: l.tokens, count := l.count + 1 }

def emitAt (token : Token) (n : Nat) (l : Layout) : Layout :=
  { l.emit token with cursor := l.cursor.forward n }

/-! ## Indentation -/

def closeBlocks (column : Int) : List Int → Layout → Layout
  | [], l => l
  | outer :: rest, l =>
    if l.indent ≤ column then l
    else closeBlocks column rest { l.emit .blockEnd with indent := outer, indents := rest }

def unwind (column : Int) (l : Layout) : Layout :=
  if l.inFlow then l else closeBlocks column l.indents l

def opensBlock (column : Nat) (l : Layout) : Bool := l.indent < (column : Int)

def indentTo (column : Nat) (l : Layout) : Layout :=
  { l with indents := l.indent :: l.indents, indent := column }

def openBlock (start : Token) (l : Layout) : Layout :=
  if l.opensBlock l.cursor.column then (l.emit start).indentTo l.cursor.column else l

/-! ## Pending keys -/

def isStale (l : Layout) (k : PendingKey) : Bool :=
  k.line != l.cursor.line || keyLengthLimit < l.cursor.index - k.index

def freshen (l : Layout) (k : Option PendingKey) : Except YamlFault (Option PendingKey) :=
  match k with
  | none => .ok none
  | some k => if !l.isStale k then .ok (some k) else if k.required then .error .malformed
      else .ok none

def dropStale (l : Layout) : Except YamlFault Layout := do
  return { l with pending := ← l.freshen l.pending, outer := ← l.outer.mapM l.freshen }

def dropKey (l : Layout) : Except YamlFault Layout :=
  if l.pending.any (·.required) then .error .malformed else .ok { l with pending := none }

def holdKey (l : Layout) : Except YamlFault Layout :=
  if l.allowsKey then do
    let l ← l.dropKey
    let required := !l.inFlow && l.indent == (l.cursor.column : Int)
    return { l with
      pending := some ⟨l.count, required, l.cursor.index, l.cursor.line, l.cursor.column⟩ }
  else .ok l

/-! ## Tokens -/

def skipLines : Nat → Layout → Layout
  | 0, l => l
  | fuel + 1, l =>
    let c := l.cursor.skipSpaces.skipComment
    if isBreak c.peek then
      skipLines fuel
        { l with cursor := c.lineBreak.2, allowsKey := l.allowsKey || !l.inFlow }
    else { l with cursor := c }

def toToken (l : Layout) : Layout :=
  let l :=
    if l.cursor.index = 0 && l.cursor.peek == '\ufeff' then { l with cursor := l.cursor.step }
    else l
  l.skipLines (l.cursor.rest.length + 1)

def outermost (l : Layout) : Except YamlFault Layout := do
  let l ← (l.unwind (-1)).dropKey
  return { l with allowsKey := false }

def directive (l : Layout) : Except YamlFault Layout := do
  let l ← l.outermost
  let (token, c) ← readDirective l.cursor
  return { l.emit token with cursor := c }

def marker (token : Token) (l : Layout) : Except YamlFault Layout := do
  return (← l.outermost).emitAt token 3

def openFlow (token : Token) (l : Layout) : Except YamlFault Layout := do
  let l ← l.holdKey
  return { l.emitAt token 1 with pending := none, outer := l.pending :: l.outer, allowsKey := true }

def closeFlow (token : Token) (l : Layout) : Except YamlFault Layout := do
  let l ← l.dropKey
  match l.outer with
  | [] => .error .malformed
  | pending :: outer =>
    return { l.emitAt token 1 with pending := pending, outer := outer, allowsKey := false }

def flowEntry (l : Layout) : Except YamlFault Layout := do
  return (← { l with allowsKey := true }.dropKey).emitAt .flowEntry 1

/-- The start of a block in front of an item or a key that is written with its sign. -/
def blockFor (start : Token) (l : Layout) : Except YamlFault Layout :=
  if l.inFlow then .ok l else if l.allowsKey then .ok (l.openBlock start) else .error .malformed

def blockEntry (l : Layout) : Except YamlFault Layout := do
  let l ← l.blockFor .blockSequenceStart
  return (← { l with allowsKey := true }.dropKey).emitAt .blockEntry 1

def explicitKey (l : Layout) : Except YamlFault Layout := do
  let l ← l.blockFor .blockMappingStart
  return (← { l with allowsKey := !l.inFlow }.dropKey).emitAt .key 1

/-- Notes the pending key as a key, with the start of a map if it is the first one. -/
def settle (k : PendingKey) (l : Layout) : Layout :=
  let starts := !l.inFlow && l.opensBlock k.column
  let l := if starts then l.indentTo k.column else l
  { l with settled := (k.number, starts) :: l.settled, pending := none, allowsKey := false }

def colon (l : Layout) : Except YamlFault Layout :=
  match l.pending with
  | some k => .ok ((l.settle k).emitAt .value 1)
  | none => do
    let l ← l.blockFor .blockMappingStart
    return { l with allowsKey := !l.inFlow }.emitAt .value 1

def content (read : Cursor → Except YamlFault (Token × Cursor)) (l : Layout) :
    Except YamlFault Layout := do
  let l ← l.holdKey
  let (token, c) ← read l.cursor
  return { l.emit token with cursor := c, allowsKey := false }

def named (make : Text → Token) (c : Cursor) : Except YamlFault (Token × Cursor) :=
  (readName c).map fun (name, after) => (make name, after)

def tagged (c : Cursor) : Except YamlFault (Token × Cursor) :=
  (readTag c).map fun (handle, suffix, after) => (.tag handle suffix, after)

def inQuotes (quote : Rune) (c : Cursor) : Except YamlFault (Token × Cursor) :=
  (readQuoted quote (c.rest.length + 1) c.step).map fun (part, after) =>
    (.scalar ⟨part, false⟩, after)

def block (folded : Bool) (l : Layout) : Except YamlFault Layout := do
  let l ← { l with allowsKey := true }.dropKey
  let (text, c) ← readBlock folded l.indent l.cursor.step
  return { l.emit (.scalar ⟨text, false⟩) with cursor := c }

def plain (l : Layout) : Except YamlFault Layout := do
  let l ← l.holdKey
  let (text, ended, c) :=
    readPlain l.inFlow (l.indent + 1) (l.cursor.rest.length + 1) [] false l.cursor
  return { l.emit (.scalar ⟨text, true⟩) with cursor := c, allowsKey := ended }

def startsPlain (l : Layout) : Bool :=
  let x := l.cursor.peek
  !(isGapOrEnd x || (Text.ofString "-?:,[]\x7b\x7d#&*!|>'\"%@\x60").contains x) ||
    (!isGapOrEnd (l.cursor.peekAt 1) && (x == '-' || (!l.inFlow && (x == '?' || x == ':'))))

def token (l : Layout) : Except YamlFault Layout :=
  let c := l.cursor
  let x := c.peek
  let isSign := isGapOrEnd (c.peekAt 1)
  if x = '%' && c.column == 0 then l.directive
  else if x = '-' && c.column == 0 && c.atMarker then l.marker .documentStart
  else if x = '.' && c.column == 0 && c.atMarker then l.marker .documentEnd
  else if x = '[' then l.openFlow .flowSequenceStart
  else if x = '\x7b' then l.openFlow .flowMappingStart
  else if x = ']' then l.closeFlow .flowSequenceEnd
  else if x = '\x7d' then l.closeFlow .flowMappingEnd
  else if x = ',' then l.flowEntry
  else if x = '-' && isSign then l.blockEntry
  else if x = '?' && (l.inFlow || isSign) then l.explicitKey
  else if x = ':' && (l.inFlow || isSign) then l.colon
  else if x = '*' then l.content (named .alias)
  else if x = '&' then l.content (named .anchor)
  else if x = '!' then l.content tagged
  else if x = '|' && !l.inFlow then l.block false
  else if x = '>' && !l.inFlow then l.block true
  else if x = '\'' || x = '"' then l.content (inQuotes x)
  else if l.startsPlain then l.plain
  else .error .malformed

/-- The start of a map, where one is due, and a key in front of the token with a number. -/
def keyAt (settled : List (Nat × Bool)) (number : Nat) : List Token :=
  match settled.lookup number with
  | none => []
  | some starts => if starts then [.blockMappingStart, .key] else [.key]

def lineUp (settled : List (Nat × Bool)) : Nat → List Token → List Token
  | _, [] => []
  | number, t :: ts => keyAt settled number ++ t :: lineUp settled (number + 1) ts

def result (l : Layout) : List Token := lineUp l.settled 0 l.tokens.reverse

def firm (l : Layout) : List Token :=
  let numbers := (l.pending :: l.outer).filterMap fun k => k.map (·.number)
  lineUp l.settled 0 (l.tokens.reverse.take (numbers.foldl min l.count))

/-- Reads on to the end of the text. A fault stands behind the tokens that are firm when it is
met. -/
def run : Nat → Layout → List Token
  | 0, l => l.firm ++ [.fault .malformed]
  | fuel + 1, l =>
    match l.toToken.dropStale with
    | .error e => l.firm ++ [.fault e]
    | .ok here =>
      let ready := here.unwind here.cursor.column
      if ready.cursor.rest.isEmpty then
        match ready.outermost with
        | .error e => here.firm ++ [.fault e]
        | .ok ended => (ended.emit .streamEnd).result
      else
        match ready.token with
        | .error e => here.firm ++ [.fault e]
        | .ok next => run fuel next

end Layout

def Token.all (t : Text) : List Token :=
  if t.all isPrintable then (Layout.ofText t).run (t.length + 1) else [.fault .malformed]

end FileTags.Yaml

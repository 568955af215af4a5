import FileTags.Yaml.Scalar

/-!
# Anchors, tags and directives of YAML

A node may have an anchor, by which aliases refer to it, and a tag, which says what it stands for. A
tag is written in full between angle brackets, or as a handle and a suffix. Directives in front of a
document give the version and the meaning of handles.
-/

set_option autoImplicit false

namespace FileTags.Yaml

def isNameChar (c : Rune) : Bool :=
  Text.isDigit c || ('a' ≤ c && c ≤ 'z') || ('A' ≤ c && c ≤ 'Z') || c == '-' || c == '_'

def isAddressChar (c : Rune) : Bool :=
  isNameChar c || (Text.ofString ";/?:@&=+$,.!~*'()[]%").contains c

def readName (c : Cursor) : Except YamlFault (Text × Cursor) :=
  let (name, after) := c.step.span isNameChar
  if name.isEmpty ||
      !(isGapOrEnd after.peek || (Text.ofString "?:,]\x7d%@\x60").contains after.peek) then
    .error .malformed
  else .ok (name, after)

/-! ## Tags -/

def escapedBytes : Nat → Cursor → Except YamlFault (Blob × Cursor)
  | 0, c => .ok ([], c)
  | fuel + 1, c =>
    if c.peek = '%' then
      let digits := c.step.rest.take 2
      if digits.length < 2 || !digits.all isHexDigit then .error .malformed
      else do
        let (bytes, after) ← escapedBytes fuel (c.forward 3)
        return (UInt8.ofNat (hexValue digits) :: bytes, after)
    else .ok ([], c)

def addressParts : Nat → Cursor → Except YamlFault (Text × Cursor)
  | 0, c => .ok ([], c)
  | fuel + 1, c =>
    if c.peek = '%' then do
      let (bytes, after) ← escapedBytes (fuel + 1) c
      match Utf8.decode bytes with
      | .error _ => .error .malformed
      | .ok t => do
        let (rest, after) ← addressParts fuel after
        return (t ++ rest, after)
    else if isAddressChar c.peek then do
      let (part, after) := c.span fun x => isAddressChar x && x != '%'
      let (rest, after) ← addressParts fuel after
      return (part ++ rest, after)
    else .ok ([], c)

def readAddress (c : Cursor) : Except YamlFault (Text × Cursor) :=
  if isAddressChar c.peek then addressParts (c.rest.length + 1) c else .error .malformed

def readHandle (c : Cursor) : Except YamlFault (Text × Cursor) :=
  if c.peek != '!' then .error .malformed
  else if c.peekAt 1 == ' ' then .ok (['!'], c.step)
  else
    let (name, after) := c.step.span isNameChar
    if after.peek = .char '!' then .ok (.char '!' :: name ++ [.char '!'], after.step)
    else .error .malformed

def hasHandle (c : Cursor) : Bool := (c.step.rest.takeWhile fun x => !isSpaceOrEnd x).contains '!'

def closed (c : Cursor) : Except YamlFault (Option Text × Text × Cursor) := do
  let (address, after) ← readAddress c
  if after.peek = '>' then return (none, address, after.step) else .error .malformed

def withSuffix (handle : Text) (c : Cursor) : Except YamlFault (Option Text × Text × Cursor) := do
  let (suffix, after) ← readAddress c
  return (some handle, suffix, after)

def readTag (c : Cursor) : Except YamlFault (Option Text × Text × Cursor) := do
  let (handle, suffix, after) ←
    if c.peekAt 1 == '<' then closed (c.forward 2)
    else if isGapOrEnd (c.peekAt 1) then .ok (none, ['!'], c.step)
    else if hasHandle c then (readHandle c).bind fun (handle, after) => withSuffix handle after
    else withSuffix ['!'] c.step
  if isSpaceOrEnd after.peek then return (handle, suffix, after) else .error .malformed

/-! ## Directives -/

def readVersionPart (c : Cursor) : Except YamlFault (Nat × Cursor) :=
  let (digits, after) := c.span Text.isDigit
  if digits.isEmpty then .error .malformed
  else
    match Text.readNatural digits with
    | .ok n => .ok (n, after)
    | .error e => .error (.tooManyDigits e)

def readVersion (c : Cursor) : Except YamlFault (Token × Cursor) := do
  let (major, c) ← readVersionPart c.skipSpaces
  if c.peek != '.' then .error .malformed
  else
    let (_, c) ← readVersionPart c.step
    if isSpaceOrEnd c.peek then return (.version major, c) else .error .malformed

def readTagHandle (c : Cursor) : Except YamlFault (Token × Cursor) := do
  let (handle, c) ← readHandle c.skipSpaces
  if c.peek != ' ' then .error .malformed
  else
    let (start, c) ← readAddress c.skipSpaces
    if isSpaceOrEnd c.peek then return (.tagHandle handle start, c) else .error .malformed

def readDirective (c : Cursor) : Except YamlFault (Token × Cursor) := do
  let (name, c) := c.step.span isNameChar
  if name.isEmpty || !isSpaceOrEnd c.peek then .error .malformed
  else
    let (token, c) ←
      if name == Text.ofString "YAML" then readVersion c
      else if name == Text.ofString "TAG" then readTagHandle c
      else .ok (.otherDirective, c.skipLine)
    let c := c.skipSpaces.skipComment
    if isEnd c.peek then return (token, c.lineBreak.2) else .error .malformed

end FileTags.Yaml

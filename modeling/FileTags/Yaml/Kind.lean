import FileTags.Text.Split
import FileTags.Yaml.Scalar

/-!
# Kinds of YAML values

A tag gives the kind of value that a node stands for. A plain scalar without a tag has the kind that
its form shows; what has the form of no other kind is a text. One line break at the end does not
count for the form.
-/

set_option autoImplicit false

namespace FileTags.Yaml

/-- The kinds of values. `merge` and `default` stand only for keys of maps, and `other` for nothing
known. -/
inductive Kind
  | null
  | bool
  | int
  | float
  | bytes
  | timestamp
  | orderedMap
  | pairs
  | set
  | text
  | sequence
  | map
  | merge
  | default
  | other
  deriving DecidableEq, Repr

namespace Kind

def names : List (String × Kind) :=
  [("null", .null), ("bool", .bool), ("int", .int), ("float", .float), ("binary", .bytes),
    ("timestamp", .timestamp), ("omap", .orderedMap), ("pairs", .pairs), ("set", .set),
    ("str", .text), ("seq", .sequence), ("map", .map), ("merge", .merge),
    ("value", .default)]

def namespaceText : Text := Text.ofString "tag:yaml.org,2002:"

def ofTag (tag : Text) : Kind :=
  ((names.find? fun e => namespaceText ++ Text.ofString e.1 == tag).map Prod.snd).getD .other

/-! ## Forms of plain scalars -/

def isOctal (c : Rune) : Bool := '0' ≤ c && c ≤ '7'

def isRun (p : Rune → Bool) (t : Text) : Bool := !t.isEmpty && t.all fun c => p c || c == '_'

def startsRun (p : Rune → Bool) : Text → Bool
  | [] => false
  | c :: rest => p c && rest.all fun d => Text.isDigit d || d == '_'

def isNonZero (c : Rune) : Bool := '1' ≤ c && c ≤ '9'

def dropSign : Text → Text
  | '+' :: rest => rest
  | '-' :: rest => rest
  | t => t

def isPlace : Text → Bool
  | [c] => Text.isDigit c
  | [c, d] => '0' ≤ c && c ≤ '5' && Text.isDigit d
  | _ => false

def isSexagesimal (first : Rune → Bool) (t : Text) : Bool :=
  match Text.split (.char ':') t with
  | whole :: place :: places => startsRun first whole && (place :: places).all isPlace
  | _ => false

def isInt (t : Text) : Bool :=
  match dropSign t with
  | ['0'] => true
  | '0' :: 'b' :: digits => isRun (fun c => c == '0' || c == '1') digits
  | '0' :: 'x' :: digits => isRun isHexDigit digits
  | '0' :: digits => isRun isOctal digits
  | digits => startsRun isNonZero digits || isSexagesimal isNonZero digits

def isExponent : Text → Bool
  | [] => true
  | e :: sign :: digits =>
    (e == 'e' || e == 'E') && (sign == '+' || sign == '-') && !digits.isEmpty &&
      digits.all Text.isDigit
  | _ => false

def isFraction (t : Text) : Bool := isExponent (t.dropWhile fun c => Text.isDigit c || c == '_')

def isInfinity (t : Text) : Bool := (["inf", "Inf", "INF"].map Text.ofString).contains t

def isNan (t : Text) : Bool := (["nan", "NaN", "NAN"].map Text.ofString).contains t

def isFloat (t : Text) : Bool :=
  let digits := dropSign t
  let whole := digits.takeWhile (· != .char '.')
  match digits.drop whole.length with
  | [] => false
  | _ :: fraction =>
    if whole.isEmpty then
      isInfinity fraction ||
        (digits.length == t.length &&
          (isNan fraction || (fraction.head?.any Text.isDigit && isFraction fraction)))
    else
      (startsRun Text.isDigit whole && isFraction fraction) ||
        (isSexagesimal Text.isDigit whole && fraction.all fun c => Text.isDigit c || c == .char '_')

def boolWords : List Text :=
  ["yes", "Yes", "YES", "no", "No", "NO", "true", "True", "TRUE", "false", "False", "FALSE", "on",
    "On", "ON",
    "off", "Off", "OFF"].map Text.ofString

def nullWords : List Text := ["", "~", "null", "Null", "NULL"].map Text.ofString

/-! ## Timestamps -/

structure Timestamp where
  year : Text
  month : Text
  day : Text
  time : Option (Text × Text × Text × Text)
  /-- The sign, hours and minutes that a zone is ahead; no sign for the zone of reference. -/
  zone : Option (Option Rune × Text × Text)

def digits? (least most : Nat) (t : Text) : Option (Text × Text) :=
  let found := (t.take most).takeWhile Text.isDigit
  if found.length < least then none else some (found, t.drop found.length)

def after? (c : Rune) : Text → Option Text
  | d :: rest => if d = c then some rest else none
  | [] => none

def isTimeGap (c : Rune) : Bool := c == ' ' || c == '\t'

def zoneMinutes? (t : Text) : Option Text :=
  match t with
  | [] => some []
  | ':' :: rest => do
    let (minutes, rest) ← digits? 2 2 rest
    if rest.isEmpty then some minutes else none
  | _ => none

def zone? (t : Text) : Option (Option (Option Rune × Text × Text)) :=
  match t.dropWhile isTimeGap with
  | [] => if t.isEmpty then some none else none
  | ['Z'] => some (some (none, [], []))
  | sign :: rest =>
    if sign = '+' || sign = '-' then do
      let (hours, rest) ← digits? 1 2 rest
      let minutes ← zoneMinutes? rest
      return some (some sign, hours, minutes)
    else none

def time? (t : Text) :
    Option ((Text × Text × Text × Text) × Option (Option Rune × Text × Text)) := do
  let (hour, t) ← digits? 1 2 t
  let (minute, t) ← digits? 2 2 (← after? ':' t)
  let (second, t) ← digits? 2 2 (← after? ':' t)
  let (fraction, t) := match t with
    | '.' :: rest => (rest.takeWhile Text.isDigit, rest.dropWhile Text.isDigit)
    | t => ([], t)
  let zone ← zone? t
  return ((hour, minute, second, fraction), zone)

def timestamp? (t : Text) : Option Timestamp := do
  let (year, t) ← digits? 4 4 t
  let (month, t) ← digits? 1 2 (← after? '-' t)
  let (day, t) ← digits? 1 2 (← after? '-' t)
  match t with
  | [] => return ⟨year, month, day, none, none⟩
  | c :: rest =>
    let rest ← if c = 'T' || c = 't' then some rest
      else if isTimeGap c then some (rest.dropWhile isTimeGap) else none
    let (time, zone) ← time? rest
    return ⟨year, month, day, some time, zone⟩

/-- A day alone is a timestamp in this form only with two digits for the month and the day. -/
def isTimestamp (t : Text) : Bool :=
  match timestamp? t with
  | none => false
  | some s => s.time.isSome || (s.month.length == 2 && s.day.length == 2)

def dropFinalBreak (t : Text) : Text := if t.getLast? = some '\n' then t.dropLast else t

def ofPlain (value : Text) : Kind :=
  let t := dropFinalBreak value
  if boolWords.contains t then .bool
  else if isFloat t then .float
  else if isInt t then .int
  else if t == Text.ofString "<<" then .merge
  else if nullWords.contains t && value != [.char '\n'] then .null
  else if isTimestamp t then .timestamp
  else if t == Text.ofString "=" then .default
  else if t == Text.ofString "!" || t == Text.ofString "&" || t == Text.ofString "*" then .other
  else .text

end Kind

end FileTags.Yaml

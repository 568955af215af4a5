import FileTags.Yaml.Kind
import FileTags.Yaml.Token
import FileTags.Text.LetterCase

/-!
# Numerals of YAML

Integers are written to base 2, 8, 10, 16 or 60, floats to base 10 or 60, with underscores anywhere.
A scalar that is tagged as a number need not have its form; then the digits of any script are read,
with blanks around them.
-/

set_option autoImplicit false

namespace FileTags.Yaml

/-! ## Digits -/

/-- A character as numerals are read: the digits of any script are as good as those of ASCII. -/
def plainDigit (c : Rune) : Rune :=
  match Text.decimalValue? c.toNat with
  | some n => .ofNat (48 + n)
  | none => c

def digitOf? (base : Nat) (c : Rune) : Option Nat :=
  let n :=
    if Text.isDigit c then c.toNat - 48
    else if 'a' ≤ c && c ≤ 'z' then c.toNat - 87
    else if 'A' ≤ c && c ≤ 'Z' then c.toNat - 55
    else base
  if n < base then some n else none

def signed (t : Text) : Bool × Text :=
  match t with
  | '-' :: rest => (true, rest)
  | '+' :: rest => (false, rest)
  | _ => (false, t)

def baseLetters (base : Nat) : Text :=
  if base = 2 then ['b', 'B'] else if base = 8 then ['o', 'O']
  else if base = 16 then ['x', 'X'] else []

def dropBase (base : Nat) (t : Text) : Text :=
  match t with
  | '0' :: c :: rest => if (baseLetters base).contains c then rest else t
  | _ => t

/-- An integer to a base. Only to base 10 is the number of digits limited. -/
def integer (base : Nat) (t : Text) : Except YamlFault Int :=
  let (negative, body) := signed ((Text.strip t).map plainDigit)
  let body := dropBase base body
  let digits := (body.takeWhile fun c => (digitOf? base c).isSome).filterMap (digitOf? base)
  if base = 10 ∧ digits.length > Text.digitLimit then .error (.tooManyDigits ⟨digits.length⟩)
  else if digits.isEmpty || digits.length < body.length then .error (.badInteger base t)
  else
    let n := digits.foldl (fun n d => base * n + d) 0
    .ok (if negative then -(n : Int) else n)

/-! ## Integers -/

/-- The sum of places, the last one counted once and each one before it sixty times as much. -/
def sexagesimal (places : List Int) : Int := places.foldl (fun n d => 60 * n + d) 0

def readInt (t : Text) : Except YamlFault Int := do
  let digits := t.filter (· != .char '_')
  if digits.isEmpty then .error .emptyNumeral
  else
    let (negative, body) := signed digits
    let n ← match body with
      | [] => .error .emptyNumeral
      | ['0'] => .ok 0
      | '0' :: 'b' :: rest => integer 2 rest
      | '0' :: 'x' :: rest => integer 16 rest
      | '0' :: _ => integer 8 body
      | _ =>
        if body.contains (.char ':') then
          (Text.split (.char ':') body).mapM (integer 10) |>.map sexagesimal
        else integer 10 body
    return if negative then -n else n

/-! ## Floats -/

/-- Exponents beyond this give infinity or zero, whatever the digits in front. -/
def exponentLimit : Nat := 400

def nearest (digits : Text) (exponent : Int) : Float :=
  let significant := digits.dropWhile (· == .char '0')
  let size := exponent + significant.length
  if significant.isEmpty || size < -(exponentLimit : Int) then 0
  else if size > exponentLimit then 1 / 0
  else Float.ofScientific (Text.naturalOf significant) (exponent < 0) exponent.natAbs

/-- The exponent of a float; `none` when there are signs that belong to none. -/
def exponent? (t : Text) : Option Int :=
  match t with
  | [] => some 0
  | e :: rest =>
    let (negative, digits) := signed rest
    if (e == 'e' || e == 'E') && !digits.isEmpty && digits.all Text.isDigit then
      let n : Int := Text.naturalOf digits
      some (if negative then -n else n)
    else none

def magnitude? (t : Text) : Option Float :=
  let word : Text := t.map fun c => .ofNat (Text.asciiLower c.toNat)
  if word == Text.ofString "inf" || word == Text.ofString "infinity" then some (1 / 0)
  else if word == Text.ofString "nan" then some (0 / 0)
  else
    let whole := t.takeWhile Text.isDigit
    let (fraction, rest) := match t.drop whole.length with
      | '.' :: rest => (rest.takeWhile Text.isDigit, rest.dropWhile Text.isDigit)
      | rest => ([], rest)
    if whole.isEmpty && fraction.isEmpty then none
    else (exponent? rest).map fun e => nearest (whole ++ fraction) (e - fraction.length)

def decimal (t : Text) : Except YamlFault Float :=
  let (negative, body) := signed ((Text.strip t).map plainDigit)
  match magnitude? body with
  | some x => .ok (if negative then -x else x)
  | none => .error (.badFloat t)

def placeLimit : Nat := 174

def sumPlaces (base sum : Float) : List Float → Float
  | [] => sum
  | x :: xs => sumPlaces (base * 60) (sum + x * base) xs

def lowered (t : Text) : Text :=
  t.flatMap fun c => if c = .char 'İ' then [.char 'i', .char '\u0307']
    else [.ofNat (Text.lower c.toNat)]

def readFloat (t : Text) : Except YamlFault Float := do
  let digits := lowered (t.filter (· != '_'))
  if digits.isEmpty then .error .emptyNumeral
  else
    let (negative, body) := signed digits
    let x ←
      if body == Text.ofString ".inf" then .ok (1 / 0)
      else if body == Text.ofString ".nan" then .ok (0 / 0)
      else if body.contains ':' then do
        let places ← (Text.split (.char ':') body).mapM decimal
        if places.length > placeLimit then .error .tooManyPlaces
        else .ok (sumPlaces 1 0 places.reverse)
      else decimal body
    return if negative then -x else x

end FileTags.Yaml

import FileTags.Text.Blank
import FileTags.Text.Decimal

/-!
# Integers as texts

A plain integer is an optional sign and digits of ASCII. Reading and writing stop at 4300 digits:
longer numerals are refused, whatever their value.
-/

set_option autoImplicit false

namespace FileTags.Text

def digitLimit : Nat := 4300

structure TooManyDigits where
  count : Nat
  deriving DecidableEq, Repr

def TooManyDigits.message (e : TooManyDigits) : String :=
  s!"Exceeds the limit (4300 digits) for integer string conversion: value has {e.count} digits; " ++
    "use sys.set_int_max_str_digits() to increase the limit"

def isDigit (c : Rune) : Bool := '0' ≤ c && c ≤ '9'

def digitValue (c : Rune) : Nat := c.toNat - 48

def naturalOf (digits : Text) : Nat := digits.foldl (fun n c => 10 * n + digitValue c) 0

def readNatural (digits : Text) : Except TooManyDigits Nat :=
  if digits.length > digitLimit then .error ⟨digits.length⟩ else .ok (naturalOf digits)

def signedDigits? (t : Text) : Option (Bool × Text) :=
  let (negative, digits) := match t with
    | '-' :: rest => (true, rest)
    | '+' :: rest => (false, rest)
    | other => (false, other)
  if !digits.isEmpty && digits.all isDigit then some (negative, digits) else none

/-- The value of a plain integer; `none` for any other text. -/
def readInteger (t : Text) : Except TooManyDigits (Option Int) :=
  match signedDigits? t with
  | none => .ok none
  | some (negative, digits) => (readNatural digits).map fun n =>
    some (if negative then -(n : Int) else n)

def scriptDigits? : Text → Option (List Nat)
  | [] => none
  | [c] => (decimalValue? c.toNat).map ([·])
  | c :: '_' :: rest => do return (← decimalValue? c.toNat) :: (← scriptDigits? rest)
  | c :: d :: rest => do return (← decimalValue? c.toNat) :: (← scriptDigits? (d :: rest))

/-- The value of a numeral that may stand between blanks, carry a plus sign, use the digits of any
script and hold single underscores. -/
def readLooseNatural? (t : Text) : Option Nat :=
  let body := strip t
  let digits := match body with
    | '+' :: rest => scriptDigits? rest
    | '-' :: rest => (scriptDigits? rest).filter fun ds => ds.all (· == 0)
    | other => scriptDigits? other
  (digits.filter fun ds => ds.length ≤ digitLimit).map fun ds => ds.foldl (fun n d => 10 * n + d) 0

end FileTags.Text

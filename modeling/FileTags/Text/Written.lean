import FileTags.Text.Printable
import FileTags.Text.Decimal

/-!
# Text shown in messages

A quoted text stands between single quotes, or between double quotes when it holds a single quote
and no double one. What does not print is written by its code point in the shortest of three widths.
-/

set_option autoImplicit false

namespace FileTags.Text

def hexDigit (n : Nat) : Rune := .char (Char.ofNat (if n < 10 then 48 + n else 87 + n))

def hex : Nat → Nat → Text
  | 0, _ => []
  | width + 1, n => hex width (n / 16) ++ [hexDigit (n % 16)]

def escaped (n : Nat) : Text :=
  if n < 256 then '\\' :: 'x' :: hex 2 n
  else if n < 65536 then '\\' :: 'u' :: hex 4 n
  else '\\' :: 'U' :: hex 8 n

def quotedRune (quote c : Rune) : Text :=
  if c = quote ∨ c = '\\' then ['\\', c]
  else if c = '\t' then ['\\', 't']
  else if c = '\n' then ['\\', 'n']
  else if c = '\r' then ['\\', 'r']
  else if isPrintable c.toNat then [c]
  else escaped c.toNat

def quoteFor (t : Text) : Rune := if t.contains '\'' && !t.contains '"' then '"' else '\''

def quoted (t : Text) : Text := quoteFor t :: t.flatMap (quotedRune (quoteFor t)) ++ [quoteFor t]

def ofNat (n : Nat) : Text := (Nat.toDigits 10 n).map .char

def ofInt : Int → Text
  | .ofNat n => ofNat n
  | .negSucc n => '-' :: ofNat (n + 1)

def join (sep : Text) : List Text → Text
  | [] => []
  | [t] => t
  | t :: ts => t ++ sep ++ join sep ts

end FileTags.Text

import FileTags.Pattern.Basic
import FileTags.Text.CharacterName
import FileTags.Text.Numeral

/-!
# Signs of pattern source

A pattern is written in signs: single characters, and a backslash with the character behind it.
Escapes and the members of a class are read off a sign and, where digits or a name belong to it, off
the signs that follow. Every reader here tells how many of the following signs it has taken.
-/

set_option autoImplicit false

namespace FileTags

inductive Sign
  | plain (c : Rune)
  | escaped (c : Rune)
  /-- A backslash with nothing behind it. -/
  | dangling
  deriving DecidableEq, Repr

namespace Sign

def written : Sign → Text
  | .plain c => [c]
  | .escaped c => ['\\', c]
  | .dangling => ['\\']

def ofText : Text → List Sign
  | [] => []
  | ['\\'] => [.dangling]
  | '\\' :: c :: rest => .escaped c :: ofText rest
  | c :: rest => .plain c :: ofText rest

def plain? : Sign → Option Rune
  | .plain c => some c
  | _ => none

end Sign

inductive PatternFault
  | malformed
  | repetitionTooLarge
  | tooManyDigits (e : Text.TooManyDigits)
  | conflictingFlags
  deriving DecidableEq, Repr

namespace Pattern

open Text

def octalValue? (c : Rune) : Option Nat := if '0' ≤ c ∧ c ≤ '7' then some (c.toNat - 48) else none

def hexValue? (c : Rune) : Option Nat :=
  if '0' ≤ c ∧ c ≤ '9' then some (c.toNat - 48)
  else if 'a' ≤ c ∧ c ≤ 'f' then some (c.toNat - 87)
  else if 'A' ≤ c ∧ c ≤ 'F' then some (c.toNat - 55)
  else none

def isLatinLetter (c : Rune) : Bool := ('a' ≤ c && c ≤ 'z') || ('A' ≤ c && c ≤ 'Z')

def leading (value? : Rune → Option Nat) : Nat → List Sign → List Nat
  | limit + 1, .plain c :: rest =>
    match value? c with
    | some v => v :: leading value? limit rest
    | none => []
  | _, _ => []

def numberIn (base : Nat) (digits : List Nat) : Nat := digits.foldl (fun n d => base * n + d) 0

def hexEscape (width : Nat) (rest : List Sign) : Except PatternFault (Nat × Nat) :=
  let digits := leading hexValue? width rest
  if digits.length = width ∧ numberIn 16 digits < 0x110000 then .ok (numberIn 16 digits, width)
  else .error .malformed

/-- What stands in front of the closing character, not empty, and the number of signs up to and with
that character. -/
def nameUntil (close : Rune) (rest : List Sign) : Except PatternFault (Text × Nat) :=
  let inside := rest.takeWhile (· != .plain close)
  if inside.isEmpty || inside.length == rest.length then .error .malformed
  else .ok (inside.flatMap Sign.written, inside.length + 1)

def nameEscape : List Sign → Except PatternFault (Nat × Nat)
  | .plain '\x7b' :: rest => do
    let (name, taken) ← nameUntil '\x7d' rest
    match characterNamed? name with
    | some code => .ok (code, taken + 1)
    | none => .error .malformed
  | _ => .error .malformed

def controlEscape? : Rune → Option Nat
  | 'a' => some 7
  | 'b' => some 8
  | 'f' => some 12
  | 'n' => some 10
  | 'r' => some 13
  | 't' => some 9
  | 'v' => some 11
  | _ => none

def categoryEscape? : Rune → Option (Category × Bool)
  | 'd' => some (.digit, false)
  | 'D' => some (.digit, true)
  | 's' => some (.space, false)
  | 'S' => some (.space, true)
  | 'w' => some (.word, false)
  | 'W' => some (.word, true)
  | _ => none

def assertionEscape? : Rune → Option Assertion
  | 'A' => some .textStart
  | 'Z' => some .textEnd
  | 'b' => some .wordEdge
  | 'B' => some .noWordEdge
  | _ => none

/-- Escapes that name a code point by number or by name, and those of characters that stand for
themselves. -/
def codeEscape (c : Rune) (rest : List Sign) : Except PatternFault (Nat × Nat) :=
  if c = 'x' then hexEscape 2 rest
  else if c = 'u' then hexEscape 4 rest
  else if c = 'U' then hexEscape 8 rest
  else if c = 'N' then nameEscape rest
  else if isLatinLetter c || isDigit c then .error .malformed
  else .ok (c.toNat, 0)

def octalEscape (first : Nat) (rest : List Sign) : Except PatternFault (Nat × Nat) :=
  let digits := leading octalValue? 2 rest
  let code := numberIn 8 (first :: digits)
  if code ≤ 255 then .ok (code, digits.length) else .error .malformed

def classMember : Sign → List Sign → Except PatternFault (ClassItem × Nat)
  | .plain c, _ => .ok (.single c.toNat, 0)
  | .dangling, _ => .error .malformed
  | .escaped c, rest =>
    match controlEscape? c, categoryEscape? c, octalValue? c with
    | some code, _, _ => .ok (.single code, 0)
    | none, some (kind, negated), _ => .ok (.category kind negated, 0)
    | none, none, some d => (octalEscape d rest).map fun r => (.single r.1, r.2)
    | none, none, none => (codeEscape c rest).map fun r => (.single r.1, r.2)

/-- The members of a class up to its closing bracket, and the signs behind it. A closing bracket in
front of all members is a member. -/
def classItems (seen : List ClassItem) :
    List Sign → Except PatternFault (List ClassItem × List Sign)
  | [] => .error .malformed
  | s :: rest =>
    if s = .plain ']' ∧ seen ≠ [] then .ok (seen.reverse, rest)
    else
      match classMember s rest with
      | .error e => .error e
      | .ok (item, taken) =>
        match _h : rest.drop taken with
        | .plain '-' :: .plain ']' :: after => .ok ((.single 45 :: item :: seen).reverse, after)
        | .plain '-' :: t :: after =>
          match classMember t after, item with
          | .error e, _ => .error e
          | .ok (.single hi, more), .single lo =>
            if hi < lo then .error .malformed
            else classItems (.range lo hi :: seen) (after.drop more)
          | .ok _, _ => .error .malformed
        | after => classItems (item :: seen) after
termination_by signs => signs.length
decreasing_by
  · have := congrArg List.length _h
    simp only [List.length_drop, List.length_cons] at this ⊢
    omega
  · have : (rest.drop taken).length ≤ rest.length := by simp
    simp_all only [List.length_cons]
    omega

def classOf (rest : List Sign) : Except PatternFault (Regex × Nat) :=
  let (negated, body) := match rest with
    | .plain '^' :: more => (true, more)
    | _ => (false, rest)
  (classItems [] body).map fun r => (.oneOf negated r.1, rest.length - r.2.length)

end Pattern

end FileTags

import FileTags.Term.Expr
import FileTags.Term.Lexeme

/-!
# Tokens of search terms

A term is cut into operators, parentheses and operands. Where several tokens could start, a group
comes before everything else and a pattern after everything else. An operand is a bookmark, a
pattern, or two patterns with a comparison operator between them.
-/

set_option autoImplicit false

namespace FileTags.Term

open Text

inductive Symbol
  | opening
  | closing
  | not
  | and
  | or
  deriving DecidableEq, Repr

def Symbol.written : Symbol → String
  | .opening => "("
  | .closing => ")"
  | .not => "NOT"
  | .and => "AND"
  | .or => "OR"

inductive Token
  | symbol (kind : Symbol) (offset : Nat)
  | operand (e : Expr)
  deriving Repr

def Token.start : Token → Nat
  | .symbol _ n => n
  | .operand e => e.start

def comparatorAt? (t : Text) : Option Comparator :=
  Comparator.all.find? fun c => startsWith t c.symbol

/-- The pattern or comparison at the head of a text, and its length. An operator without a value is
left standing; a pattern alone takes the gap behind it along. -/
def comparison? (offset : Nat) (t : Text) : Option (Expr × Nat) :=
  match patternLength? t with
  | none => none
  | some n =>
    let behind := skipGap (t.drop n)
    let whole : Option (Expr × Nat) :=
      match comparatorAt? behind with
      | none => none
      | some op =>
        let value := skipGap (behind.drop op.symbol.length)
        (patternLength? value).map fun m =>
          (.comparison offset (t.take n) op (value.take m), t.length - (value.drop m).length)
    some (whole.getD (.tag offset (t.take n), t.length - behind.length))

/-- The token at the head of a text that starts with no gap, and its length. An operator takes the
gap in front of it along, so its offset is the one `behind` the token before it. -/
def token? (behind offset : Nat) (t : Text) : Option (Token × Nat) :=
  if opensGroup t then some (.symbol .opening offset, 1)
  else if startsWith t [')'] then some (.symbol .closing offset, 1)
  else
    match notLength? t, andLength? t, orLength? t with
    | some n, _, _ => some (.symbol .not behind, n)
    | none, some n, _ => some (.symbol .and behind, n)
    | none, none, some n => some (.symbol .or behind, n)
    | none, none, none =>
      match bookmark? t with
      | some (name, n) => some (.operand (.bookmark offset name), n)
      | none => (comparison? offset t).map fun p => (.operand p.1, p.2)

/-- The tokens of a text, or the offset where no token can be read. `pending` characters belong to
the token read last, and `behind` is the offset behind it. -/
def tokensFrom (behind offset : Nat) : Nat → Text → Except Nat (List Token)
  | _, [] => .ok []
  | pending + 1, _ :: rest => tokensFrom behind (offset + 1) pending rest
  | 0, c :: rest =>
    if isGap c then tokensFrom behind (offset + 1) 0 rest
    else
      match token? behind offset (c :: rest) with
      | some (token, n) => (tokensFrom (offset + n) (offset + 1) (n - 1) rest).map (token :: ·)
      | none => .error offset

def tokens (t : Text) : Except Nat (List Token) :=
  let lead := (t.takeWhile isGap).length
  tokensFrom lead lead 0 (t.drop lead)

end FileTags.Term

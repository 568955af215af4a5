import FileTags.Pattern.Reading
import FileTags.Text.Alphanumeric
import FileTags.Text.Blank
import FileTags.Text.LetterCase

/-!
# Matching

A pattern is matched by recursion on its expression, with the rest of the match as a continuation: a
choice tries its next branch when the rest fails behind the first one. A repetition that may go on
without end stops behind an iteration that has taken nothing, so the characters that are left bound
the iterations.
-/

set_option autoImplicit false

namespace FileTags

open Text

/-- A place in the text and the marks that groups have set so far, newest first: group `n` sets mark
`2 * n` where it starts and mark `2 * n + 1` where it ends. -/
structure Cursor where
  pos : Nat
  marks : List (Nat × Nat)
  deriving DecidableEq, Repr

namespace Cursor

def start : Cursor := ⟨0, []⟩

def mark (c : Cursor) (m : Nat) : Cursor := { c with marks := (m, c.pos) :: c.marks }

def span? (c : Cursor) (n : Nat) : Option (Nat × Nat) :=
  match c.marks.lookup (2 * n), c.marks.lookup (2 * n + 1) with
  | some lo, some hi => if lo ≤ hi then some (lo, hi) else none
  | _, _ => none

end Cursor

def Category.holds (ascii : Bool) (n : Nat) : Category → Bool
  | .digit => if ascii then 48 ≤ n && n ≤ 57 else isDecimal n
  | .space => if ascii then n == 32 || (9 ≤ n && n ≤ 13) else isBlankCode n
  | .word => if ascii then isAsciiWord n else isWord n

def ClassItem.holds (ascii : Bool) (n : Nat) : ClassItem → Bool
  | .single code => n == code
  | .range lo hi => lo ≤ n && n ≤ hi
  | .category kind negated => kind.holds ascii n != negated

/-- The code points that a character stands for: itself, or all that differ from it in letter case
only. -/
def Mode.variants (m : Mode) (n : Nat) : List Nat :=
  if m.ignoreCase then (if m.ascii then asciiCaseVariants n else caseVariants n) else [n]

def Mode.form (m : Mode) (n : Nat) : Nat :=
  if m.ignoreCase then (if m.ascii then asciiLower n else lower n) else n

namespace Regex

variable (text : Array Rune)

def codeAt? (pos : Nat) : Option Nat := text[pos]?.map Rune.toNat

def takeOne (test : Nat → Bool) (k : Cursor → Option Cursor) (c : Cursor) : Option Cursor :=
  match codeAt? text c.pos with
  | some n => if test n then k { c with pos := c.pos + 1 } else none
  | none => none

def isWordAt (ascii : Bool) (pos : Nat) : Bool :=
  match codeAt? text pos with
  | some n => Category.word.holds ascii n
  | none => false

def holdsAt (mode : Mode) (pos : Nat) : Assertion → Bool
  | .textStart => pos == 0
  | .textEnd => pos == text.size
  | .lineStart => pos == 0 || (mode.multiLine && text[pos - 1]? == some '\n')
  | .lineEnd => pos == text.size ||
      (text[pos]? == some '\n' && (mode.multiLine || pos + 1 == text.size))
  | .wordEdge => text.size != 0 && isEdge
  | .noWordEdge => text.size != 0 && !isEdge
where
  isEdge : Bool := (pos != 0 && isWordAt text mode.ascii (pos - 1)) != isWordAt text mode.ascii pos

def repeatsAt (mode : Mode) (lo hi pos : Nat) : Bool :=
  (List.range (hi - lo)).all fun i =>
    match codeAt? text (lo + i), codeAt? text (pos + i) with
    | some a, some b => mode.form a == mode.form b
    | _, _ => false

def rounds (body : (Cursor → Option Cursor) → Cursor → Option Cursor) (k : Cursor → Option Cursor) :
    Nat → Cursor → Option Cursor
  | 0, c => k c
  | n + 1, c => body (rounds body k n) c

/-- At most `n` more rounds, as many as possible first. `last` is where the last round began. -/
def mostFirst (body : (Cursor → Option Cursor) → Cursor → Option Cursor)
    (k : Cursor → Option Cursor) :
    Nat → Option Nat → Cursor → Option Cursor
  | 0, _, c => k c
  | n + 1, last, c =>
    if last = some c.pos then k c
    else (body (mostFirst body k n (some c.pos)) c).orElse fun _ => k c

def fewestFirst (body : (Cursor → Option Cursor) → Cursor → Option Cursor)
    (k : Cursor → Option Cursor) :
    Nat → Option Nat → Cursor → Option Cursor
  | 0, _, c => k c
  | n + 1, last, c =>
    (k c).orElse fun _ =>
      if last = some c.pos then none else body (fewestFirst body k n (some c.pos)) c

def settledRounds (once : Cursor → Option Cursor) : Nat → Option Nat → Cursor → Cursor
  | 0, _, c => c
  | n + 1, last, c =>
    if last = some c.pos then c
    else
      match once c with
      | some next => settledRounds once n (some c.pos) next
      | none => c

/-- The rounds beyond the least number that can matter: as many as allowed, and where there is no
bound one for each character left and one more. -/
def spare (least : Nat) (most : Option Nat) (c : Cursor) : Nat :=
  match most with
  | some most => min (most - least) (text.size + 1 - c.pos)
  | none => text.size + 1 - c.pos

/-- Matches from a cursor on and hands each cursor it reaches to the rest, until the rest
succeeds. -/
def run : Regex → Mode → (Cursor → Option Cursor) → Cursor → Option Cursor
  | .empty, _, k, c => k c
  | .char code, mode, k, c => takeOne text (fun n => (mode.variants n).contains code) k c
  | .any, mode, k, c => takeOne text (fun n => mode.dotAll || n != 10) k c
  | .oneOf negated items, mode, k, c =>
    takeOne text
      (fun n => (mode.variants n).any (fun v => items.any (·.holds mode.ascii v)) != negated) k c
  | .assertion a, mode, k, c => if holdsAt text mode c.pos a then k c else none
  | .cat l r, mode, k, c => run l mode (run r mode k) c
  | .alt l r, mode, k, c => (run l mode k c).orElse fun _ => run r mode k c
  | .times .greedy least most body, mode, k, c =>
    rounds (run body mode)
      (fun d => mostFirst (run body mode) k (spare text least most d) none d) least c
  | .times .lazy least most body, mode, k, c =>
    rounds (run body mode)
      (fun d => fewestFirst (run body mode) k (spare text least most d) none d) least c
  | .times .possessive least most body, mode, k, c =>
    match rounds (fun k c => (run body mode some c).bind k) some least c with
    | some d => k (settledRounds (run body mode some) (spare text least most d) none d)
    | none => none
  | .capture n body, mode, k, c => run body mode (fun d => k (d.mark (2 * n + 1))) (c.mark (2 * n))
  | .scope on off body, mode, k, c => run body (mode.scoped on off) k c
  | .atomic body, mode, k, c => (run body mode some c).bind k
  | .look ahead positive width body, mode, k, c =>
    let from? :=
      if ahead then some c
      else if width ≤ c.pos then some { c with pos := c.pos - width } else none
    match from?.bind (run body mode some) with
    | some d => if positive then k { d with pos := c.pos } else none
    | none => if positive then none else k c
  | .backref n, mode, k, c =>
    match c.span? n with
    | some (lo, hi) =>
      if repeatsAt text mode lo hi c.pos then k { c with pos := c.pos + (hi - lo) } else none
    | none => none
  | .given n present absent, mode, k, c =>
    if (c.span? n).isSome then run present mode k c else run absent mode k c

end Regex

structure Match where
  subject : Text
  groupCount : Nat
  names : List (Text × Nat)
  final : Cursor
  deriving DecidableEq, Repr

namespace Match

/-- The text of a group; group zero is the whole. There is none for a group that took no part, or
that does not exist. -/
def group? (m : Match) (n : Nat) : Option Text :=
  if n = 0 then some m.subject
  else if n ≤ m.groupCount then (m.final.span? n).map fun s => (m.subject.drop s.1).take (s.2 - s.1)
  else none

def named? (m : Match) (name : Text) : Option Text := (m.names.lookup name).bind m.group?

end Match

def Program.fullMatch? (p : Program) (subject : Text) : Option Match :=
  let text := subject.toArray
  (p.regex.run text p.mode (fun c => if c.pos = text.size then some c else none) .start).map
    fun final =>
    ⟨subject, p.groupCount, p.names, final⟩

end FileTags

import FileTags.Pattern.Sign
import FileTags.Pattern.Width
import FileTags.Text.Identifier

/-!
# Reading a pattern

A pattern is read sign by sign. The state is a stack of open groups, each with its finished branches
and the items of the branch that is being read, and a register of the groups seen so far. One step
reads one construct and tells how many of the following signs belong to it; those are passed over. A
group is registered as closed, with its width, when its parenthesis closes, and may be referred to
from then on.
-/

set_option autoImplicit false

namespace FileTags

namespace Pattern

open Text

def repetitionLimit : Nat := 4294967295

inductive Opening
  | whole
  | capture (index : Nat)
  | scope (on off : List Flag)
  | atomic
  /-- `outermost` tells a look-behind that does not stand inside another one. -/
  | look (ahead positive outermost : Bool)
  | given (index : Nat)
  | otherwise (index : Nat) (present : Regex)
  deriving DecidableEq, Repr

/-- An open group: its finished branches and the items of the branch being read, both last first. -/
structure Frame where
  opening : Opening
  verbose : Bool
  branches : List Regex
  items : List Regex
  deriving DecidableEq, Repr

namespace Frame

def start (opening : Opening) (verbose : Bool) : Frame := ⟨opening, verbose, [], []⟩

def branch (f : Frame) : Regex := .sequence f.items.reverse

def body (f : Frame) : Regex := .choice (f.branches.reverse ++ [f.branch])

def push (f : Frame) (r : Regex) : Frame := { f with items := r :: f.items }

end Frame

structure Reading where
  frame : Frame
  outer : List Frame
  flags : List Flag
  /-- The widths of the groups by their numbers; absent while a group is open. Number zero stands
  for the whole. -/
  groups : List (Option Width)
  names : List (Text × Nat)
  /-- Inside a look-behind only groups below this number may be referred to. -/
  behind : Option Nat
  /-- Group numbers that conditions ask for. -/
  asked : List Nat
  /-- A look-behind without a single width has been read. -/
  uneven : Bool
  deriving DecidableEq, Repr

namespace Reading

def start : Reading where
  frame := .start .whole false
  outer := []
  flags := []
  groups := [none]
  names := []
  behind := none
  asked := []
  uneven := false

def push (r : Reading) (item : Regex) : Reading := { r with frame := r.frame.push item }

def isClosed (r : Reading) (n : Nat) : Bool := ((r.groups[n]?).getD none).isSome

def widthOf (r : Reading) (n : Nat) : Width := ((r.groups[n]?).getD none).getD .zero

/-- Inside a look-behind a reference must be to a group that was closed when the look-behind
began. -/
def allowsBehind (r : Reading) (n : Nat) : Bool :=
  match r.behind with
  | none => true
  | some limit => r.isClosed n && n < limit

def backref (r : Reading) (n : Nat) : Except PatternFault Reading :=
  if r.isClosed n && r.allowsBehind n then .ok (r.push (.backref n)) else .error .malformed

def enter (r : Reading) (opening : Opening) (verbose : Bool) : Reading :=
  { r with frame := .start opening verbose, outer := r.frame :: r.outer }

def openCapture (r : Reading) (name : Option Text) : Except PatternFault Reading :=
  let n := r.groups.length
  let next := { r with groups := r.groups ++ [none] }.enter (.capture n) r.frame.verbose
  match name with
  | none => .ok next
  | some name =>
    if !isIdentifier name || (r.names.lookup name).isSome then .error .malformed
    else .ok { next with names := r.names ++ [(name, n)] }

def openLook (r : Reading) (ahead positive : Bool) : Reading :=
  let outermost := !ahead && r.behind.isNone
  let next := r.enter (.look ahead positive outermost) r.frame.verbose
  if outermost then { next with behind := some r.groups.length } else next

def openGiven (r : Reading) (condition : Text) : Except PatternFault Reading := do
  let (n, asked) ←
    if isIdentifier condition then
      match r.names.lookup condition with
      | some n => .ok (n, r.asked)
      | none => .error .malformed
    else
      match readLooseNatural? condition with
      | some 0 => .error .malformed
      | some n => .ok (n, n :: r.asked)
      | none => .error .malformed
  if r.allowsBehind n then .ok ({ r with asked }.enter (.given n) r.frame.verbose)
  else .error .malformed

def conflicting (r : Reading) : Bool := r.flags.contains .ascii && r.flags.contains .unicode

def close (r : Reading) : Except PatternFault Reading :=
  match r.outer with
  | [] => .error (if r.conflicting then .conflictingFlags else .malformed)
  | parent :: outer =>
    let body := r.frame.body
    let back := { r with frame := parent, outer }
    match r.frame.opening with
    | .whole => .error .malformed
    | .capture n =>
      .ok ({ back with groups := r.groups.set n (some (body.width r.widthOf)) }.push
        (.capture n body))
    | .scope on off => .ok (back.push (.scope on off body))
    | .atomic => .ok (back.push (.atomic body))
    | .look true positive _ => .ok (back.push (.look true positive 0 body))
    | .look false positive outermost =>
      let back := if outermost then { back with behind := none } else back
      match (body.width r.widthOf).fixed? with
      | some width => .ok (back.push (.look false positive width body))
      | none => .ok ({ back with uneven := true }.push (.look false positive 0 body))
    | .given n => .ok (back.push (.given n body .empty))
    | .otherwise n present => .ok (back.push (.given n present body))

/-- Ends a branch. A condition has two branches at most; the whole pattern takes up a verbose flag
with its next branch. -/
def nextBranch (r : Reading) : Except PatternFault Reading :=
  match r.frame.opening with
  | .given n => .ok { r with frame := .start (.otherwise n r.frame.branch) r.frame.verbose }
  | .otherwise _ _ => .error .malformed
  | .whole =>
    .ok { r with
      frame := ⟨.whole, r.flags.contains .verbose, r.frame.branch :: r.frame.branches, []⟩ }
  | _ =>
    .ok { r with
      frame := { r.frame with branches := r.frame.branch :: r.frame.branches, items := [] } }

end Reading

/-- The numbers between braces: the digits of both bounds and the signs taken, or nothing when the
brace stands for itself. -/
def braces? (rest : List Sign) : Option (Text × Text × Nat) :=
  let digitsOf (signs : List Sign) : Text := (signs.takeWhile isDigitSign).filterMap Sign.plain?
  let low := digitsOf rest
  match rest.drop low.length with
  | .plain '\x7d' :: _ => if low.isEmpty then none else some (low, low, low.length + 1)
  | .plain ',' :: more =>
    let high := digitsOf more
    match more.drop high.length with
    | .plain '\x7d' :: _ => some (low, high, low.length + high.length + 2)
    | _ => none
  | _ => none
where
  isDigitSign : Sign → Bool
    | .plain c => isDigit c
    | _ => false

def bound? (digits : Text) : Except PatternFault (Option Nat) :=
  if digits.isEmpty then .ok none
  else
    match readNatural digits with
    | .error e => .error (.tooManyDigits e)
    | .ok n => if n ≥ repetitionLimit then .error .repetitionTooLarge else .ok (some n)

def quantify (r : Reading) (least : Nat) (most : Option Nat) (taken : Nat) (rest : List Sign) :
    Except PatternFault (Reading × Nat) :=
  let (temper, suffix) := match rest.drop taken with
    | .plain '?' :: _ => (Temper.lazy, 1)
    | .plain '+' :: _ => (.possessive, 1)
    | _ => (.greedy, 0)
  let repeated (item : Regex) (before : List Regex) :=
    .ok ({ r with frame := { r.frame with items := .times temper least most item :: before } },
      taken + suffix)
  match r.frame.items with
  | [] => .error .malformed
  | .assertion _ :: _ => .error .malformed
  | .times _ _ _ _ :: _ => .error .malformed
  | .scope [] [] body :: before => repeated body before
  | item :: before => repeated item before

def quantifyBraces (r : Reading) (rest : List Sign) : Except PatternFault (Reading × Nat) :=
  match braces? rest with
  | none => .ok (r.push (.char 123), 0)
  | some (low, high, taken) =>
    if rest.drop taken = [.dangling] then .error .malformed
    else do
      let least := (← bound? low).getD 0
      let most ← bound? high
      if most.any (· < least) then .error .malformed else quantify r least most taken rest

def flagRun (seen : List Flag) : List Sign → Except PatternFault (List Flag × Rune × List Sign)
  | .plain c :: rest =>
    if c = ')' ∨ c = ':' ∨ c = '-' then .ok (seen, c, rest)
    else
      match Flag.ofRune? c with
      | some f => flagRun (f :: seen) rest
      | none => .error .malformed
  | _ => .error .malformed

/-- A group that starts with flags: flags for the whole pattern, which only its very start may set,
or for the group. -/
def openFlags (r : Reading) (rest : List Sign) : Except PatternFault (Reading × Nat) := do
  let (on, separator, more) ← flagRun [] rest
  if on.contains .ascii && on.contains .unicode then .error .malformed
  else if separator = ')' then
    if on.isEmpty || !r.outer.isEmpty || !r.frame.branches.isEmpty ||
      !r.frame.items.isEmpty then .error .malformed
    else
      let flags := r.flags ++ on
      .ok ({ r with flags, frame := { r.frame with verbose := flags.contains .verbose } },
        rest.length - more.length)
  else if on.contains .template then .error .malformed
  else if separator = ':' then
    let verbose := r.frame.verbose || on.contains .verbose
    .ok (r.enter (.scope on []) verbose, rest.length - more.length)
  else
    let (off, separator, more) ← flagRun [] more
    if off.isEmpty || separator != ':' || off.any Flag.choosesAlphabet || off.contains .template ||
      off.any on.contains then
      .error .malformed
    else
      let verbose := (r.frame.verbose || on.contains .verbose) && !off.contains .verbose
      .ok (r.enter (.scope on off) verbose, rest.length - more.length)

def openGroup (r : Reading) : List Sign → Except PatternFault (Reading × Nat)
  | .plain '?' :: rest =>
    match rest with
    | .plain 'P' :: .plain '<' :: more => do
      let (name, taken) ← nameUntil '>' more
      return (← r.openCapture (some name), taken + 3)
    | .plain 'P' :: .plain '=' :: more => do
      let (name, taken) ← nameUntil ')' more
      match if isIdentifier name then r.names.lookup name else none with
      | some n => return (← r.backref n, taken + 3)
      | none => .error .malformed
    | .plain ':' :: _ => .ok (r.enter (.scope [] []) r.frame.verbose, 2)
    | .plain '#' :: more =>
      let comment := more.takeWhile (· != .plain ')')
      if comment.length = more.length then .error .malformed else .ok (r, comment.length + 3)
    | .plain '=' :: _ => .ok (r.openLook true true, 2)
    | .plain '!' :: _ => .ok (r.openLook true false, 2)
    | .plain '<' :: .plain '=' :: _ => .ok (r.openLook false true, 3)
    | .plain '<' :: .plain '!' :: _ => .ok (r.openLook false false, 3)
    | .plain '(' :: more => do
      let (condition, taken) ← nameUntil ')' more
      return (← r.openGiven condition, taken + 2)
    | .plain '>' :: _ => .ok (r.enter .atomic r.frame.verbose, 2)
    | _ => (openFlags r rest).map fun p => (p.1, p.2 + 1)
  | _ => (r.openCapture none).map fun next => (next, 0)

/-- A backslash with a digit behind it: three octal digits are a code point, one or two digits a
group. -/
def digitEscape (r : Reading) (c : Rune) (rest : List Sign) : Except PatternFault (Reading × Nat) :=
  if c = '0' then
    let digits := leading octalValue? 2 rest
    .ok (r.push (.char (numberIn 8 digits)), digits.length)
  else
    match leading octalValue? 2 rest, octalValue? c with
    | [d, e], some first =>
      let code := numberIn 8 [first, d, e]
      if code ≤ 255 then .ok (r.push (.char code), 2) else .error .malformed
    | _, _ =>
      match rest with
      | .plain d :: _ =>
        if isDigit d then (r.backref (10 * digitValue c + digitValue d)).map fun next => (next, 1)
        else (r.backref (digitValue c)).map fun next => (next, 0)
      | _ => (r.backref (digitValue c)).map fun next => (next, 0)

def escape (r : Reading) (c : Rune) (rest : List Sign) : Except PatternFault (Reading × Nat) :=
  match assertionEscape? c, categoryEscape? c, controlEscape? c with
  | some a, _, _ => .ok (r.push (.assertion a), 0)
  | none, some (kind, negated), _ => .ok (r.push (.oneOf false [.category kind negated]), 0)
  | none, none, some code => .ok (r.push (.char code), 0)
  | none, none, none =>
    if isDigit c then digitEscape r c rest
    else (codeEscape c rest).map fun p => (r.push (.char p.1), p.2)

def isVerboseBlank (c : Rune) : Bool := c == ' ' || ('\t' ≤ c && c ≤ '\r')

/-- Reads one construct; the number says how many of the following signs belong to it. -/
def step (r : Reading) (s : Sign) (rest : List Sign) : Except PatternFault (Reading × Nat) :=
  match s with
  | .dangling => .error .malformed
  | .escaped c => escape r c rest
  | .plain c =>
    if r.frame.verbose && isVerboseBlank c then .ok (r, 0)
    else if r.frame.verbose && c == '#' then
      .ok (r, (rest.takeWhile fun t => t != .plain '\n' && t != .dangling).length)
    else
      match c with
      | '|' => r.nextBranch.map fun next => (next, 0)
      | ')' => r.close.map fun next => (next, 0)
      | '(' => openGroup r rest
      | '[' => (classOf rest).map fun p => (r.push p.1, p.2)
      | '.' => .ok (r.push .any, 0)
      | '^' => .ok (r.push (.assertion .lineStart), 0)
      | '$' => .ok (r.push (.assertion .lineEnd), 0)
      | '?' => quantify r 0 (some 1) 0 rest
      | '*' => quantify r 0 none 0 rest
      | '+' => quantify r 1 none 0 rest
      | '\x7b' => quantifyBraces r rest
      | _ => .ok (r.push (.char c.toNat), 0)

/-- Reads the signs, passing over as many as `pending` says. -/
def readFrom (r : Reading) : Nat → List Sign → Except PatternFault Reading
  | _, [] => .ok r
  | pending + 1, _ :: rest => readFrom r pending rest
  | 0, s :: rest =>
    match step r s rest with
    | .error e => .error e
    | .ok (next, taken) => readFrom next taken rest

end Pattern

def Regex.repeats : Regex → Bool
  | .times _ _ _ _ => true
  | .cat l r | .alt l r => l.repeats || r.repeats
  | .capture _ b | .scope _ _ b | .atomic b | .look _ _ _ b => b.repeats
  | .given _ l r => l.repeats || r.repeats
  | _ => false

/-- A pattern that has been read: its expression, its mode, and the numbers and names of its
groups. -/
structure Program where
  regex : Regex
  mode : Mode
  groupCount : Nat
  names : List (Text × Nat)
  deriving DecidableEq, Repr

def Pattern.Reading.finish (r : Pattern.Reading) : Except PatternFault Program :=
  if !r.outer.isEmpty then .error .malformed
  else if r.conflicting then .error .conflictingFlags
  else if r.asked.any (r.groups.length ≤ ·) || r.uneven then .error .malformed
  else if r.flags.contains .template && r.frame.body.repeats then .error .malformed
  else .ok ⟨r.frame.body, .ofFlags r.flags, r.groups.length - 1, r.names⟩

def Program.ofText (source : Text) : Except PatternFault Program :=
  match Pattern.readFrom .start 0 (Sign.ofText source) with
  | .error e => .error e
  | .ok r => r.finish

end FileTags

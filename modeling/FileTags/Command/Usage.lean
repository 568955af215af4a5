import FileTags.Text.Blank
import FileTags.Text.Decimal

/-!
# Words of a command line

A command line is a list of words. Some are options, which start with a dash; two dashes alone make
all words behind them arguments. Long options may be cut short where that is clear, short ones may
be written together in one word. Arguments fill places, each for one or several of them. All places
that the arguments up to the next option can fill are filled at once, and those in front take as
many arguments as they can.
-/

set_option autoImplicit false

namespace FileTags

inductive Effect
  | help
  | flag
  | value
  deriving DecidableEq, Repr

structure Switch where
  names : List Text
  effect : Effect
  deriving DecidableEq, Repr

/-- How many arguments a place takes; the last kind takes one, and then all words there are. -/
inductive Arity
  | one
  | optional
  | any
  | some
  | rest
  deriving DecidableEq, Repr

structure Usage where
  switches : List Switch
  places : List Arity

/-- Reading ends because help is asked for, or because the words are not those of the command. -/
inductive Stop
  | help
  | misuse
  deriving DecidableEq, Repr

namespace Usage

/-- An option that a word names, with a value in the same word, which may follow an equals sign. -/
structure Hit where
  switch : Switch
  name : Text
  joined : Bool
  value : Option Text

inductive Role
  | argument
  | separator
  | option (hit : Option Hit)

structure Word where
  text : Text
  role : Role

def Word.isArgument (w : Word) : Bool := w.role matches .argument

def Word.isSeparator (w : Word) : Bool := w.role matches .separator

def Word.isOption (w : Word) : Bool := w.role matches .option _

/-! ## Roles of words -/

def names (u : Usage) : List (Text × Switch) :=
  u.switches.flatMap fun s => s.names.map fun name => (name, s)

def switch? (u : Usage) (name : Text) : Option Switch := u.names.lookup name

def atEquals (w : Text) : Text × Option Text :=
  let left := w.takeWhile (· != .char '=')
  match w.drop left.length with
  | [] => (left, none)
  | _ :: right => (left, some right)

def candidates (u : Usage) (w : Text) : List Hit :=
  match w with
  | '-' :: '-' :: _ =>
    let (left, value) := atEquals w
    (u.names.filter fun e => Text.startsWith e.1 left).map fun e => ⟨e.2, e.1, value.isSome, value⟩
  | _ =>
    u.names.filterMap fun e =>
      if e.1 = w.take 2 then some ⟨e.2, e.1, false, some (w.drop 2)⟩
      else if Text.startsWith e.1 w then some ⟨e.2, e.1, false, none⟩
      else none

def isDecimalRun (t : Text) : Bool := !t.isEmpty && t.all fun c => Text.isDecimal c.toNat

def isNegative (w : Text) : Bool :=
  match w with
  | '-' :: body =>
    let number := if body.getLast? = some '\n' then body.dropLast else body
    let whole := number.takeWhile (· != .char '.')
    match number.drop whole.length with
    | [] => isDecimalRun whole
    | _ :: fraction => (whole.isEmpty || isDecimalRun whole) && isDecimalRun fraction
  | _ => false

def role (u : Usage) (w : Text) : Except Stop Role :=
  match w with
  | '-' :: _ :: _ =>
    match u.switch? w with
    | some s => .ok (.option (some ⟨s, w, false, none⟩))
    | none =>
      let (left, value) := atEquals w
      match value, u.switch? left with
      | some v, some s => .ok (.option (some ⟨s, left, true, some v⟩))
      | _, _ =>
        match u.candidates w with
        | [hit] => .ok (.option (some hit))
        | _ :: _ :: _ => .error .misuse
        | [] => .ok (if isNegative w || w.contains ' ' then .argument else .option none)
  | _ => .ok .argument

def roles (u : Usage) : List Text → Except Stop (List Word)
  | [] => .ok []
  | w :: ws =>
    if w = [.char '-', .char '-'] then .ok (⟨w, .separator⟩ :: ws.map fun t => ⟨t, .argument⟩)
    else do
      let r ← u.role w
      return ⟨w, r⟩ :: (← u.roles ws)

/-! ## Options -/

/-- What has been read: options with their values, the words of the places filled, and words that
belong nowhere. -/
structure Parsed where
  options : List (Switch × Option Text)
  slots : List (List Text)
  extras : List Text

def Parsed.empty : Parsed := ⟨[], [], []⟩

/-- An option, or several written together, in front of other words; the number says how many of
those it takes. -/
def takeOption (u : Usage) (behind : List Word) : Nat → Hit → Except Stop (Parsed × Nat)
  | 0, _ => .error .misuse
  | fuel + 1, hit =>
    match hit.value, hit.switch.effect with
    | none, .value =>
      match behind with
      | next :: _ => if next.isArgument then .ok (⟨[(hit.switch, some next.text)], [], []⟩, 1)
          else .error .misuse
      | [] => .error .misuse
    | none, _ => .ok (⟨[(hit.switch, none)], [], []⟩, 0)
    | some v, .value => .ok (⟨[(hit.switch, some v)], [], []⟩, 0)
    | some v, _ =>
      match v with
      | [] => .error .misuse
      | c :: rest =>
        if Text.startsWith hit.name ['-', '-'] || hit.joined || c = '-' then .error .misuse
        else
          match u.switch? ['-', c] with
          | none => .ok (⟨[(hit.switch, none)], [], ['-' :: v]⟩, 0)
          | some s => do
            let next : Hit := match rest with
              | [] => ⟨s, ['-', c], false, none⟩
              | '=' :: value => ⟨s, ['-', c], true, some value⟩
              | more => ⟨s, ['-', c], false, some more⟩
            let (parsed, used) ← takeOption u behind fuel next
            return ({ parsed with options := (hit.switch, none) :: parsed.options }, used)

/-! ## Places -/

def bounds (a : Arity) (ws : List Word) : Option (Nat × Nat) :=
  let lead := (ws.takeWhile Word.isSeparator).length
  let hasArgument := (ws.drop lead).head?.any Word.isArgument
  let trail := ((ws.drop (lead + 1)).takeWhile Word.isSeparator).length
  let run := (ws.takeWhile fun w => !w.isOption).length
  match a with
  | .one => if hasArgument then some (lead + 1, lead + 1 + trail) else none
  | .optional => some (0, if hasArgument then lead + 1 + trail else lead)
  | .any => some (0, run)
  | .some => if hasArgument then some (lead + 1, run) else none
  | .rest => if hasArgument then some (lead + 1, ws.length) else none

/-- How many words each of some places takes, those in front as many as they can; `none` when they
cannot all be filled. -/
def fill? : List Arity → List Word → Option (List Nat)
  | [], _ => some []
  | a :: as, ws => do
    let (least, most) ← bounds a ws
    (List.range (most + 1 - least)).findSome? fun k =>
      (fill? as (ws.drop (most - k))).map ((most - k) :: ·)

/-- The words taken by as many of the places as can be filled, the first `n` at most. -/
def fillMost (places : List Arity) (ws : List Word) : Nat → List Nat
  | 0 => []
  | n + 1 => (fill? (places.take (n + 1)) ws).getD (fillMost places ws n)

def slotOf (a : Arity) (ws : List Word) : List Text :=
  let texts := ws.map Word.text
  if a = .rest then texts else texts.erase ['-', '-']

def slotsOf : List Arity → List Nat → List Word → List (List Text)
  | a :: as, n :: ns, ws => slotOf a (ws.take n) :: slotsOf as ns (ws.drop n)
  | _, _, _ => []

def Arity.isNeeded (a : Arity) : Bool := a == .one || a == .some

def total (counts : List Nat) : Nat := counts.foldl (· + ·) 0

/-! ## All words -/

def readWords (u : Usage) : Nat → List Arity → List Word → Parsed → Except Stop Parsed
  | 0, _, _, _ => .error .misuse
  | fuel + 1, places, ws, parsed =>
    let before := ws.takeWhile fun w => !w.isOption
    match ws.drop before.length with
    | [] =>
      let counts := fillMost places ws places.length
      if (places.drop counts.length).any Arity.isNeeded then .error .misuse
      else
        .ok ⟨parsed.options, parsed.slots ++ slotsOf places counts ws,
          parsed.extras ++ (ws.drop (total counts)).map Word.text⟩
    | w :: behind =>
      let counts := if before.isEmpty then [] else fillMost places ws places.length
      let slots := parsed.slots ++ slotsOf places counts ws
      if total counts ≠ 0 then
        readWords u fuel (places.drop counts.length) (ws.drop (total counts))
          { parsed with slots := slots }
      else
        let extras := parsed.extras ++ before.map Word.text
        match w.role with
        | .option (some hit) => do
          let (taken, used) ← u.takeOption behind (w.text.length + 1) hit
          if taken.options.any fun o => o.1.effect == .help then .error .help
          else
            readWords u fuel (places.drop counts.length) (behind.drop used)
              ⟨parsed.options ++ taken.options, slots, extras ++ taken.extras⟩
        | _ =>
          readWords u fuel (places.drop counts.length) behind
            ⟨parsed.options, slots, extras ++ [w.text]⟩

def read (u : Usage) (words : List Text) : Except Stop Parsed := do
  let ws ← u.roles words
  u.readWords (ws.length + 1) u.places ws .empty

end Usage

end FileTags

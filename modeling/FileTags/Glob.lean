import FileTags.Text.Ranges

/-!
# Glob patterns

A glob matches whole names: a star stands for any characters, a question mark for one, brackets for
one of a set. Sets are negated by an exclamation mark; a closing bracket that comes first belongs to
the set, and a bracket that is never closed stands for itself. Ranges that run backwards hold
nothing.
-/

set_option autoImplicit false

namespace FileTags

/-- An item of a bracket set: a character, or the hyphen between the ends of a range. -/
inductive BracketSign
  | char (c : Rune)
  | through
  deriving DecidableEq, Repr

inductive GlobStep
  | any
  | literal (c : Rune)
  | set (negated : Bool) (signs : List BracketSign)
  deriving DecidableEq, Repr

inductive GlobSign
  | star
  | one (s : GlobStep)
  deriving DecidableEq, Repr

namespace Glob

/-! ## Bracket sets -/

/-- The characters up to the next hyphen of a set, the first `held` of which are no range
hyphens. -/
def chunk : Nat → Text → Text × Option Text
  | _, [] => ([], none)
  | held + 1, c :: rest => (c :: (chunk held rest).1, (chunk held rest).2)
  | 0, c :: rest => if c = '-' then ([], some rest) else (c :: (chunk 0 rest).1, (chunk 0 rest).2)

theorem length_of_chunk {held : Nat} {t after : Text} (h : (chunk held t).2 = some after) :
    after.length < t.length := by
  fun_induction chunk held t with
  | case1 => simp at h
  | case2 held c rest ih => exact Nat.lt_succ_of_lt (ih h)
  | case3 rest => simp_all
  | case4 c rest hc ih => exact Nat.lt_succ_of_lt (ih (by simpa [hc] using h))

/-- The chunks between the hyphens of a set. The character before a range hyphen and the one behind
it are its ends, so the next hyphen comes two characters later at the earliest. -/
def chunksFrom (held : Nat) (t : Text) : List Text :=
  match _h : (chunk held t).2 with
  | none => [(chunk held t).1]
  | some after => (chunk held t).1 :: chunksFrom 2 after
termination_by t.length
decreasing_by exact length_of_chunk _h

def closeChunks (chunks : List Text) : List Text :=
  match chunks.reverse with
  | [] :: last :: before => ((last ++ [.char '-']) :: before).reverse
  | _ => chunks

/-- Leaves out the ends of ranges that run backwards, the last ones first. -/
def dropBackwards : List Text → List Text
  | [] => []
  | c :: cs =>
    match dropBackwards cs with
    | [] => [c]
    | d :: ds =>
      match c.getLast?, d with
      | some low, high :: more => if high < low then (c.dropLast ++ more) :: ds else c :: d :: ds
      | _, _ => c :: d :: ds

def signsOf (chunks : List Text) : List BracketSign :=
  match chunks with
  | [] => []
  | [c] => c.map .char
  | c :: cs => c.map .char ++ .through :: signsOf cs

def bracket (body : Text) : GlobStep :=
  let chunks :=
    if body.contains '-' then
      dropBackwards (closeChunks (chunksFrom (if body.head? = some '!' then 2 else 1) body))
    else [body]
  match signsOf chunks with
  | .char '!' :: signs => .set true signs
  | signs => .set false signs

def inSigns (c : Rune) : List BracketSign → Bool
  | [] => false
  | .char low :: .through :: .char high :: rest => (low ≤ c && c ≤ high) || inSigns c rest
  | .char d :: rest => c == d || inSigns c rest
  | .through :: rest => c == '-' || inSigns c rest

/-! ## Patterns -/

/-- The characters of a set that follows an opening bracket, and what is behind the closing one. -/
def body? (t : Text) : Option (Text × Text) :=
  let mark : Text := if t.head? = some '!' then ['!'] else []
  let first : Text := if (t.drop mark.length).head? = some ']' then [']'] else []
  let rest := t.drop (mark.length + first.length)
  let inside := rest.takeWhile (· != .char ']')
  match rest.drop inside.length with
  | _ :: after => some (mark ++ first ++ inside, after)
  | [] => none

/-- The signs of a glob; the number says how many characters belong to a set that has been read. -/
def signsFrom : Nat → Text → List GlobSign
  | _, [] => []
  | pending + 1, _ :: rest => signsFrom pending rest
  | 0, c :: rest =>
    if c = '*' then .star :: signsFrom 0 rest
    else if c = '?' then .one .any :: signsFrom 0 rest
    else if c = '[' then
      match body? rest with
      | some (body, _) => .one (bracket body) :: signsFrom (body.length + 1) rest
      | none => .one (.literal '[') :: signsFrom 0 rest
    else .one (.literal c) :: signsFrom 0 rest

def signs (t : Text) : List GlobSign := signsFrom 0 t

def accepts (c : Rune) : GlobStep → Bool
  | .any => true
  | .literal d => c == d
  | .set negated signs => inSigns c signs != negated

/-- From which ends of a text, the whole one first, the signs behind match; one sign more in
front. -/
def extend (t : Text) (s : GlobSign) (behind : List Bool) : List Bool :=
  match s with
  | .one step => (List.zipWith (fun c b => accepts c step && b) t behind.tail) ++ [false]
  | .star => behind.foldr (fun b later => (b || later.headD false) :: later) []

def matchesSigns (signs : List GlobSign) (t : Text) : Bool :=
  (signs.foldr (extend t) (t.map (fun _ => false) ++ [true])).headD false

end Glob

def Glob.accepts? (glob name : Text) : Bool := matchesSigns (signs glob) name

end FileTags

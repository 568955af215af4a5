import FileTags.Field
import FileTags.Settings.Basic
import FileTags.Text.Numeral

/-!
# Reading settings

Settings are read from a map of fields; fields that are not known are passed over. Values of a near
kind are accepted: bytes for text, numerals and floats without a fraction for integers, words for
yes and no. All fields are looked at, so that every issue is told; only what cannot be looked at all
ends the reading at once.
-/

set_option autoImplicit false

namespace FileTags

structure SettingsIssue where
  field : String
  item : Option Nat
  issue : FieldIssue
  deriving DecidableEq, Repr

inductive SettingsError
  | notMap
  | issues (all : List SettingsIssue)
  /-- The patterns to be left out are no collection. -/
  | notIterable (kind : String)
  /-- A pattern to be left out is no text. -/
  | noPattern (kind : String)
  | noHome
  deriving DecidableEq, Repr

namespace Settings

/-! ## Fields -/

abbrev Checked (α : Type) := Except (List (Option Nat × FieldIssue)) α

def readAttribute (d : Datum) : Except FieldIssue Text := do
  let t ← d.wholeText
  if t.isEmpty then .error .emptyText
  else
    let name := Text.strip t
    if name.isEmpty then .error .blankAttribute
    else if name.contains '.' then return name
    else .error (.attributeWithoutSpace name)

def readFolder (homes : Homes) (d : Datum) : Except FieldIssue (Except NoHome Text) := do
  let t ← d.readText
  if (Text.strip t).isEmpty then .error .blankFolder
  else
    match (Path.ofText t).expandUser homes with
    | .ok p => return .ok p.text
    | .error (.unfit e) => .error (.unfit e)
    | .error .unknown => return .error .unknown

/-! ## Integers -/

def isMargin (c : Rune) : Bool := Text.isBlank c && !(28 ≤ c.toNat && c.toNat ≤ 31)

def dropZeros : Text → Option Text
  | [] => none
  | '0' :: rest =>
    let zeros := rest.takeWhile fun c => c == .char '0' || c == .char '_'
    match rest.drop zeros.length with
    | [] => ((.char '0' :: zeros).getLast?).map ([·])
    | c :: more =>
      if '1' ≤ c && c ≤ '9' then some (c :: more)
      else if c = .char '.' then
        some (((.char '0' :: zeros).getLast?.getD (.char '0')) :: c :: more)
      else none
  | c :: rest => if '1' ≤ c && c ≤ '9' then some (c :: rest) else none

def dropZeroFraction (t : Text) : Text :=
  let whole := t.takeWhile (· != .char '.')
  match t.drop whole.length with
  | _ :: fraction => if fraction.all (· == .char '0') then whole else t
  | [] => t

def hasDoubleUnderscore : Text → Bool
  | '_' :: '_' :: _ => true
  | _ :: rest => hasDoubleUnderscore rest
  | [] => false

/-- The text without its underscores, when they only stand alone between other signs. -/
def dropUnderscores (t : Text) : Text :=
  if t.head? = some '_' || t.getLast? = some '_' || hasDoubleUnderscore t then t
  else t.filter (· != '_')

def numeral? (t : Text) : Option (Bool × Text) :=
  let body := Text.stripOf isMargin t
  let (negative, digits) := match body with
    | '+' :: rest => (false, rest)
    | '-' :: rest => (true, rest)
    | other => (false, other)
  (dropZeros digits).map fun d => (negative, dropUnderscores (dropZeroFraction d))

def readNumeral (t : Text) : Except FieldIssue Int :=
  match numeral? t with
  | none => .error .badNumeral
  | some (negative, digits) =>
    if digits.isEmpty || !digits.all Text.isDigit then .error .badNumeral
    else if digits.length > Text.digitLimit then .error .longNumeral
    else
      let n : Int := Text.naturalOf digits
      .ok (if negative then -n else n)

def isWord (n : Int) : Bool := -9223372036854775808 ≤ n && n < 9223372036854775808

def ofFloat (x : Float) : Except FieldIssue Int :=
  if x.isNaN || x.isInf then .error .notFinite
  else
    match Datum.exactInt? x with
    | none => .error .fraction
    | some n => if isWord n then .ok n else .error .longNumeral

def readInt (d : Datum) : Except FieldIssue Int :=
  match d with
  | .int n => .ok n
  | .bool b => .ok (if b then 1 else 0)
  | .float x => ofFloat x
  | .text t => if Text.isWhole t then readNumeral t else .error .badText
  | .bytes b =>
    match Utf8.decode b with
    | .ok t => readNumeral t
    | .error _ => .error .badNumeral
  | _ => .error .notInteger

def readWorkers (d : Datum) : Except FieldIssue Nat := do
  let n ← readInt d
  if n ≤ 0 then .error .tooSmall else if n > workerLimit then .error .tooLarge else return n.toNat

/-! ## Booleans -/

def trueWords : List Text := ["1", "on", "t", "true", "y", "yes"].map Text.ofString

def falseWords : List Text := ["0", "off", "f", "false", "n", "no"].map Text.ofString

def lower (c : Rune) : Rune := if 'A' ≤ c ∧ c ≤ 'Z' then .ofNat (c.toNat + 32) else c

def readWord (t : Text) : Except FieldIssue Bool :=
  let word := t.map lower
  if trueWords.contains word then .ok true
  else if falseWords.contains word then .ok false else .error .badBoolean

def boolOfInt (n : Int) : Except FieldIssue Bool :=
  if n = 0 then .ok false else if n = 1 then .ok true else if isWord n then .error .badBoolean
  else .error .notBoolean

def readBool (d : Datum) : Except FieldIssue Bool :=
  match d with
  | .bool b => .ok b
  | .text t => if Text.isWhole t then readWord t else .error .badText
  | .bytes b =>
    match Utf8.decode b with
    | .ok t => readWord t
    | .error _ => .error .badBoolean
  | .int n => boolOfInt n
  | .float x =>
    match ofFloat x with
    | .ok n => boolOfInt n
    | .error _ => .error .notBoolean
  | _ => .error .notBoolean

/-! ## Patterns to be left out -/

def members (d : Datum) : Except SettingsError (List Datum) :=
  match d with
  | .null => .ok []
  | .text t => .ok [.text t]
  | .bytes b => .ok (b.map fun n => .int n.toNat)
  | .pair a b => .ok [a, b]
  | .list items | .set items => .ok items
  | .map entries => .ok (entries.map Prod.fst)
  | d => .error (.notIterable d.fullKind)

def isBlankByte (b : UInt8) : Bool := b == 32 || (9 ≤ b && b ≤ 13)

/-- A pattern without the blanks around it; `none` when nothing is left. -/
def trimmed (d : Datum) : Except SettingsError (Option Datum) :=
  if d.isVoid then .ok none
  else
    match d with
    | .text t => let s := Text.strip t; .ok (if s.isEmpty then none else some (.text s))
    | .bytes b =>
      let s := ((b.dropWhile isBlankByte).reverse.dropWhile isBlankByte).reverse
      .ok (if s.isEmpty then none else some (.bytes s))
    | d => .error (.noPattern d.fullKind)

def trimAll : List Datum → Except SettingsError (List Datum)
  | [] => .ok []
  | d :: ds => do
    match ← trimmed d with
    | none => trimAll ds
    | some p => return p :: (← trimAll ds)

def readPatterns (n : Nat) : List Datum → Checked (List Text)
  | [] => .ok []
  | d :: ds =>
    match d.readText, readPatterns (n + 1) ds with
    | .ok t, .ok ts => .ok (t :: ts)
    | .ok _, .error es => .error es
    | .error e, .ok _ => .error [(some n, e)]
    | .error e, .error es => .error ((some n, e) :: es)

def readIgnore (d : Datum) : Except SettingsError (Checked (List Text)) := do
  return readPatterns 0 (← trimAll (← members d))

/-! ## All fields -/

def whole {α : Type} (r : Except FieldIssue α) : Checked α := r.mapError fun e => [(none, e)]

def issuesOf {α : Type} (field : String) (r : Checked α) : List SettingsIssue :=
  match r with
  | .ok _ => []
  | .error es => es.map fun e => ⟨field, e.1, e.2⟩

def fieldOr {α : Type} (entries : List (Datum × Datum)) (name : String) (default : α)
    (read : Datum → Except FieldIssue α) : Checked α :=
  match Datum.field? name entries with
  | none => .ok default
  | some d => whole (read d)

def folderField (homes : Homes) (entries : List (Datum × Datum)) :
    Except SettingsError (Checked Text) :=
  match readFolder homes
      ((Datum.field? "bookmark_dir" entries).getD (.text defaultBookmarkFolder)) with
  | .error e => .ok (.error [(none, e)])
  | .ok (.error _) => .error .noHome
  | .ok (.ok t) => .ok (.ok t)

def ignoreField (entries : List (Datum × Datum)) : Except SettingsError (Checked (List Text)) :=
  match Datum.field? "ignore" entries with
  | none => .ok (.ok defaultIgnore)
  | some d => readIgnore d

def ofEntries (homes : Homes) (entries : List (Datum × Datum)) : Except SettingsError Settings := do
  let tagAttribute := fieldOr entries "xattr_name" defaultAttribute readAttribute
  let folder ← folderField homes entries
  let workers := fieldOr entries "max_workers" defaultWorkers readWorkers
  let recursive := fieldOr entries "recursive" true readBool
  let followLinks := fieldOr entries "follow_symlinks" false readBool
  let ignore ← ignoreField entries
  match tagAttribute, folder, workers, recursive, followLinks, ignore with
  | .ok tagAttribute, .ok folder, .ok workers, .ok recursive, .ok followLinks, .ok ignore =>
    return ⟨tagAttribute, folder, workers, recursive, followLinks, ignore⟩
  | tagAttribute, folder, workers, recursive, followLinks, ignore =>
    .error (.issues (issuesOf "xattr_name" tagAttribute ++ issuesOf "bookmark_dir" folder ++
      issuesOf "max_workers" workers ++ issuesOf "recursive" recursive ++
      issuesOf "follow_symlinks" followLinks ++ issuesOf "ignore" ignore))

def ofDatum (homes : Homes) (d : Datum) : Except SettingsError Settings :=
  match d with
  | .map entries => ofEntries homes entries
  | _ => .error .notMap

def toDatum (s : Settings) : Datum :=
  let field (name : String) (value : Datum) : Datum × Datum := (.text (Text.ofString name), value)
  .map [field "xattr_name" (.text s.tagAttribute), field "bookmark_dir" (.text s.bookmarkFolder),
    field "max_workers" (.int s.workers),
    field "recursive" (.bool s.recursive), field "follow_symlinks" (.bool s.followLinks),
    field "ignore" (.list (s.ignore.map .text))]

end Settings

/-- What is said about settings that could not be looked at; issues are listed one by one
instead. -/
def SettingsError.message : SettingsError → Text
  | .notMap | .issues _ => Text.ofString "Configuration validation failed"
  | .notIterable kind => Text.ofString s!"'{kind}' object is not iterable"
  | .noPattern kind => Text.ofString s!"'{kind}' object has no attribute 'strip'"
  | .noHome => NoHome.message .unknown

end FileTags

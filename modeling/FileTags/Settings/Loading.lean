import FileTags.Session
import FileTags.Settings.Reading
import FileTags.Yaml.Value

/-!
# Settings files

Settings are kept in a YAML file. Without a path a file of a fixed name is looked for: in the folder
of work, in the user's own folder, and in the folder for settings there. Where none is found, and
where a file says nothing, the defaults hold.
-/

set_option autoImplicit false

namespace FileTags

inductive SettingsFileFault
  | notFound (path : Text)
  | unreadable (path : Text) (e : VolumeFault)
  | notUtf8 (e : Utf8Fault)
  | malformed (path : Text)
  /-- A scalar that stands for no value of its kind. -/
  | badScalar (e : YamlFault)
  | notMap (kind : String)
  | invalid (e : SettingsError)
  | strict (cautions : List Settings.Caution)
  /-- It cannot be told whether something is there. -/
  | badLookup (e : VolumeFault)
  deriving DecidableEq, Repr

namespace SettingsFileFault

def message : SettingsFileFault → Text
  | .notFound path => Text.ofString "Configuration file not found: " ++ path
  | .unreadable path e =>
    Text.ofString "Cannot read configuration file " ++ path ++ Text.ofString ": " ++ e.message
  | .notUtf8 e => e.message
  | .malformed path => Text.ofString "Invalid YAML syntax in " ++ path
  | .badScalar e => e.message
  | .notMap kind => Text.ofString s!"Configuration file must contain a YAML object, got {kind}"
  | .invalid e => e.message
  | .strict cautions =>
    Text.ofString "Configuration warnings in strict mode: " ++
      Text.join [';', ' '] (cautions.map Settings.Caution.message)
  | .badLookup e => e.message

def isForeseen : SettingsFileFault → Bool
  | .notFound _ | .unreadable _ _ | .malformed _ | .notMap _ | .strict _ => true
  | .invalid e =>
    match e with
    | .notMap | .issues _ => true
    | _ => false
  | _ => false

end SettingsFileFault

/-- Settings with what is to be said about them, and the file that they are from. -/
structure LoadedSettings where
  settings : Settings
  cautions : List Settings.Caution
  file : Option Path
  deriving DecidableEq, Repr

def Text.unifyBreaks : Text → Text
  | '\r' :: '\n' :: rest => '\n' :: unifyBreaks rest
  | '\r' :: rest => '\n' :: unifyBreaks rest
  | c :: rest => c :: unifyBreaks rest
  | [] => []

namespace Settings

def fileNames : List Text := [Text.ofString ".xtag.yaml", Text.ofString ".xtag.yml"]

def searchFolders (work home : Path) : List Path :=
  [work, home, home ++ Path.ofText (Text.ofString ".config/xtag")]

def candidates (work home : Path) : List Path :=
  (searchFolders work home).flatMap fun folder =>
    fileNames.map fun name => folder ++ Path.ofText name

def firstFile (v : Volume) : List Path → Except VolumeFault (Option Path)
  | [] => .ok none
  | p :: ps => do if ← v.isFile? p.text then return some p else firstFile v ps

def fileText (v : Volume) (p : Path) : Except SettingsFileFault Text := do
  let blob ← (v.readFile p.text).mapError fun e => .unreadable p.text e
  let t ← (Utf8.decode blob).mapError .notUtf8
  return t.unifyBreaks

/-- The fields that a text holds; nothing counts as no field. -/
def fieldsOf (p : Path) (t : Text) : Except SettingsFileFault Datum :=
  match Yaml.read t with
  | .error .malformed => .error (.malformed p.text)
  | .error e => .error (.badScalar e)
  | .ok .null => .ok (.map [])
  | .ok (.map entries) => .ok (.map entries)
  | .ok d => .error (.notMap d.kind)

def readFields (p : Path) : Action SettingsFileFault Datum := do
  let t ← Action.ask fun v => fileText v p
  if (Text.strip t).isEmpty then
    Action.note .warning (Text.ofString "Configuration file is empty: " ++ p.text)
    return .map []
  else ofExcept (fieldsOf p t)

def namedFile (path : Text) : Action SettingsFileFault Path := do
  let p := Path.ofText path
  let isThere ← Action.ask fun v => (v.exists? p.text).mapError .badLookup
  if isThere then return p else throw (.notFound p.text)

def findFile (homes : Homes) : Action SettingsFileFault (Option Path) := do
  let found ← Action.ask fun v =>
    (firstFile v (candidates v.workPath (Path.ofText homes.own))).mapError .badLookup
  match found with
  | some p => Action.note .debug (Text.ofString "Found configuration file: " ++ p.text)
  | none => Action.note .debug (Text.ofString "No configuration file found, using defaults")
  return found

def chosenFile (homes : Homes) (path : Text) : Action SettingsFileFault (Option Path) :=
  if path.isEmpty then findFile homes else some <$> namedFile path

def fieldsOfFile : Option Path → Action SettingsFileFault Datum
  | some p => readFields p
  | none => pure (.map [])

def refuse (isStrict : Bool) (cautions : List Caution) : Action SettingsFileFault Unit :=
  if isStrict && !cautions.isEmpty then throw (.strict cautions) else pure ()

/-- Loads the settings from the file at a path, or from the one that is found when the path is
empty. -/
def load (homes : Homes) (path : Text) (isStrict : Bool) :
    Action SettingsFileFault LoadedSettings := do
  let file ← chosenFile homes path
  let fields ← fieldsOfFile file
  let settings ← ofExcept ((ofDatum homes fields).mapError .invalid)
  let own ← Action.ask fun v => (settings.cautions v).mapError .badLookup
  let cautions := if file.isSome then own else own ++ [.noFile]
  refuse isStrict cautions
  Action.note .debug (Text.ofString "Configuration loaded from " ++
    (file.map Path.text).getD (Text.ofString "defaults"))
  return ⟨settings, cautions, file⟩

end Settings

end FileTags

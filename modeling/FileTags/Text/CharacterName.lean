import FileTags.Text.Name.Aliases
import FileTags.Text.Name.Alphabets
import FileTags.Text.Name.Ancient
import FileTags.Text.Name.EastAsian
import FileTags.Text.Name.Minorities
import FileTags.Text.Name.Notations
import FileTags.Text.Name.Pictographs
import FileTags.Text.Name.Pictures
import FileTags.Text.Name.Syllabaries
import FileTags.Text.Name.Symbols

/-!
# Names of characters

The names that Unicode 14 gives to characters, and the characters they name. Listed names are found
in small letters as well. The names of unified ideographs are made of their code points, and those
of Hangul syllables of the sounds in them; both are found in capitals only.
-/

set_option autoImplicit false

namespace FileTags.Text

def nameRuns : List NameRun :=
  alphabetsNames ++ syllabariesNames ++ symbolsNames ++ eastAsianNames ++ minoritiesNames ++
    ancientNames ++ pictographsNames ++
    notationsNames ++ picturesNames

def capital (c : Rune) : Rune := if 'a' ≤ c ∧ c ≤ 'z' then .ofNat (c.toNat - 32) else c

def listedName? (name : Text) : Option Nat :=
  let name := name.map capital
  match nameRuns.findSome? fun r => r.find? name with
  | some n => some n
  | none => (aliases.find? fun e => ofString e.1 == name).map Prod.snd

/-! ## Unified ideographs -/

def ideographRanges : Ranges :=
  [(0x3400, 0x4dbf), (0x4e00, 0x9fff), (0x20000, 0x2a6df), (0x2a700, 0x2b738), (0x2b740, 0x2b81d),
    (0x2b820, 0x2cea1),
    (0x2ceb0, 0x2ebe0), (0x30000, 0x3134a)]

def capitalHex? (c : Rune) : Option Nat :=
  if '0' ≤ c ∧ c ≤ '9' then some (c.toNat - 48) else if 'A' ≤ c ∧ c ≤ 'F' then some (c.toNat - 55)
  else none

def ideograph? (digits : Text) : Option Nat := do
  let values ← digits.mapM capitalHex?
  let n := values.foldl (fun n d => 16 * n + d) 0
  if (values.length = 4 ∨ values.length = 5) ∧ inRanges n ideographRanges then some n else none

/-! ## Hangul syllables -/

def leadSounds : List String :=
  ["G", "GG", "N", "D", "DD", "R", "M", "B", "BB", "S", "SS", "", "J", "JJ", "C", "K", "T",
    "P", "H"]

def vowelSounds : List String :=
  ["A", "AE", "YA", "YAE", "EO", "E", "YEO", "YE", "O", "WA", "WAE", "OE", "YO", "U", "WEO", "WE",
    "WI", "YU", "EU", "YI", "I"]

def tailSounds : List String :=
  ["", "G", "GG", "GS", "N", "NJ", "NH", "D", "L", "LG", "LM", "LB", "LS", "LT", "LP", "LH", "M",
    "B", "BS", "S", "SS", "NG", "J", "C",
    "K", "T", "P", "H"]

def sound? (sounds : List String) (t : Text) : Option (Nat × Text) :=
  let fitting := (sounds.zipIdx).filter fun s => startsWith t (ofString s.1)
  let longest := fitting.foldl (fun n s => max n s.1.length) 0
  (fitting.find? fun s => s.1.length == longest).map fun s => (s.2, t.drop longest)

def syllable? (t : Text) : Option Nat := do
  let (lead, t) ← sound? leadSounds t
  let (vowel, t) ← sound? vowelSounds t
  let (tail, t) ← sound? tailSounds t
  if t.isEmpty then some (0xac00 + (lead * vowelSounds.length + vowel) * tailSounds.length + tail)
  else none

/-! ## All names -/

def ideographStem : Text := ofString "CJK UNIFIED IDEOGRAPH-"

def syllableStem : Text := ofString "HANGUL SYLLABLE "

def characterNamed? (name : Text) : Option Nat :=
  if startsWith name syllableStem then syllable? (name.drop syllableStem.length)
  else if startsWith name ideographStem then ideograph? (name.drop ideographStem.length)
  else listedName? name

end FileTags.Text

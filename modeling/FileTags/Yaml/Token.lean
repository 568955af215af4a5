import FileTags.Text.Numeral
import FileTags.Text.Utf8

/-!
# Tokens of YAML

The tokens of a YAML text, and what can be wrong with such a text. Most faults are not told apart.
The others concern the values that tagged or plain scalars stand for.
-/

set_option autoImplicit false

namespace FileTags

inductive TimestampFault
  | year (n : Nat)
  | month
  | day
  | hour
  | minute
  | second
  | offset (seconds : Int)
  deriving DecidableEq, Repr

inductive YamlFault
  | malformed
  /-- An escape for a code point that does not exist. -/
  | noCharacter
  | emptyNumeral
  | badInteger (base : Nat) (t : Text)
  | tooManyDigits (e : Text.TooManyDigits)
  | badFloat (t : Text)
  /-- A numeral to base 60 with too many places for a float. -/
  | tooManyPlaces
  | badBoolean (t : Text)
  | notTimestamp
  /-- A map that stands for a timestamp. -/
  | timestampMap
  | badTimestamp (e : TimestampFault)
  deriving DecidableEq, Repr

def TimestampFault.spanText (seconds : Int) : Text :=
  let days := seconds.fdiv 86400
  let rest := seconds.fmod 86400
  let parts :=
    (if days = 0 then [] else [Text.ofString "days=" ++ Text.ofInt days]) ++
      (if rest = 0 then [] else [Text.ofString "seconds=" ++ Text.ofInt rest])
  Text.ofString "datetime.timedelta(" ++ Text.join [.char ',', .char ' '] parts ++ [.char ')']

def TimestampFault.message : TimestampFault → Text
  | .year n => Text.ofString s!"year {n} is out of range"
  | .month => Text.ofString "month must be in 1..12"
  | .day => Text.ofString "day is out of range for month"
  | .hour => Text.ofString "hour must be in 0..23"
  | .minute => Text.ofString "minute must be in 0..59"
  | .second => Text.ofString "second must be in 0..59"
  | .offset seconds =>
    Text.ofString "offset must be a timedelta strictly between -timedelta(hours=24) and " ++
      Text.ofString "timedelta(hours=24), not " ++
      spanText seconds ++ [.char '.']

def YamlFault.message : YamlFault → Text
  | .malformed => Text.ofString "Invalid YAML syntax"
  | .noCharacter => Text.ofString "chr() arg not in range(0x110000)"
  | .emptyNumeral => Text.ofString "string index out of range"
  | .badInteger base t =>
    Text.ofString s!"invalid literal for int() with base {base}: " ++ (Text.quoted t).take 200
  | .tooManyDigits e => Text.ofString e.message
  | .badFloat t => Text.ofString "could not convert string to float: " ++ Text.quoted t
  | .tooManyPlaces => Text.ofString "int too large to convert to float"
  | .badBoolean t => Text.quoted t
  | .notTimestamp => Text.ofString "'NoneType' object has no attribute 'groupdict'"
  | .timestampMap => Text.ofString "expected string or bytes-like object, got 'list'"
  | .badTimestamp e => e.message

namespace Yaml

structure Scalar where
  value : Text
  plain : Bool
  deriving DecidableEq, Repr

inductive Token
  | version (major : Nat)
  | tagHandle (handle start : Text)
  | otherDirective
  | documentStart
  | documentEnd
  | blockSequenceStart
  | blockMappingStart
  | blockEnd
  | flowSequenceStart
  | flowSequenceEnd
  | flowMappingStart
  | flowMappingEnd
  | blockEntry
  | flowEntry
  | key
  | value
  | alias (name : Text)
  | anchor (name : Text)
  | tag (handle : Option Text) (suffix : Text)
  | scalar (s : Scalar)
  | streamEnd
  /-- Reading failed here. -/
  | fault (e : YamlFault)
  deriving DecidableEq, Repr

end Yaml

end FileTags

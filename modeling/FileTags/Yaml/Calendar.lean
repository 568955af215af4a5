import FileTags.Datum
import FileTags.Yaml.Kind
import FileTags.Yaml.Token

/-!
# Days and moments

A timestamp stands for a day, or for a moment in a zone. Its numbers have to be a day of the
calendar and a time of the day, and a zone is less than a day ahead or behind.
-/

set_option autoImplicit false

namespace FileTags.Yaml

def isLeapYear (n : Nat) : Bool := n % 4 == 0 && (n % 100 != 0 || n % 400 == 0)

def daysOf (year month : Nat) : Nat :=
  if month = 2 then (if isLeapYear year then 29 else 28)
  else if month = 4 ∨ month = 6 ∨ month = 9 ∨ month = 11 then 30
  else 31

def checkDay (year month day : Nat) : Except TimestampFault Unit :=
  if year = 0 then .error (.year year)
  else if month = 0 ∨ 12 < month then .error .month
  else if day = 0 ∨ daysOf year month < day then .error .day
  else .ok ()

def checkTime (hour minute second : Nat) : Except TimestampFault Unit :=
  if 23 < hour then .error .hour else if 59 < minute then .error .minute
  else if 59 < second then .error .second else .ok ()

def zoneOffset (sign : Rune) (hours minutes : Text) : Int :=
  let seconds : Int := 3600 * Text.naturalOf hours + 60 * Text.naturalOf minutes
  if sign = '-' then -seconds else seconds

def checkZone (zone : Option (Option Rune × Text × Text)) : Except TimestampFault Unit :=
  match zone with
  | some (some sign, hours, minutes) =>
    let offset := zoneOffset sign hours minutes
    if offset.natAbs < 86400 then .ok () else .error (.offset offset)
  | _ => .ok ()

def Kind.Timestamp.datum (s : Kind.Timestamp) : Except TimestampFault Datum := do
  let year := Text.naturalOf s.year
  let month := Text.naturalOf s.month
  let day := Text.naturalOf s.day
  match s.time with
  | none =>
    checkDay year month day
    return .day
  | some (hour, minute, second, _) =>
    checkZone s.zone
    checkDay year month day
    checkTime (Text.naturalOf hour) (Text.naturalOf minute) (Text.naturalOf second)
    return .moment

end FileTags.Yaml

import FileTags.Text.System

/-!
# Data

Settings come as data: the values that a data file can hold. A map keeps its entries in order, no
key twice.
-/

set_option autoImplicit false

namespace FileTags

/-- Days and moments are told apart; what they say is of no use to settings. -/
inductive Datum
  | null
  | bool (b : Bool)
  | int (n : Int)
  | float (x : Float)
  | text (t : Text)
  | bytes (b : Blob)
  | day
  | moment
  | pair (first second : Datum)
  | list (items : List Datum)
  | set (items : List Datum)
  | map (entries : List (Datum × Datum))

namespace Datum

def kind : Datum → String
  | null => "NoneType"
  | bool _ => "bool"
  | int _ => "int"
  | float _ => "float"
  | text _ => "str"
  | bytes _ => "bytes"
  | day => "date"
  | moment => "datetime"
  | pair _ _ => "tuple"
  | list _ => "list"
  | set _ => "set"
  | map _ => "dict"

def fullKind : Datum → String
  | day => "datetime.date"
  | moment => "datetime.datetime"
  | d => d.kind

def isVoid : Datum → Bool
  | null => true
  | bool b => !b
  | int n => n == 0
  | float x => x == 0
  | text t => t.isEmpty
  | bytes b => b.isEmpty
  | day | moment | pair _ _ => false
  | list items | set items => items.isEmpty
  | map entries => entries.isEmpty

def exactInt? (x : Float) : Option Int :=
  let bits := x.toBits.toNat
  let exponent := (bits >>> 52) % 2048
  let fraction := bits % (1 <<< 52)
  if exponent = 2047 then none
  else
    let mantissa := if exponent = 0 then fraction else (1 <<< 52) + fraction
    let scale := if exponent = 0 then 1 else exponent
    let size? : Option Nat :=
      if 1075 ≤ scale then some (mantissa <<< (scale - 1075))
      else if mantissa % (1 <<< (1075 - scale)) = 0 then some (mantissa >>> (1075 - scale))
      else none
    size?.map fun size => if bits < 1 <<< 63 then (size : Int) else -(size : Int)

def keyInt? : Datum → Option Int
  | bool b => some (if b then 1 else 0)
  | int n => some n
  | float x => exactInt? x
  | _ => none

/-- Whether two values are one key of a map. Numbers are the same key when they are equal, of
whatever kind they are. -/
def sameKey (a b : Datum) : Bool :=
  match a, b with
  | null, null => true
  | text s, text t => s == t
  | bytes s, bytes t => s == t
  | float x, float y => x == y
  | a, b =>
    match a.keyInt?, b.keyInt? with
    | some m, some n => m == n
    | _, _ => false

def setKey (key value : Datum) : List (Datum × Datum) → List (Datum × Datum)
  | [] => [(key, value)]
  | e :: es => if e.1.sameKey key then (e.1, value) :: es else e :: setKey key value es

def ofEntries (entries : List (Datum × Datum)) : Datum :=
  map (entries.foldl (fun es e => setKey e.1 e.2 es) [])

def field? (name : String) : List (Datum × Datum) → Option Datum
  | [] => none
  | (text t, value) :: rest => if t = Text.ofString name then some value else field? name rest
  | _ :: rest => field? name rest

end Datum

end FileTags

import FileTags.Text.Base64
import FileTags.Yaml.Calendar
import FileTags.Yaml.Document
import FileTags.Yaml.Numeral

/-!
# Values of YAML nodes

A node stands for a datum. Collections are made before what they hold, so of several faults the one
that is nested least counts, and of those the first one: a fault is told together with its depth
below the node.
-/

set_option autoImplicit false

namespace FileTags.Yaml

/-- A value, or a fault with its depth. -/
abbrev Valued (α : Type) := Except (Nat × YamlFault) α

namespace Valued

def lower {α : Type} (r : Valued α) : Valued α := r.mapError fun e => (e.1 + 1, e.2)

def both {α β : Type} (a : Valued α) (b : Valued β) : Valued (α × β) :=
  match a, b with
  | .ok x, .ok y => .ok (x, y)
  | .ok _, .error e => .error e
  | .error e, .ok _ => .error e
  | .error e, .error f => if f.1 < e.1 then .error f else .error e

def all {α : Type} : List (Valued α) → Valued (List α)
  | [] => .ok []
  | r :: rest => (both r (all rest)).map fun (x, xs) => x :: xs

end Valued

def truthWords : List (Text × Bool) :=
  [("yes", true), ("no", false), ("true", true), ("false", false), ("on", true),
    ("off", false)].map fun e => (Text.ofString e.1, e.2)

def scalarDatum (kind : Kind) (value : Text) : Except YamlFault Datum :=
  match kind with
  | .null => .ok .null
  | .bool =>
    match truthWords.lookup (lowered value) with
    | some b => .ok (.bool b)
    | none => .error (.badBoolean (lowered value))
  | .int => (readInt value).map .int
  | .float => (readFloat value).map .float
  | .bytes =>
    if value.all fun c => c.toNat < 128 then
      match Base64.decode value with
      | some b => .ok (.bytes b)
      | none => .error .malformed
    else .error .malformed
  | .timestamp =>
    match Kind.timestamp? (Kind.dropFinalBreak value) with
    | some s => s.datum.mapError .badTimestamp
    | none => .error .notTimestamp
  | .text => .ok (.text value)
  | _ => .error .malformed

namespace Node

def scalarValue (fuel : Nat) (n : Node) : Except YamlFault Datum :=
  match n.text? fuel with
  | none => .error .malformed
  | some value =>
    match n with
    | scalar .. => scalarDatum n.kind value
    | _ => if n.kind = .timestamp then .error .timestampMap else scalarDatum n.kind value

def cycleDatum (isMapping : Bool) : Datum :=
  if isMapping then .map [(.null, .null)] else .list [.null]

def malformed {α : Type} : Valued α := .error (1, .malformed)

def membersWith (read : Node → Valued Datum) (fuel : Nat) (n : Node) : Valued Datum :=
  let entry (e : Node × Node) : Valued (Datum × Datum) :=
    if e.1.isCollection then .error (0, .malformed) else Valued.both (read e.1) (read e.2)
  let entries (n : Node) : Valued (List (Datum × Datum)) :=
    match n with
    | mapping _ es =>
      match merged? fuel es with
      | none => malformed
      | some es => (Valued.all (es.map entry)).lower
    | _ => malformed
  let single (n : Node) : Valued Datum :=
    match n with
    | mapping _ [(k, v)] => (Valued.both (read k) (read v)).map fun (k, v) => .pair k v
    | _ => .error (0, .malformed)
  match n.kind, n with
  | .sequence, sequence _ items => (Valued.all (items.map read)).lower.map .list
  | .map, n => (entries n).map Datum.ofEntries
  | .set, n => (entries n).map fun es =>
    .set ((es.foldl (fun kept e => Datum.setKey e.1 e.2 kept) []).map Prod.fst)
  | .orderedMap, sequence _ items => (Valued.all (items.map single)).lower.map .list
  | .pairs, sequence _ items => (Valued.all (items.map single)).lower.map .list
  | _, _ => malformed

def datum : Nat → Node → Valued Datum
  | 0, _ => .error (0, .malformed)
  | _ + 1, cycle isMapping => .ok (cycleDatum isMapping)
  | fuel + 1, n =>
    if n.isCollection then membersWith (datum fuel) fuel n
    else (scalarValue fuel n).mapError fun e => (0, e)

end Node

/-- The datum that a text stands for; nothing counts as null. -/
def read (t : Text) : Except YamlFault Datum := do
  let tokens := Token.all t
  match ← Node.ofTokens? tokens with
  | none => return .null
  | some n => (n.datum (tokens.length + 2)).mapError Prod.snd

end FileTags.Yaml

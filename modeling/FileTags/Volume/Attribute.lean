import FileTags.Volume.Basic

/-!
# Attributes

Files and folders carry named attributes, each some bytes. A call on an attribute first needs
something at the path, links followed; then a fault of the place strikes; then reading and removing
need the attribute to be there.
-/

set_option autoImplicit false

namespace FileTags.Volume

def attributePlace (v : Volume) (call : AttributeCall) (path : Text) : Except VolumeFault Place :=
  located path fun b => do
    let p ← v.place b
    match v.faults.lookup (p, call) with
    | some e => .error e
    | none => return p

def attribute? (v : Volume) (p : Place) (name : Text) : Option Blob := v.attributes.lookup (p, name)

def setEntry (key : Place × Text) (value : Blob) :
    List ((Place × Text) × Blob) → List ((Place × Text) × Blob)
  | [] => [(key, value)]
  | e :: es => if e.1 = key then (key, value) :: es else e :: setEntry key value es

def getAttribute (v : Volume) (path name : Text) : Except VolumeFault Blob := do
  let p ← v.attributePlace .get path
  match v.attribute? p name with
  | some blob => return blob
  | none => .error (.system .noData path none)

def setAttribute (v : Volume) (path name : Text) (blob : Blob) : Except VolumeFault Volume := do
  let p ← v.attributePlace .set path
  return { v with attributes := setEntry (p, name) blob v.attributes }

def removeAttribute (v : Volume) (path name : Text) : Except VolumeFault Volume := do
  let p ← v.attributePlace .remove path
  match v.attribute? p name with
  | some _ => return { v with attributes := v.attributes.filter fun e => e.1 != (p, name) }
  | none => .error (.system .noData path none)

end FileTags.Volume

import FileTags.Text.Ranges

/-!
# Tag maps

The tags of a file: names with an optional value each, no name twice, in the order in which the
names came. Setting a name that is there changes its value and keeps its place.
-/

set_option autoImplicit false

namespace FileTags

structure TagMap where
  entries : List (Text × Option Text)
  nodup : (entries.map Prod.fst).Nodup
  deriving DecidableEq, Repr

namespace TagMap

@[ext] theorem ext_entries {m n : TagMap} (h : m.entries = n.entries) : m = n := by
  cases m
  cases n
  simp_all

def empty : TagMap := ⟨[], .nil⟩

def names (m : TagMap) : List Text := m.entries.map Prod.fst

def size (m : TagMap) : Nat := m.entries.length

def get? (m : TagMap) (name : Text) : Option (Option Text) := m.entries.lookup name

def setEntry (name : Text) (value : Option Text) :
    List (Text × Option Text) → List (Text × Option Text)
  | [] => [(name, value)]
  | e :: es => if e.1 = name then (name, value) :: es else e :: setEntry name value es

theorem names_setEntry (name : Text) (value : Option Text) (es : List (Text × Option Text)) :
    (setEntry name value es).map Prod.fst =
      if name ∈ es.map Prod.fst then es.map Prod.fst else es.map Prod.fst ++ [name] := by
  induction es with
  | nil => rfl
  | cons e es ih =>
    by_cases h : e.1 = name
    · simp [setEntry, h]
    · by_cases hm : name ∈ es.map Prod.fst
      · simp_all [setEntry]
      · have hn : name ∉ (e :: es).map Prod.fst := by
          simp only [List.map_cons, List.mem_cons, not_or]
          exact ⟨Ne.symm h, hm⟩
        rw [if_neg hn]
        rw [if_neg hm] at ih
        simp [setEntry, h, ih]

theorem nodup_setEntry {es : List (Text × Option Text)} (h : (es.map Prod.fst).Nodup) (name : Text)
    (value : Option Text) :
    ((setEntry name value es).map Prod.fst).Nodup := by
  rw [names_setEntry]
  split
  · exact h
  · next hn => exact List.nodup_append.2 ⟨h, by simp, by rintro a ha b hb rfl; simp_all⟩

def insert (m : TagMap) (name : Text) (value : Option Text) : TagMap :=
  ⟨setEntry name value m.entries, nodup_setEntry m.nodup name value⟩

def ofList (es : List (Text × Option Text)) : TagMap := es.foldl (fun m e => m.insert e.1 e.2) empty

def update (m n : TagMap) : TagMap := n.entries.foldl (fun m e => m.insert e.1 e.2) m

def eraseAll (m : TagMap) (gone : List Text) : TagMap :=
  ⟨m.entries.filter fun e => !gone.contains e.1,
    (List.Sublist.map _ (List.filter_sublist)).nodup m.nodup⟩

def sorted (m : TagMap) : List (Text × Option Text) :=
  m.entries.mergeSort fun a b => Text.le a.1 b.1

end TagMap

end FileTags

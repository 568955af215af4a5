import FileTags.Volume.Attribute
import Mathlib.Data.List.Basic

/-!
# Following paths

Where a path leads depends on what stands at the places along it, and on nothing else. So it leads
to the same place in a volume with other attributes, and in one where more stands than before.
-/

set_option autoImplicit false

namespace FileTags.Volume

theorem lookup_filter_ne {α β : Type} [BEq α] [LawfulBEq α] (key key' : α) (es : List (α × β)) :
    (es.filter fun e => e.1 != key).lookup key' = if key' == key then none else es.lookup key' := by
  induction es with
  | nil => simp
  | cons e es ih =>
    obtain ⟨k, b⟩ := e
    rw [List.lookup_cons]
    cases hk : k == key with
    | true =>
      obtain rfl := eq_of_beq hk
      rw [List.filter_cons_of_neg (by simp), ih]
      cases h : key' == k <;> simp
    | false =>
      rw [List.filter_cons_of_pos (by simp [bne, hk]), List.lookup_cons, ih]
      cases h : key' == k with
      | false => rfl
      | true =>
        obtain rfl := eq_of_beq h
        rw [hk]
        rfl

variable {v w : Volume} {path : Text} {b : Blob} {here p q : Place} {names : List Blob}
  {links : Nat} {as : List ((Place × Text) × Blob)}

/-! ## Volumes with the same nodes -/

theorem isFolder_congr (h : w.node? p = v.node? p) : w.isFolder p = v.isFolder p := by
    rw [isFolder, isFolder, h]

theorem followWith_congr {next next' : Place → List Blob → Except SystemError Place}
    (h : ∀ p, w.node? p = v.node? p) (hnext : ∀ here names, next' here names = next here names) :
    w.followWith next' here names = v.followWith next here names := by
  induction names generalizing here with
  | nil => rfl
  | cons name names ih => simp only [followWith, isFolder_congr (h here), h, hnext, ih]

theorem follow_congr (h : ∀ p, w.node? p = v.node? p) :
    w.follow links here names = v.follow links here names := by
  induction links generalizing here names with
  | zero => exact followWith_congr h fun _ _ => rfl
  | succ links ih => exact followWith_congr h fun _ _ => ih

/-! ## Other attributes -/

def retag (v : Volume) (as : List ((Place × Text) × Blob)) : Volume := { v with attributes := as }

def SameFiles (v w : Volume) : Prop := ∃ as, w = v.retag as

theorem SameFiles.refl (v : Volume) : v.SameFiles v := ⟨v.attributes, rfl⟩

theorem SameFiles.trans {u : Volume} (h : u.SameFiles v) (h' : v.SameFiles w) : u.SameFiles w := by
  obtain ⟨as, rfl⟩ := h
  obtain ⟨bs, rfl⟩ := h'
  exact ⟨bs, rfl⟩

theorem follow_retag : (v.retag as).follow links here names = v.follow links here names :=
  follow_congr fun _ => rfl

theorem place_retag : (v.retag as).place = v.place := by
  funext b
  rw [place, place]
  exact congrArg _ (funext fun _ => follow_retag)

theorem status_retag : (v.retag as).status path = v.status path := by
  rw [status, status, place_retag]
  rfl

theorem exists?_retag : (v.retag as).exists? path = v.exists? path := by
    rw [exists?, exists?, status_retag]

theorem isFile?_retag : (v.retag as).isFile? path = v.isFile? path := by
    rw [isFile?, isFile?, status_retag]

theorem isFolder?_retag : (v.retag as).isFolder? path = v.isFolder? path := by
    rw [isFolder?, isFolder?, status_retag]

theorem readFile_retag : (v.retag as).readFile path = v.readFile path := by
  rw [readFile, readFile, place_retag]
  rfl

theorem attributePlace_retag (call : AttributeCall) :
    (v.retag as).attributePlace call path = v.attributePlace call path := by
  rw [attributePlace, attributePlace, place_retag]
  rfl

/-! ## Places of paths -/

/-- The path leads to the place, links followed. -/
def Leads (v : Volume) (path : Text) (p : Place) : Prop := located path v.place = .ok p

theorem located_of_fit {α : Type} {lookup : Blob → Except SystemError α}
    (h : Text.unfit? path = none) :
    located path lookup = (lookup (Utf8.bytes path)).mapError fun e => .system e path none := by
  rw [located, h]

theorem located_eq_ok_iff {α : Type} {lookup : Blob → Except SystemError α} {a : α} :
    located path lookup = .ok a ↔ Text.unfit? path = none ∧ lookup (Utf8.bytes path) = .ok a := by
  rw [located]
  split
  · next h => simp [h]
  · next h => cases lookup (Utf8.bytes path) <;> simp [h, Except.mapError]

theorem leads_iff : v.Leads path p ↔ Text.unfit? path = none ∧ v.place (Utf8.bytes path) = .ok p :=
  located_eq_ok_iff

theorem Leads.unique (h : v.Leads path p) (h' : v.Leads path q) : p = q :=
  Except.ok.inj (h.symm.trans h')

theorem SameFiles.leads_iff (h : v.SameFiles w) : w.Leads path p ↔ v.Leads path p := by
  obtain ⟨as, rfl⟩ := h
  rw [Leads, Leads, place_retag]

end FileTags.Volume

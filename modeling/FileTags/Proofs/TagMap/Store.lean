import FileTags.TagMap.Store
import FileTags.Proofs.TagMap.Halves
import FileTags.Proofs.Text.System
import FileTags.Proofs.Volume.Lookup

/-!
# Tags in attributes

The tags of a file are those that the bytes of its attribute stand for. A well-formed map without
halves is what its own bytes stand for, and no other map is. Storing and deleting change the one
attribute of the place that the path leads to; a map with halves is not stored.
-/

set_option autoImplicit false

namespace FileTags

def Stores (blob : Blob) (m : TagMap) : Prop :=
  ∃ t, Utf8.decode blob = .ok t ∧ TagMap.decode t = .ok m

namespace TagMap

variable {m n : TagMap} {blob : Blob}

theorem wellFormed_of_stores (h : Stores blob m) : m.WellFormed := by
  obtain ⟨t, -, ht⟩ := h
  exact wellFormed_of_decode ht

theorem isWhole_of_stores (h : Stores blob m) : m.isWhole = true := by
  obtain ⟨t, hblob, ht⟩ := h
  exact isWhole_of_decode (Utf8.decode_eq_ok_iff.mp hblob).1 ht

theorem stores_iff_decode {t : Text} (ht : Text.isWhole t = true) :
    Stores (Utf8.bytes t) m ↔ decode t = .ok m := by
  constructor
  · rintro ⟨u, hu, hm⟩
    rw [Utf8.decode_bytes ht] at hu
    cases hu
    exact hm
  · exact fun h => ⟨t, Utf8.decode_bytes ht, h⟩

/-- The bytes that are written for a map stand for that map exactly if it is well formed. -/
theorem stores_encode_iff (hm : m.isWhole = true) :
    Stores (Utf8.bytes m.encode) m ↔ m.WellFormed := by
  rw [stores_iff_decode hm]
  exact ⟨wellFormed_of_decode, WellFormed.decode_encode⟩

theorem Stores.unique (h : Stores blob m) (h' : Stores blob n) : m = n := by
  obtain ⟨t, ht, hm⟩ := h
  obtain ⟨u, hu, hn⟩ := h'
  obtain rfl := Except.ok.inj (ht.symm.trans hu)
  exact Except.ok.inj (hm.symm.trans hn)

end TagMap

namespace Volume

variable {v w : Volume} {path name : Text} {p q : Place} {m : TagMap} {blob : Blob}
  {call : AttributeCall}

/-! ## Entries of the table -/

theorem lookup_setEntry (key key' : Place × Text) (blob : Blob)
    (es : List ((Place × Text) × Blob)) :
    (setEntry key blob es).lookup key' = if key' == key then some blob else es.lookup key' := by
  induction es with
  | nil => cases h : key' == key <;> simp [setEntry, List.lookup_cons, h]
  | cons e es ih =>
    obtain ⟨k, b⟩ := e
    rw [setEntry]
    by_cases hk : k = key
    · subst hk
      cases h : key' == k <;> simp [List.lookup_cons, h]
    · rw [if_neg hk, List.lookup_cons, List.lookup_cons, ih]
      by_cases h : key' = k
      · subst h
        simp [hk]
      · simp [beq_eq_false_iff_ne.mpr h]

/-- The second volume is the first with one attribute of a place set to some bytes, or taken
away. -/
structure Puts (v : Volume) (p : Place) (name : Text) (blob : Option Blob) (w : Volume) : Prop where
  files : v.SameFiles w
  attribute? : ∀ q other, w.attribute? q other =
    if q = p ∧ other = name then blob else v.attribute? q other

theorem puts_setEntry (v : Volume) (p : Place) (name : Text) (blob : Blob) :
    v.Puts p name (some blob) (v.retag (setEntry (p, name) blob v.attributes)) :=
  ⟨⟨_, rfl⟩, fun q other => by simp only [Volume.attribute?, retag, lookup_setEntry, beq_iff_eq,
    Prod.mk.injEq]⟩

theorem puts_filter (v : Volume) (p : Place) (name : Text) :
    v.Puts p name none (v.retag (v.attributes.filter fun e => e.1 != (p, name))) :=
  ⟨⟨_, rfl⟩, fun q other => by simp only [Volume.attribute?, retag, lookup_filter_ne, beq_iff_eq,
    Prod.mk.injEq]⟩

theorem puts_none_self (h : v.attribute? p name = none) : v.Puts p name none v := by
  refine ⟨.refl v, fun q other => ?_⟩
  split
  · next heq => rw [heq.1, heq.2, h]
  · rfl

/-! ## Places of paths -/

theorem SameFiles.attributePlace (h : v.SameFiles w) (call : AttributeCall) (path : Text) :
    w.attributePlace call path = v.attributePlace call path := by
  obtain ⟨as, rfl⟩ := h
  exact attributePlace_retag call

theorem SameFiles.hasAttributes (h : v.SameFiles w) : w.hasAttributes = v.hasAttributes := by
  obtain ⟨as, rfl⟩ := h
  rfl

theorem SameFiles.faults (h : v.SameFiles w) : w.faults = v.faults := by
  obtain ⟨as, rfl⟩ := h
  rfl

/-- A call reaches the attributes of the place that the path leads to, unless it is made to fail
there. -/
theorem attributePlace_eq_ok_iff : v.attributePlace call path = .ok p ↔
    v.Leads path p ∧ v.faults.lookup (p, call) = none := by
  rw [attributePlace, located_eq_ok_iff, leads_iff, and_assoc]
  refine and_congr_right fun _ => ?_
  cases v.place (Utf8.bytes path) with
  | error e => simp [bind, Except.bind]
  | ok q =>
    simp only [bind, Except.bind, Except.ok.injEq]
    cases hfault : v.faults.lookup (q, call) with
    | none =>
      simp only [pure, Except.pure, Except.ok.injEq]
      exact ⟨by rintro rfl; exact ⟨rfl, hfault⟩, And.left⟩
    | some e =>
      simp only [reduceCtorEq, false_iff]
      rintro ⟨rfl, hnone⟩
      cases hfault.symm.trans hnone

/-! ## Tags of files -/

def Carries (v : Volume) (p : Place) (name : Text) (m : TagMap) : Prop :=
  (v.attribute? p name = none ∧ m = .empty) ∨
    ∃ blob, v.attribute? p name = some blob ∧ Stores blob m

theorem Carries.wellFormed (h : v.Carries p name m) : m.WellFormed := by
  rcases h with ⟨-, rfl⟩ | ⟨blob, -, h⟩
  · exact TagMap.wellFormed_empty
  · exact TagMap.wellFormed_of_stores h

theorem Carries.isWhole (h : v.Carries p name m) : m.isWhole = true := by
  rcases h with ⟨-, rfl⟩ | ⟨blob, -, h⟩
  · exact TagMap.isWhole_empty
  · exact TagMap.isWhole_of_stores h

theorem Carries.unique {n : TagMap} (h : v.Carries p name m) (h' : v.Carries p name n) : m = n := by
  rcases h with ⟨hnone, rfl⟩ | ⟨blob, hblob, h⟩ <;>
    rcases h' with ⟨hnone', rfl⟩ | ⟨blob', hblob', h'⟩
  · rfl
  · rw [hnone] at hblob'
    cases hblob'
  · rw [hnone'] at hblob
    cases hblob
  · obtain rfl := Option.some.inj (hblob.symm.trans hblob')
    exact TagMap.Stores.unique h h'

theorem Puts.attribute_self {blob : Option Blob} (h : v.Puts p name blob w) :
    w.attribute? p name = blob := by
  rw [h.attribute?, if_pos ⟨rfl, rfl⟩]

theorem Puts.carries (h : v.Puts p name (some (Utf8.bytes m.encode)) w) (hm : m.WellFormed)
    (hwhole : m.isWhole = true) : w.Carries p name m :=
  .inr ⟨_, h.attribute_self, (TagMap.stores_encode_iff hwhole).mpr hm⟩

theorem Puts.carries_empty (h : v.Puts p name none w) : w.Carries p name .empty :=
  .inl ⟨h.attribute_self, rfl⟩

theorem Puts.carries_iff {blob : Option Blob} (h : v.Puts p name blob w) (hq : q ≠ p) :
    w.Carries q name m ↔ v.Carries q name m := by
  rw [Carries, Carries, h.attribute?, if_neg fun heq => hq heq.1]

theorem carries_iff_stores (h : v.attribute? p name = some blob) :
    v.Carries p name m ↔ Stores blob m := by
  simp [Carries, h]

theorem tagsOfBlob_eq_ok_iff : tagsOfBlob path blob = .ok m ↔ Stores blob m := by
  rw [tagsOfBlob, Stores]
  cases Utf8.decode blob with
  | error e => simp [bind, Except.bind, Except.mapError]
  | ok t => cases ht : TagMap.decode t <;> simp [bind, Except.bind, Except.mapError, ht]

/-- Where reading reaches the attributes of a place, it gives the tags of that place. -/
theorem tags_eq_ok_iff (hattr : v.hasAttributes = true) (hp : v.attributePlace .get path = .ok p) :
    v.tags name path = .ok m ↔ v.Carries p name m := by
  have hread : v.readBlob name path = .ok (v.attribute? p name) := by
    rw [readBlob, requireAttributes, if_pos hattr, getAttribute, hp]
    cases h : v.attribute? p name <;>
      simp [bind, Except.bind, h, VolumeFault.isMissingData, pure, Except.pure]
  rw [tags, hread, Carries]
  cases h : v.attribute? p name with
  | none => simp [bind, Except.bind, pure, Except.pure, eq_comm]
  | some blob => simp [bind, Except.bind, tagsOfBlob_eq_ok_iff]

/-- Where reading fails before the attributes are reached, it does not matter what they are. -/
theorem tags_of_unreached (h : v.SameFiles w) (hp : ∀ p, v.attributePlace .get path ≠ .ok p) :
    w.tags name path = v.tags name path := by
  cases hplace : v.attributePlace .get path with
  | ok p => exact absurd hplace (hp p)
  | error e =>
    have hget : ∀ u : Volume, v.SameFiles u → u.getAttribute path name = .error e := by
      intro u hu
      rw [getAttribute, hu.attributePlace, hplace]
      rfl
    rw [tags, tags, readBlob, readBlob, hget w h, hget v (.refl v), requireAttributes,
      requireAttributes, h.hasAttributes]

theorem tags_of_unsupported (hattr : v.hasAttributes = false) :
    v.tags name path = .error (.unsupported path) := by
  rw [tags, readBlob, requireAttributes, hattr]
  rfl

theorem hasAttributes_of_tags (h : v.tags name path = .ok m) : v.hasAttributes = true := by
  cases hattr : v.hasAttributes with
  | false =>
    rw [tags_of_unsupported hattr] at h
    cases h
  | true => rfl

theorem eq_empty_of_unreached (hp : ∀ p, v.attributePlace .get path ≠ .ok p)
    (h : v.tags name path = .ok m) : m = .empty := by
  have hattr := hasAttributes_of_tags h
  cases hplace : v.attributePlace .get path with
  | ok p => exact absurd hplace (hp p)
  | error e =>
    simp only [tags, readBlob, requireAttributes, hattr, getAttribute, hplace, bind, Except.bind,
      if_true] at h
    by_cases hmissing : e.isMissingData = true
    · rw [if_pos hmissing] at h
      exact (Except.ok.inj h).symm
    · rw [if_neg hmissing] at h
      cases h

theorem wellFormed_of_tags (h : v.tags name path = .ok m) : m.WellFormed := by
  by_cases hreach : ∃ p, v.attributePlace .get path = .ok p
  · obtain ⟨p, hp⟩ := hreach
    exact ((tags_eq_ok_iff (hasAttributes_of_tags h) hp).mp h).wellFormed
  · rw [eq_empty_of_unreached (fun p hp => hreach ⟨p, hp⟩) h]
    exact TagMap.wellFormed_empty

theorem storeTags_of_isWhole (h : m.isWhole = true) :
    v.storeTags name path m = v.writeBlob name path (Utf8.bytes m.encode) := by
  rw [storeTags, Utf8.encode_of_isWhole h]
  rfl

theorem storeTags_of_not_isWhole (h : m.isWhole = false) :
    ∃ e, v.storeTags name path m = .error (.unencodable e) := by
  cases hencode : Utf8.encode m.encode with
  | ok blob =>
    rw [TagMap.isWhole, (Utf8.encode_eq_ok_iff.mp hencode).1] at h
    cases h
  | error e => exact ⟨e, by rw [storeTags, hencode]; rfl⟩

/-- Storing tags is setting the attribute of a place to their bytes, unless they have none or it
cannot be reached. -/
theorem storeTags_eq_ok_iff : v.storeTags name path m = .ok w ↔
    m.isWhole = true ∧ v.hasAttributes = true ∧
      ∃ p, v.attributePlace .set path = .ok p ∧
        w = v.retag (setEntry (p, name) (Utf8.bytes m.encode) v.attributes) := by
  cases hwhole : m.isWhole with
  | false =>
    obtain ⟨e, he⟩ : ∃ e, v.storeTags name path m = .error (.unencodable e) :=
      storeTags_of_not_isWhole hwhole
    simp [he]
  | true =>
    rw [storeTags_of_isWhole hwhole, writeBlob, requireAttributes, setAttribute]
    cases hattr : v.hasAttributes with
    | false => simp [bind, Except.bind]
    | true =>
      cases hp : v.attributePlace .set path with
      | error e => simp [bind, Except.bind, Except.mapError]
      | ok p => simp [bind, Except.bind, Except.mapError, pure, Except.pure, retag, hattr, eq_comm]

theorem puts_of_storeTags (h : v.storeTags name path m = .ok w) :
    ∃ p, v.attributePlace .set path = .ok p ∧ v.Puts p name (some (Utf8.bytes m.encode)) w := by
  obtain ⟨-, -, p, hp, rfl⟩ := storeTags_eq_ok_iff.mp h
  exact ⟨p, hp, puts_setEntry v p name _⟩

/-- Where the attributes can also be read, the tags are those that the stored text gives. -/
theorem tags_stored_iff {n : TagMap} (h : v.storeTags name path n = .ok w)
    (hp : v.attributePlace .get path = .ok p) :
    w.tags name path = .ok m ↔ TagMap.decode n.encode = .ok m := by
  obtain ⟨hwhole, hattr, -⟩ := storeTags_eq_ok_iff.mp h
  obtain ⟨q, hset, hputs⟩ := puts_of_storeTags h
  obtain rfl := (attributePlace_eq_ok_iff.mp hset).1.unique (attributePlace_eq_ok_iff.mp hp).1
  rw [tags_eq_ok_iff (hputs.files.hasAttributes.trans hattr)
    ((hputs.files.attributePlace .get path).trans hp),
    carries_iff_stores hputs.attribute_self, TagMap.stores_iff_decode hwhole]

/-- Deleting tags takes the attribute of a place away, if it is there. -/
theorem deleteBlob_eq_ok (hp : v.attributePlace .remove path = .ok p)
    (hattr : v.hasAttributes = true) :
    ∃ w, v.deleteBlob name path = .ok w ∧ v.Puts p name none w := by
  rw [deleteBlob, requireAttributes, if_pos hattr, removeAttribute, hp]
  cases h : v.attribute? p name with
  | none => exact ⟨v, by simp [bind, Except.bind, h, VolumeFault.isMissingData, pure, Except.pure],
      puts_none_self h⟩
  | some blob =>
    exact ⟨_, by simp [bind, Except.bind, h, pure, Except.pure]; rfl, puts_filter v p name⟩

/-- Deleting tags either takes the attribute of a place away or leaves all as it is. -/
theorem puts_of_deleteBlob (h : v.deleteBlob name path = .ok w) :
    (∃ p, v.attributePlace .remove path = .ok p ∧ v.Puts p name none w) ∨ w = v := by
  cases hattr : v.hasAttributes with
  | false => simp [deleteBlob, requireAttributes, hattr, bind, Except.bind] at h
  | true =>
    cases hp : v.attributePlace .remove path with
    | ok p =>
      obtain ⟨u, hu, hputs⟩ := deleteBlob_eq_ok hp hattr
      obtain rfl := Except.ok.inj (hu.symm.trans h)
      exact .inl ⟨p, rfl, hputs⟩
    | error e =>
      simp only [deleteBlob, requireAttributes, hattr, removeAttribute, hp, bind, Except.bind,
        if_true] at h
      split at h
      · exact .inr (Except.ok.inj h).symm
      · cases h

end Volume

end FileTags

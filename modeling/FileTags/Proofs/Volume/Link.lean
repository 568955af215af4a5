import FileTags.Proofs.Volume.Growth

/-!
# Links that are made and taken away

A link is taken away from the place that its path names, and made where nothing is. Both go by the
slot of the path, which does not depend on the link itself unless the path leads through it.
-/

set_option autoImplicit false

namespace FileTags.Volume

variable {v w : Volume} {p q : Place} {s : Slot} {path term : Text}

def without (v : Volume) (p : Place) : Volume :=
  { v with nodes := v.nodes.filter fun e => e.1 != p }

theorem node?_without (hp : p ≠ []) :
    (v.without p).node? q = if q = p then none else v.node? q := by
  rw [node?, node?, without, lookup_filter_ne]
  by_cases hq : q = p
  · simp [hq, hp]
  · simp [hq]

def Names (v : Volume) (path : Text) (p : Place) : Prop :=
  ∃ folder name, v.slot (Utf8.bytes path) = .ok ⟨folder, some name⟩ ∧ p = name :: folder

theorem Names.ne_nil (h : v.Names path p) : p ≠ [] := by
  obtain ⟨folder, name, -, rfl⟩ := h
  exact List.cons_ne_nil _ _

theorem Names.unique (h : v.Names path p) (h' : v.Names path q) : p = q := by
  obtain ⟨folder, name, hslot, rfl⟩ := h
  obtain ⟨folder', name', hslot', rfl⟩ := h'
  cases hslot.symm.trans hslot'
  rfl

structure IsLink (v : Volume) (path : Text) (p : Place) : Prop where
  fit : Text.unfit? path = none
  names : v.Names path p
  node? : ∃ target, v.node? p = some (.link target)

theorem exists_isLink (h : v.isLink? path = .ok true) : ∃ p, v.IsLink path p := by
  rw [isLink?, located] at h
  split at h
  · simp [asks] at h
  · next hfit =>
    cases hslot : v.slot (Utf8.bytes path) with
    | error e =>
      simp only [hslot, bind, Except.bind, Except.mapError, asks] at h
      split at h <;> cases h
    | ok s =>
      simp only [hslot, bind, Except.bind] at h
      obtain ⟨folder, _ | name⟩ := s
      · simp [atSlot?, Except.mapError, asks, pure, Except.pure] at h
      · refine ⟨name :: folder, hfit, ⟨folder, name, hslot, rfl⟩, ?_⟩
        simp only [atSlot?] at h
        cases hnode : v.node? (name :: folder) with
        | none =>
          rw [hnode] at h
          cases h
        | some n =>
          cases n with
          | link target => exact ⟨target, rfl⟩
          | folder => simp [hnode, Except.mapError, asks, pure, Except.pure] at h
          | file content => simp [hnode, Except.mapError, asks, pure, Except.pure] at h

theorem IsLink.isLink? (h : v.IsLink path p) : v.isLink? path = .ok true := by
  obtain ⟨hfit, ⟨folder, name, hslot, rfl⟩, target, hnode⟩ := h
  rw [Volume.isLink?, located_of_fit hfit, hslot]
  simp only [bind, Except.bind, atSlot?, hnode]
  rfl

theorem IsLink.removeLink (h : v.IsLink path p) : v.removeLink path = .ok (v.without p) := by
  obtain ⟨hfit, ⟨folder, name, hslot, rfl⟩, target, hnode⟩ := h
  rw [Volume.removeLink, located_of_fit hfit, hslot]
  simp only [bind, Except.bind, atSlot?, hnode]
  rfl

theorem readLink_eq_ok_iff : v.readLink path = .ok term ↔ Text.unfit? path = none ∧
    ∃ s target, v.slot (Utf8.bytes path) = .ok s ∧ v.atSlot? s = some (.link target) ∧
    Text.ofBytes target = term := by
  rw [readLink, located_eq_ok_iff]
  cases v.slot (Utf8.bytes path) with
  | error e => simp [bind, Except.bind]
  | ok s =>
    cases hnode : v.atSlot? s with
    | none => simp [bind, Except.bind, hnode]
    | some n => cases n <;> simp [bind, Except.bind, hnode, pure, Except.pure]

def IsTarget (t : Text) : Prop := Text.unfit? t = none ∧ checkPath (Utf8.bytes t) = .ok ()

theorem isTarget_iff {t : Text} : IsTarget t ↔
    Text.unfit? t = none ∧ Utf8.bytes t ≠ [] ∧ (Utf8.bytes t).length ≤ pathLimit := by
  rw [IsTarget, checkPath]
  refine and_congr_right fun _ => ?_
  by_cases hnil : Utf8.bytes t = []
  · simp [hnil]
  · by_cases hsize : (Utf8.bytes t).length > pathLimit
    · simp [hnil, hsize]
    · simp [hnil, hsize]
      omega

theorem makeLink_eq_ok_iff : v.makeLink term path = .ok w ↔
    IsTarget term ∧ Text.unfit? path = none ∧
    ∃ s, v.slot (Utf8.bytes path) = .ok s ∧ v.create s (.link (Utf8.bytes term)) = .ok w := by
  rw [makeLink, IsTarget]
  cases hterm : Text.unfit? term with
  | some e => simp
  | none =>
    cases hpath : Text.unfit? path with
    | some e => simp
    | none =>
      cases hcheck : checkPath (Utf8.bytes term) with
      | error e => simp [bind, Except.bind, Except.mapError]
      | ok =>
        cases hslot : v.slot (Utf8.bytes path) with
        | error e => simp [bind, Except.bind, Except.mapError]
        | ok s =>
          cases hcreate : v.create s (.link (Utf8.bytes term)) <;>
            simp [bind, Except.bind, Except.mapError, hcreate]

theorem exists_makeLink (hterm : IsTarget term) (hfit : Text.unfit? path = none)
    (hnames : v.Names path p) (hnone : v.node? p = none) :
    ∃ w, v.makeLink term path = .ok w := by
  obtain ⟨folder, name, hslot, rfl⟩ := hnames
  exact ⟨_, makeLink_eq_ok_iff.mpr ⟨hterm, hfit, _, hslot,
    create_eq_ok_iff.mpr ⟨name, rfl, hnone, rfl⟩⟩⟩

theorem node?_makeLink (h : v.makeLink term path = .ok w) :
    w.work = v.work ∧ ∃ p, v.Names path p ∧ v.node? p = none ∧
    ∀ q, w.node? q = if q = p then some (.link (Utf8.bytes term)) else v.node? q := by
  obtain ⟨-, -, ⟨folder, name?⟩, hslot, hcreate⟩ := makeLink_eq_ok_iff.mp h
  obtain ⟨hwork, name, rfl, hnone, hnode⟩ := node?_create hcreate
  exact ⟨hwork, name :: folder, ⟨folder, name, hslot, rfl⟩, hnone, hnode⟩

end FileTags.Volume

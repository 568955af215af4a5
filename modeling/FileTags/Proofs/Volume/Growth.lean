import FileTags.Proofs.Volume.Lookup

/-!
# Folders that are made

Making a folder, with what is missing above it, puts folders where nothing was and does nothing
else, however it ends.
-/

set_option autoImplicit false

namespace FileTags

def Path.IsAbove (above p : Path) : Prop := above.slashes = p.slashes ∧ above.names <+: p.names

namespace Volume

variable {u v w : Volume} {p : Place} {s : Slot} {n : Node} {path : Text}

structure Grows (v w : Volume) : Prop where
  node? : ∀ p, w.node? p = v.node? p ∨ v.node? p = none ∧ w.node? p = some .folder
  work : w.work = v.work

theorem Grows.refl (v : Volume) : v.Grows v := ⟨fun _ => .inl rfl, rfl⟩

theorem Grows.trans (h : u.Grows v) (h' : v.Grows w) : u.Grows w where
  work := h'.work.trans h.work
  node? p := by
    rcases h.node? p with heq | ⟨hnone, hfolder⟩ <;>
      rcases h'.node? p with heq' | ⟨hnone', hfolder'⟩
    · exact .inl (heq'.trans heq)
    · exact .inr ⟨heq.symm.trans hnone', hfolder'⟩
    · exact .inr ⟨hnone, heq'.trans hfolder⟩
    · rw [hfolder] at hnone'
      cases hnone'

theorem Grows.keeps (h : v.Grows w) (hp : v.node? p = some n) : w.node? p = some n := by
  rcases h.node? p with heq | ⟨hnone, -⟩
  · rw [heq, hp]
  · rw [hp] at hnone
    cases hnone

theorem create_eq_ok_iff : v.create s n = .ok w ↔
    ∃ name, s.name = some name ∧ v.node? (name :: s.folder) = none ∧
    w = { v with nodes := v.nodes ++ [(name :: s.folder, n)] } := by
  rw [create]
  obtain ⟨folder, _ | name⟩ := s
  · simp
  · cases h : v.node? (name :: folder) <;> simp [atSlot?, h, eq_comm]

/-- A node that is put into an empty slot stands there, and all others where they stood. -/
theorem node?_create (h : v.create s n = .ok w) :
    w.work = v.work ∧ ∃ name, s.name = some name ∧ v.node? (name :: s.folder) = none ∧
      ∀ p, w.node? p = if p = name :: s.folder then some n else v.node? p := by
  obtain ⟨name, hname, hnone, rfl⟩ := create_eq_ok_iff.mp h
  refine ⟨rfl, name, hname, hnone, fun p => ?_⟩
  have hlookup : v.nodes.lookup (name :: s.folder) = none := by simpa [Volume.node?] using hnone
  by_cases hp : p = name :: s.folder
  · subst hp
    simp [Volume.node?, List.lookup_append, hlookup]
  · simp [Volume.node?, List.lookup_append, List.lookup_cons, beq_eq_false_iff_ne.mpr hp, hp]

theorem grows_create (h : v.create s .folder = .ok w) : v.Grows w := by
  obtain ⟨hwork, name, -, hnone, hnode⟩ := node?_create h
  refine ⟨fun p => ?_, hwork⟩
  by_cases hp : p = name :: s.folder
  · subst hp
    exact .inr ⟨hnone, by rw [hnode, if_pos rfl]⟩
  · exact .inl (by rw [hnode, if_neg hp])

theorem makeFolder_eq_ok_iff : v.makeFolder path = .ok w ↔
    Text.unfit? path = none ∧ ∃ s, v.slot (Utf8.bytes path) = .ok s ∧
    v.create s .folder = .ok w := by
  rw [makeFolder, located_eq_ok_iff]
  cases v.slot (Utf8.bytes path) <;> simp [bind, Except.bind]

theorem grows_makeFolder (h : v.makeFolder path = .ok w) : v.Grows w := by
  obtain ⟨-, s, -, hcreate⟩ := makeFolder_eq_ok_iff.mp h
  exact grows_create hcreate

/-! ## Folders above others -/

section

variable {R : Volume → Volume → Prop}

/-- What making one folder does, and what is done above it, is done where a folder is made with what
is missing above it. -/
theorem ensureWith_rel (hrefl : ∀ v, R v v) (htrans : ∀ u v w, R u v → R v w → R u w)
    {above : Volume → Except VolumeFault Unit × Volume}
    (habove : ∀ v, R v (above v).2) {p : Path} (hmake : ∀ v w, v.makeFolder p.text = .ok w → R v w)
    (v : Volume) :
    R v (ensureWith above p v).2 := by
  rw [ensureWith]
  split
  · next made hmade => exact hmake v made hmade
  · split
    · have hdone := habove v
      split
      · next heq => simpa [heq] using hdone
      · next heq =>
        rw [heq] at hdone
        split
        · next made hmade => exact htrans _ _ _ hdone (hmake _ made hmade)
        · exact hdone
    · exact hrefl v

/-- The folders that are made are the last one and those above it. -/
theorem ensureFolder_rel (hrefl : ∀ v, R v v) (htrans : ∀ u v w, R u v → R v w → R u w) {p : Path}
    (hmake : ∀ q : Path, q.IsAbove p → ∀ v w, v.makeFolder q.text = .ok w → R v w) (v : Volume) :
    R v (ensureFolder p v).2 := by
  have habove : ∀ names v, (⟨p.slashes, names.reverse⟩ : Path).IsAbove p →
      R v (ensureAbove p.slashes names v).2 := by
    intro names
    induction names with
    | nil => exact fun v hp => ensureWith_rel hrefl htrans hrefl (hmake _ hp) v
    | cons name names ih =>
      refine fun v hp =>
        ensureWith_rel hrefl htrans (fun v => ih v ⟨rfl, .trans ?_ hp.2⟩) (hmake _ hp) v
      exact ⟨[name], List.reverse_cons.symm⟩
  exact habove _ v ⟨rfl, by simp⟩

end

/-- Making a folder adds folders alone, whether or not it comes to an end. -/
theorem grows_ensureFolder (p : Path) (v : Volume) : v.Grows (ensureFolder p v).2 :=
  ensureFolder_rel Grows.refl (fun _ _ _ => Grows.trans) (fun _ _ _ _ => grows_makeFolder) v

end Volume

end FileTags

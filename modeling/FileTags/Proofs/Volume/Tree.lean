import FileTags.Proofs.Volume.Path

/-!
# Volumes that are trees

The nodes of a tree stand at different places, in folders, under names that a file system allows. In
a tree every path that leads somewhere leads to a folder or a file, and the entries of a folder are
the nodes right below its place.
-/

set_option autoImplicit false

namespace FileTags.Volume

variable {v : Volume} {here p : Place} {name b : Blob} {path : Text} {names : List Blob}
  {links : Nat} {n : Node}

structure IsFileName (name : Blob) : Prop where
  ne_nil : name ≠ []
  no_slash : slash ∉ name
  no_null : 0 ∉ name
  entry : IsEntry name

instance (name : Blob) : Decidable (IsEntry name) :=
  decidable_of_iff (name ≠ dot ∧ name ≠ dots ∧ name.length ≤ nameLimit)
    ⟨fun h => ⟨h.1, h.2.1, h.2.2⟩, fun h => ⟨h.ne_dot, h.ne_dots, h.length_le⟩⟩

instance (name : Blob) : Decidable (IsFileName name) :=
  decidable_of_iff (name ≠ [] ∧ slash ∉ name ∧ 0 ∉ name ∧ IsEntry name)
    ⟨fun h => ⟨h.1, h.2.1, h.2.2.1, h.2.2.2⟩, fun h => ⟨h.ne_nil, h.no_slash, h.no_null, h.entry⟩⟩

structure IsTree (v : Volume) : Prop where
  once : (v.nodes.map Prod.fst).Nodup
  named : ∀ e ∈ v.nodes, ∀ name ∈ e.1, IsFileName name
  above : ∀ e ∈ v.nodes, v.isFolder e.1.tail = true

instance (v : Volume) : Decidable v.IsTree :=
  decidable_of_iff ((v.nodes.map Prod.fst).Nodup ∧ (∀ e ∈ v.nodes, ∀ name ∈ e.1, IsFileName name) ∧
      ∀ e ∈ v.nodes, v.isFolder e.1.tail = true)
    ⟨fun h => ⟨h.1, h.2.1, h.2.2⟩, fun h => ⟨h.once, h.named, h.above⟩⟩

/-! ## Entries -/

theorem mem_children : (name, n) ∈ v.children here ↔ (name :: here, n) ∈ v.nodes := by
  constructor
  · intro h
    obtain ⟨⟨place, node⟩, hmem, hchild⟩ := List.mem_filterMap.mp h
    cases place with
    | nil => cases hchild
    | cons other above =>
      simp only [Option.ite_none_right_eq_some, Option.some.injEq, Prod.mk.injEq] at hchild
      obtain ⟨rfl, rfl, rfl⟩ := hchild
      exact hmem
  · intro h
    exact List.mem_filterMap.mpr ⟨_, h, if_pos rfl⟩

theorem lookup_eq_some_iff {α β : Type} [BEq α] [LawfulBEq α] {es : List (α × β)}
    (h : (es.map Prod.fst).Nodup) {key : α} {b : β} :
    es.lookup key = some b ↔ (key, b) ∈ es := by
  induction es with
  | nil => simp
  | cons e es ih =>
    obtain ⟨k, c⟩ := e
    obtain ⟨hnew, hes⟩ := List.nodup_cons.mp h
    rw [List.lookup_cons, List.mem_cons]
    cases hk : key == k with
    | true =>
      obtain rfl := eq_of_beq hk
      have hmem : (key, b) ∉ es := fun hmem => hnew (List.mem_map.mpr ⟨_, hmem, rfl⟩)
      simp [hmem, eq_comm]
    | false =>
      have hne : key ≠ k := fun heq => by simp [heq] at hk
      simp [ih hes, hne]

/-! ## Paths -/

/-- A trail goes on into an entry of the folder where it ends. -/
theorem Trail.enter_last (h : v.Trail links here names p) (hfolder : v.isFolder p = true)
    (hname : IsEntry name)
    (hnode : v.node? (name :: p) = some n) (hlink : ∀ target, n ≠ .link target) :
    v.Trail links here (names ++ [name]) (name :: p) := by
  induction h with
  | stop links here => exact .enter hfolder hname hnode hlink (.stop links _)
  | stay hhere _ ih => exact .stay hhere (ih hfolder hnode)
  | up hhere _ ih => exact .up hhere (ih hfolder hnode)
  | enter hhere hnext hthere hplain _ ih =>
    exact .enter hhere hnext hthere hplain (ih hfolder hnode)
  | jump hhere hnext hthere _ ih =>
    have hrest := ih hfolder hnode
    rw [List.append_assoc] at hrest
    exact .jump hhere hnext hthere hrest

theorem ne_nil_of_checkPath (h : checkPath b = .ok ()) : b ≠ [] := by
  rintro rfl
  cases h

/-- A path that does not start at the top leads through some name. -/
theorem stepsOf_ne_nil (hne : b ≠ []) (hslash : b.head? ≠ some slash) : stepsOf b ≠ [] := by
  obtain ⟨c, rest, rfl⟩ := List.exists_cons_of_ne_nil hne
  have hc : c ≠ slash := fun h => hslash (by rw [h]; rfl)
  have hnames : (Text.split slash (c :: rest)).filter (fun name => !name.isEmpty) ≠ [] := by
    rw [Text.split, if_neg hc]
    split <;> simp
  rw [stepsOf]
  split
  · simp
  · exact hnames

namespace IsTree

theorem node?_eq_some_iff (hv : v.IsTree) :
    v.node? (name :: here) = some n ↔ (name, n) ∈ v.children here := by
  rw [node?, if_neg (List.cons_ne_nil _ _), lookup_eq_some_iff hv.once, mem_children]

theorem isFileName (hv : v.IsTree) (h : (name, n) ∈ v.children here) : IsFileName name :=
  hv.named _ (mem_children.mp h) name List.mem_cons_self

theorem nodup_children (hv : v.IsTree) (here : Place) : ((v.children here).map Prod.fst).Nodup := by
  refine List.pairwise_map.mpr
    (.filterMap _ (fun e e' hne b hb b' hb' heq => ?_) (List.pairwise_map.mp hv.once))
  obtain ⟨_ | ⟨name, above⟩, n⟩ := e
  · cases hb
  obtain ⟨_ | ⟨name', above'⟩, n'⟩ := e'
  · cases hb'
  simp only [Option.ite_none_right_eq_some, Option.some.injEq] at hb hb'
  obtain ⟨rfl, rfl⟩ := hb
  obtain ⟨rfl, rfl⟩ := hb'
  exact hne (congrArg (· :: _) heq)

theorem isFolder_tail (hv : v.IsTree) (h : v.isFolder here = true) :
    v.isFolder here.tail = true := by
  cases here with
  | nil => exact h
  | cons name above =>
    rw [isFolder, beq_iff_eq, hv.node?_eq_some_iff, mem_children] at h
    exact hv.above _ h

/-- A trail from a folder, or of some names, leads to a folder or a file. -/
theorem trail_end (hv : v.IsTree) (h : v.Trail links here names p)
    (hstart : v.isFolder here = true ∨ names ≠ []) :
    v.isFolder p = true ∨ ∃ content, v.node? p = some (.file content) := by
  induction h with
  | stop => exact .inl (hstart.resolve_right (· rfl))
  | stay hfolder _ ih => exact ih (.inl hfolder)
  | up hfolder _ ih => exact ih (.inl (hv.isFolder_tail hfolder))
  | @enter _ _ _ _ names n hfolder hname hnode hlink h ih =>
    cases n with
    | folder => exact ih (.inl (beq_iff_eq.mpr hnode))
    | link target => exact absurd rfl (hlink target)
    | file content =>
      cases names with
      | nil =>
        cases h
        exact .inr ⟨content, hnode⟩
      | cons next names => exact ih (.inr (List.cons_ne_nil _ _))
  | @jump _ here _ _ target names hfolder _ _ _ ih =>
    refine ih (.inl ?_)
    rw [rootOf]
    split
    · rfl
    · exact hfolder

theorem place_end (hv : v.IsTree) (h : v.place b = .ok p) :
    v.isFolder p = true ∨ ∃ content, v.node? p = some (.file content) := by
  rw [place] at h
  cases hcheck : checkPath b with
  | error e => simp [hcheck, bind, Except.bind] at h
  | ok =>
    simp only [hcheck, bind, Except.bind] at h
    refine hv.trail_end (trail_of_follow h) ?_
    by_cases hslash : b.head? = some slash
    · rw [rootOf, if_pos hslash]
      exact .inl rfl
    · exact .inr (stepsOf_ne_nil (ne_nil_of_checkPath hcheck) hslash)

/-- Whether there is a folder at a path is told from where the path leads. -/
theorem isFolder?_eq_true_iff (hv : v.IsTree) (hfit : Text.unfit? path = none) :
    v.isFolder? path = .ok true ↔ ∃ p, v.place (Utf8.bytes path) = .ok p ∧ v.isFolder p = true := by
  rw [isFolder?, status, located_of_fit hfit]
  cases hp : v.place (Utf8.bytes path) with
  | error e =>
    have hno : asks (.error (.system e path none)) ≠ .ok true := by
      rw [asks]
      split <;> simp
    constructor
    · exact fun h => absurd h hno
    · rintro ⟨p, hp', -⟩
      cases hp'
  | ok p =>
    rcases hv.place_end hp with hfolder | ⟨content, hfile⟩
    · have hnode := beq_iff_eq.mp hfolder
      simp only [bind, Except.bind, hnode]
      exact ⟨fun _ => ⟨p, rfl, hfolder⟩, fun _ => rfl⟩
    · have hno : v.isFolder p = false := by
        rw [isFolder, hfile]
        rfl
      simp only [bind, Except.bind, hfile]
      constructor
      · intro h
        cases h
      · rintro ⟨q, hq, hfolder⟩
        obtain rfl := Except.ok.inj hq
        cases hno.symm.trans hfolder

theorem exists_folder (hv : v.IsTree) (hfit : Text.unfit? path = none)
    (hthere : v.exists? path = .ok true) (hfile : v.isFile? path = .ok false) :
    ∃ p, v.place (Utf8.bytes path) = .ok p ∧ v.isFolder p = true := by
  rw [exists?, status, located_of_fit hfit] at hthere
  rw [isFile?, status, located_of_fit hfit] at hfile
  cases hp : v.place (Utf8.bytes path) with
  | error e =>
    simp only [hp, bind, Except.bind, Except.mapError, Except.map, asks] at hthere
    split at hthere <;> cases hthere
  | ok p =>
    refine ⟨p, rfl, (hv.place_end hp).resolve_right ?_⟩
    rintro ⟨content, hnode⟩
    simp only [hp, bind, Except.bind, hnode] at hfile
    cases hfile

end IsTree

end FileTags.Volume

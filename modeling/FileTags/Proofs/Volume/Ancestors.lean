import FileTags.Proofs.Volume.Tree

/-!
# Folders above a path

A path leads through every path above it. When a folder is made with what is missing above it, each
new folder is one that a path above names, and it stays where this path leads for as long as the
longer path can be followed.
-/

set_option autoImplicit false

namespace FileTags

namespace Path

variable {p q : Path}

theorem IsAbove.of_parent (h : q.IsAbove p.parent) : q.IsAbove p :=
  ⟨h.1, h.2.trans (List.dropLast_prefix _)⟩

theorem IsAbove.unfit? (h : q.IsAbove p) (hp : Text.unfit? p.text = none) :
    Text.unfit? q.text = none :=
  unfit?_text_iff.mpr fun name hname => unfit?_text_iff.mp hp name (h.2.subset hname)

theorem IsNormal.of_isAbove (hp : p.IsNormal) (h : q.IsAbove p) : q.IsNormal :=
  fun name hname => hp name (h.2.subset hname)

end Path

namespace Volume

variable {u v w : Volume} {here p q : Place} {names more : List Blob} {links : Nat}
  {path above : Path}

theorem Trail.of_append (h : v.Trail links here (names ++ more) p) :
    ∃ m, v.Trail links here names m := by
  generalize hall : names ++ more = all at h
  induction h generalizing names with
  | stop =>
    obtain ⟨rfl, -⟩ := List.append_eq_nil_iff.mp hall
    exact ⟨_, .stop _ _⟩
  | stay hfolder _ ih =>
    cases names with
    | nil => exact ⟨_, .stop _ _⟩
    | cons first names =>
      obtain ⟨rfl, hrest⟩ := List.cons.inj hall
      obtain ⟨m, hm⟩ := ih hrest
      exact ⟨m, .stay hfolder hm⟩
  | up hfolder _ ih =>
    cases names with
    | nil => exact ⟨_, .stop _ _⟩
    | cons first names =>
      obtain ⟨rfl, hrest⟩ := List.cons.inj hall
      obtain ⟨m, hm⟩ := ih hrest
      exact ⟨m, .up hfolder hm⟩
  | enter hfolder hname hnode hlink _ ih =>
    cases names with
    | nil => exact ⟨_, .stop _ _⟩
    | cons first names =>
      obtain ⟨rfl, hrest⟩ := List.cons.inj hall
      obtain ⟨m, hm⟩ := ih hrest
      exact ⟨m, .enter hfolder hname hnode hlink hm⟩
  | jump hfolder hname hnode _ ih =>
    cases names with
    | nil => exact ⟨_, .stop _ _⟩
    | cons first names =>
      obtain ⟨rfl, hrest⟩ := List.cons.inj hall
      obtain ⟨m, hm⟩ := ih ((List.append_assoc _ _ _).trans (congrArg _ hrest))
      exact ⟨m, .jump hfolder hname hnode hm⟩

/-! ## Places that paths name -/

/-- A path without names leads to a folder that it does not name. -/
theorem Names.names_ne_nil (h : v.Names path.text p) : path.names ≠ [] := by
  obtain ⟨folder, name, hslot, -⟩ := h
  obtain ⟨slashes, names⟩ := path
  rintro rfl
  cases slashes with
  | zero =>
    have hsteps : stepsOf (Utf8.bytes (Path.text ⟨0, []⟩)) = [dot] := rfl
    rw [slot, hsteps] at hslot
    cases hcheck : checkPath (Utf8.bytes (Path.text ⟨0, []⟩)) with
    | error e => simp [hcheck, bind, Except.bind] at hslot
    | ok => cases hfolder : v.isFolder (rootOf v.work (Utf8.bytes (Path.text ⟨0, []⟩))) <;>
        simp [hcheck, follow_nil, hfolder, bind, Except.bind, pure, Except.pure] at hslot
  | succ k =>
    rw [slot, Path.stepsOf_slashes] at hslot
    cases hcheck : checkPath (Utf8.bytes (Path.text ⟨k + 1, []⟩)) with
    | error e => simp [hcheck, bind, Except.bind] at hslot
    | ok => simp [hcheck, follow_nil, bind, Except.bind, pure, Except.pure] at hslot

/-- What a path names stands under the last name in the folder that the others lead to. -/
theorem Names.exists_trail (hnormal : path.IsNormal) (hfit : Text.unfit? path.text = none)
    (h : v.Names path.text p) :
    checkPath (Utf8.bytes path.text) = .ok () ∧
    ∃ folder names name, path.names.map Utf8.bytes = names ++ [name] ∧
      p = name :: folder ∧ v.isFolder folder = true ∧ IsEntry name ∧
      v.Trail linkLimit (rootOf v.work (Utf8.bytes path.text)) names folder := by
  have hne := h.names_ne_nil
  obtain ⟨folder, name, hslot, rfl⟩ := h
  rw [slot, Path.stepsOf_text hnormal hfit hne] at hslot
  have hmap : path.names.map Utf8.bytes ≠ [] := by simpa using hne
  generalize path.names.map Utf8.bytes = steps at hslot hmap ⊢
  cases hcheck : checkPath (Utf8.bytes path.text) with
  | error e => simp [hcheck, bind, Except.bind] at hslot
  | ok =>
    cases hfollow : v.follow linkLimit (rootOf v.work (Utf8.bytes path.text)) steps.dropLast with
    | error e => simp [hcheck, hfollow, bind, Except.bind] at hslot
    | ok m =>
      simp only [hcheck, hfollow, bind, Except.bind, List.getLast?_eq_some_getLast hmap] at hslot
      cases hfolder : v.isFolder m with
      | false => simp [hfolder] at hslot
      | true =>
        by_cases hdot : steps.getLast hmap = dot
        · simp [hfolder, hdot, pure, Except.pure] at hslot
        by_cases hdots : steps.getLast hmap = dots
        · rw [hfolder, hdots] at hslot
          cases hslot
        by_cases hsize : (steps.getLast hmap).length > nameLimit
        · simp [hfolder, hdot, hdots, hsize] at hslot
        simp only [hfolder, hdot, hdots, hsize, Bool.not_true, Bool.false_eq_true, if_false, pure,
          Except.pure] at hslot
        cases hslot
        exact ⟨rfl, folder, steps.dropLast, _, (List.dropLast_concat_getLast hmap).symm, rfl,
          hfolder, ⟨hdot, hdots, Nat.not_lt.mp hsize⟩, trail_of_follow hfollow⟩

theorem Names.place (hnormal : path.IsNormal) (hfit : Text.unfit? path.text = none)
    (h : v.Names path.text p)
    (hp : v.node? p = some .folder) : v.place (Utf8.bytes path.text) = .ok p := by
  obtain ⟨hcheck, folder, names, name, hnames, rfl, hfolder, hentry, htrail⟩ :=
    h.exists_trail hnormal hfit
  rw [Volume.place, hcheck, Path.stepsOf_text hnormal hfit h.names_ne_nil, hnames]
  exact (htrail.enter_last hfolder hentry hp (by simp)).follow

/-- Where a path names something, every path above it leads somewhere, if it is not too long. -/
theorem Names.exists_place (hnormal : path.IsNormal) (hfit : Text.unfit? path.text = none)
    (h : v.Names path.text p) (habove : above.IsAbove path.parent) (hne : above.names ≠ [])
    (hcheck : checkPath (Utf8.bytes above.text) = .ok ()) :
    ∃ m, v.place (Utf8.bytes above.text) = .ok m := by
  obtain ⟨-, folder, names, name, hnames, -, -, -, htrail⟩ := h.exists_trail hnormal hfit
  have hprefix : above.names.map Utf8.bytes <+: names := by
    have hparent := habove.2.map Utf8.bytes
    rwa [Path.parent, List.map_dropLast, hnames, List.dropLast_concat] at hparent
  have hpath : above.IsNormal := hnormal.of_isAbove habove.of_parent
  have hpathFit := habove.of_parent.unfit? hfit
  obtain ⟨more, rfl⟩ := hprefix
  obtain ⟨m, hm⟩ := htrail.of_append
  have hslashes : above.slashes = path.slashes := habove.1
  refine ⟨m, ?_⟩
  rw [Path.rootOf_text hnormal hfit, ← hslashes, ← Path.rootOf_text hpath hpathFit] at hm
  rw [Volume.place, hcheck, Path.stepsOf_text hpath hpathFit hne]
  exact hm.follow

/-! ## Folders that are made -/

theorem Grows.extends (h : v.Grows w) : v.Extends w := ⟨fun _ _ hp => h.keeps hp, h.work⟩

/-- The second volume is the first with more folders, each of them named by the path or by one above
it. -/
structure GrowsAlong (path : Path) (v w : Volume) : Prop extends Grows v w where
  rest : w = { v with nodes := w.nodes }
  along : ∀ p, v.node? p = none → w.node? p = some .folder →
    ∃ above : Path, above.IsAbove path ∧ Text.unfit? above.text = none ∧ w.Names above.text p

namespace GrowsAlong

theorem refl (path : Path) (v : Volume) : v.GrowsAlong path v where
  toGrows := .refl v
  rest := rfl
  along p hnone hfolder := by
    rw [hnone] at hfolder
    cases hfolder

theorem trans (h : u.GrowsAlong path v) (h' : v.GrowsAlong path w) : u.GrowsAlong path w where
  toGrows := h.toGrows.trans h'.toGrows
  rest := h'.rest.trans (by rw [h.rest])
  along p hnone hfolder := by
    cases hp : v.node? p with
    | none => exact h'.along p hp hfolder
    | some n =>
      obtain rfl : n = .folder := Option.some.inj ((h'.keeps hp).symm.trans hfolder)
      obtain ⟨above, habove, hfit, hnames⟩ := h.along p hnone hp
      exact ⟨above, habove, hfit, hnames.mono h'.toGrows.extends⟩

end GrowsAlong

/-- A folder that a path above names is where this path leads in every volume that has all that the
longer path goes through. -/
theorem Names.leads_above (hnormal : path.IsNormal) (hfit : Text.unfit? path.text = none)
    (h : v.Names path.text p) (hu : v.Extends u)
    (hw : v.Extends w) (habove : above.IsAbove path.parent) (hq : u.Names above.text q)
    (hfolder : u.node? q = some .folder) :
    w.Leads above.text q := by
  have hpath : above.IsNormal := hnormal.of_isAbove habove.of_parent
  have hpathFit := habove.of_parent.unfit? hfit
  obtain ⟨m, hm⟩ :=
    h.exists_place hnormal hfit habove hq.names_ne_nil (hq.exists_trail hpath hpathFit).1
  -- The path above leads to the folder in the larger volume, and so it does where the longer path
  -- is followed.
  obtain rfl : m = q := Except.ok.inj ((hu.place hm).symm.trans (hq.place hpath hpathFit hfolder))
  exact leads_iff.mpr ⟨hpathFit, hw.place hm⟩

end Volume

end FileTags

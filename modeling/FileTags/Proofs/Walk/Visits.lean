import FileTags.Proofs.Volume.Tree
import FileTags.Proofs.Walk.Listing
import Mathlib.Data.List.Nodup
import Mathlib.Data.List.TakeWhile

/-!
# The course of a walk

A walk goes from a folder into entries that are folders, or links to folders, and on from there. In
a tree the course of the walk is made of the names through which it comes to a folder, each time
once. A path grows with every step, so the depth that a walk is limited to is not reached where no
path is too long for the system.
-/

set_option autoImplicit false

namespace FileTags

theorem Text.length_bytes_pos {t : Text} (h : t ≠ []) : 0 < (Utf8.bytes t).length :=
  List.length_pos_iff.mpr fun hnil => h (Text.bytes_eq_nil.mp hnil)

namespace Walk

open Volume

variable {s : Settings} {v : Volume} {folder name : Text} {names : List Text} {here there : Place}
  {e : Text × Node}
  {n : Node} {depth : Nat}

/-! ## Paths of entries -/

theorem below_of_slash (h : folder.getLast? = some (.char '/')) :
    below folder name = folder ++ name := if_pos h

theorem below_of_no_slash (h : folder.getLast? ≠ some (.char '/')) :
    below folder name = folder ++ .char '/' :: name := if_neg h

theorem below_ne_nil (hfolder : folder ≠ []) (name : Text) : below folder name ≠ [] := by
  rw [below]
  split <;> simp [hfolder]

/-- The path of an entry is that of the folder, or this without its slash at the end, with a slash
and the name behind. -/
theorem exists_below (folder name : Text) :
    ∃ front, below folder name = front ++ .char '/' :: name ∧
    (folder = front ∨ folder = front ++ [.char '/']) := by
  by_cases h : folder.getLast? = some (.char '/')
  · obtain ⟨front, rfl⟩ := List.getLast?_eq_some_iff.mp h
    exact ⟨front, by rw [below_of_slash h, List.append_assoc, List.singleton_append], .inr rfl⟩
  · exact ⟨folder, below_of_no_slash h, .inl rfl⟩

theorem length_lt_below (folder : Text) (hname : name ≠ []) :
    (Utf8.bytes folder).length < (Utf8.bytes (below folder name)).length := by
  obtain ⟨front, hbelow, hfolder⟩ := exists_below folder name
  have hpos := Text.length_bytes_pos hname
  have hslash : (Utf8.bytes [.char '/']).length = 1 := rfl
  rw [hbelow, ← List.singleton_append, Utf8.bytes_append, Utf8.bytes_append, List.length_append,
    List.length_append, hslash]
  rcases hfolder with rfl | rfl
  · omega
  · rw [Utf8.bytes_append, List.length_append, hslash]
    omega

/-- A part more, which is kept if a test holds for it that drops what is empty. -/
theorem filter_split_append {α : Type} [DecidableEq α] {sep : α} {keep : List α → Bool}
    (hkeep : keep [] = false)
    {folder front part : List α} (hfolder : folder = front ∨ folder = front ++ [sep])
    (hpart : sep ∉ part) :
    (Text.split sep (front ++ sep :: part)).filter keep =
    (Text.split sep folder).filter keep ++ [part].filter keep := by
  rw [Text.split_append_cons, Text.split_of_not_mem hpart, List.filter_append]
  rcases hfolder with rfl | rfl
  · rfl
  · have hempty : [([] : List α)].filter keep = [] := List.filter_cons_of_neg (by simp [hkeep])
    rw [Text.split_append_cons, List.filter_append, Text.split, hempty, List.append_nil]

theorem takeWhile_below (hfolder : folder ≠ []) (hname : .char '/' ∉ name) :
    (below folder name).takeWhile (· == .char '/') = folder.takeWhile (· == .char '/') := by
  by_cases h : folder.getLast? = some (.char '/')
  · rw [below_of_slash h, List.takeWhile_append, Path.takeWhile_slash_of_not_mem hname,
      List.append_nil]
    split
    · next hall => exact ((List.takeWhile_prefix _).eq_of_length hall).symm
    · rfl
  · rw [below_of_no_slash h, List.takeWhile_append, if_neg]
    -- The folder is not made of slashes alone, as it does not end with one.
    intro hall
    have hmem : folder.getLast hfolder ∈ folder.takeWhile (· == .char '/') := by
      rw [(List.takeWhile_prefix _).eq_of_length hall]
      exact List.getLast_mem hfolder
    have hslash : folder.getLast hfolder = .char '/' := by simpa using List.mem_takeWhile_imp hmem
    exact h ((List.getLast?_eq_some_getLast hfolder).trans (congrArg some hslash))

structure IsEntryName (name : Text) : Prop where
  isFileName : IsFileName (Utf8.bytes name)
  shown : Text.ofBytes (Utf8.bytes name) = name

namespace IsEntryName

theorem ne_nil (h : IsEntryName name) : name ≠ [] := by
  rintro rfl
  exact h.isFileName.ne_nil rfl

theorem no_slash (h : IsEntryName name) : .char '/' ∉ name := fun hmem =>
  h.isFileName.no_slash (List.mem_flatMap.mpr ⟨_, hmem, by decide⟩)

theorem isName (h : IsEntryName name) : Path.isName name = true := by
  have hdot : name ≠ [.char '.'] := by
    rintro rfl
    exact h.isFileName.entry.ne_dot rfl
  simp [Path.isName, h.ne_nil, hdot]

theorem fit (h : IsEntryName name) : Text.unfit? name = none := by
  rw [← h.shown]
  exact Text.unfit?_ofBytes h.isFileName.no_null

end IsEntryName

theorem ofText_below (hfolder : folder ≠ []) (hname : IsEntryName name) :
    Path.ofText (below folder name) = ⟨(Path.ofText folder).slashes,
      (Path.ofText folder).names ++ [name]⟩ := by
  obtain ⟨front, hbelow, hfront⟩ := exists_below folder name
  have hnames : (Text.split (.char '/') (front ++ .char '/' :: name)).filter Path.isName =
      (Text.split (.char '/') folder).filter Path.isName ++ [name].filter Path.isName :=
    filter_split_append rfl hfront hname.no_slash
  rw [Path.ofText, takeWhile_below hfolder hname.no_slash, hbelow, hnames, List.filter_singleton,
    hname.isName]
  rfl

def walked (folder : Text) (names : List Text) : Text := names.foldl below folder

theorem ofText_walked (hfolder : folder ≠ []) (hnames : ∀ name ∈ names, IsEntryName name) :
    Path.ofText (walked folder names) = ⟨(Path.ofText folder).slashes,
      (Path.ofText folder).names ++ names⟩ := by
  induction names generalizing folder with
  | nil => rw [List.append_nil]; rfl
  | cons name names ih =>
    obtain ⟨hname, hrest⟩ := List.forall_mem_cons.mp hnames
    have hbelow := ih (below_ne_nil hfolder name) hrest
    rw [ofText_below hfolder hname, List.append_assoc] at hbelow
    exact hbelow

/-! ## Folders that a walk stands in -/

def partsOf (path : Blob) : List Blob := (Text.split slash path).filter fun part => !part.isEmpty

theorem bytes_below (folder name : Text) :
    ∃ front, Utf8.bytes (below folder name) = front ++ slash :: Utf8.bytes name ∧
      (Utf8.bytes folder = front ∨ Utf8.bytes folder = front ++ [slash]) := by
  obtain ⟨front, hbelow, hfront⟩ := exists_below folder name
  refine ⟨Utf8.bytes front, by rw [hbelow, Utf8.bytes_append]; rfl,
    hfront.imp (congrArg Utf8.bytes) ?_⟩
  rintro rfl
  rw [Utf8.bytes_append]
  rfl

theorem partsOf_below (hname : IsEntryName name) (folder : Text) :
    partsOf (Utf8.bytes (below folder name)) =
      partsOf (Utf8.bytes folder) ++ [Utf8.bytes name] := by
  obtain ⟨front, hbelow, hfront⟩ := bytes_below folder name
  rw [partsOf, hbelow, filter_split_append rfl hfront hname.isFileName.no_slash, partsOf]
  simp [hname.isFileName.ne_nil]

theorem stepsOf_below (hname : IsEntryName name) (folder : Text) :
    stepsOf (Utf8.bytes (below folder name)) = partsOf (Utf8.bytes (below folder name)) := by
  rw [stepsOf, if_neg, partsOf]
  rintro ⟨hlast, -⟩
  obtain ⟨front, hbelow, -⟩ := bytes_below folder name
  rw [hbelow, List.getLast?_append, List.getLast?_cons,
    List.getLast?_eq_some_getLast hname.isFileName.ne_nil] at hlast
  exact hname.isFileName.no_slash (Option.some.inj hlast ▸ List.getLast_mem hname.isFileName.ne_nil)

/-- A walk stands in the folder at a place, to which a path has led it that has no slash at its
end. -/
structure Stands (v : Volume) (folder : Text) (here : Place) : Prop where
  fit : Text.unfit? folder = none
  steps : stepsOf (Utf8.bytes folder) = partsOf (Utf8.bytes folder)
  place : v.place (Utf8.bytes folder) = .ok here
  isFolder : v.isFolder here = true

def entries (v : Volume) (here : Place) : List (Text × Node) :=
  (v.children here).map fun e => (Text.ofBytes e.1, e.2)

namespace Stands

theorem checkPath (h : Stands v folder here) : checkPath (Utf8.bytes folder) = .ok () := by
  have hplace := h.place
  rw [Volume.place] at hplace
  cases hcheck : Volume.checkPath (Utf8.bytes folder) with
  | error e => simp [hcheck, bind, Except.bind] at hplace
  | ok => rfl

theorem ne_nil (h : Stands v folder here) : folder ≠ [] := by
  rintro rfl
  exact ne_nil_of_checkPath h.checkPath rfl

theorem length_le (h : Stands v folder here) : (Utf8.bytes folder).length ≤ pathLimit := by
  have hcheck := h.checkPath
  rw [Volume.checkPath, if_neg (ne_nil_of_checkPath hcheck)] at hcheck
  split at hcheck
  · cases hcheck
  · next hle => exact Nat.not_lt.mp hle

theorem follow (h : Stands v folder here) :
    v.follow linkLimit (rootOf v.work (Utf8.bytes folder)) (partsOf (Utf8.bytes folder)) =
      .ok here := by
  have hplace := h.place
  rw [Volume.place, h.checkPath, h.steps] at hplace
  exact hplace

theorem list (h : Stands v folder here) : v.list folder = .ok (entries v here) := by
  rw [Volume.list, located_of_fit h.fit, h.place]
  simp only [bind, Except.bind, h.isFolder]
  rfl

theorem head?_bytes_below (hfolder : folder ≠ []) (name : Text) :
    (Utf8.bytes (below folder name)).head? = (Utf8.bytes folder).head? := by
  obtain ⟨c, rest, rfl⟩ := List.exists_cons_of_ne_nil hfolder
  obtain ⟨x, xs, hx⟩ := List.exists_cons_of_ne_nil (Text.runeBytes_ne_nil c)
  rw [below]
  split <;> simp [Utf8.bytes_cons, hx]

/-- A folder in a folder is found at the path of the entry, if this is not too long. -/
theorem enter (h : Stands v folder here) (hname : IsEntryName name)
    (hnode : v.node? (Utf8.bytes name :: here) = some .folder)
    (hsize : (Utf8.bytes (below folder name)).length ≤ pathLimit) :
    Stands v (below folder name) (Utf8.bytes name :: here) where
  fit := unfit?_below h.fit hname.fit
  steps := stepsOf_below hname folder
  place := by
    have hne : Utf8.bytes (below folder name) ≠ [] :=
      fun hnil => below_ne_nil h.ne_nil name (Text.bytes_eq_nil.mp hnil)
    have hcheck : Volume.checkPath (Utf8.bytes (below folder name)) = .ok () := by
      rw [Volume.checkPath, if_neg hne, if_neg (Nat.not_lt.mpr hsize)]
    have hstart : rootOf v.work (Utf8.bytes (below folder name)) =
        rootOf v.work (Utf8.bytes folder) := by
      rw [rootOf, rootOf, head?_bytes_below h.ne_nil]
    have htrail :=
      (trail_of_follow h.follow).enter_last h.isFolder hname.isFileName.entry hnode fun target =>
        Node.noConfusion
    rw [Volume.place, hcheck, stepsOf_below hname, partsOf_below hname, hstart]
    exact htrail.follow
  isFolder := beq_iff_eq.mpr hnode

theorem jump (h : Stands v folder here) (hname : IsEntryName name)
    (hplace : v.place (Utf8.bytes (below folder name)) = .ok there)
    (hfolder : v.isFolder there = true) :
    Stands v (below folder name) there where
  fit := unfit?_below h.fit hname.fit
  steps := stepsOf_below hname folder
  place := hplace
  isFolder := hfolder

end Stands

/-! ## What a walk comes to -/

inductive LeadsOn (v : Volume) (folder : Text) (here : Place) (name : Text) : Place → Prop
  | folder (hnode : v.node? (Utf8.bytes name :: here) = some .folder) :
      LeadsOn v folder here name (Utf8.bytes name :: here)
  | link {target : Blob} {there : Place}
      (hnode : v.node? (Utf8.bytes name :: here) = some (.link target))
      (hplace : v.place (Utf8.bytes (below folder name)) = .ok there)
        (hfolder : v.isFolder there = true) :
      LeadsOn v folder here name there

/-- An entry that is no folder and leads to none, under the name that shows it. -/
structure IsLeaf (v : Volume) (folder : Text) (here : Place) (name : Text) : Prop where
  shown : Text.ofBytes (Utf8.bytes name) = name
  there : v.node? (Utf8.bytes name :: here) ≠ none
  plain : ∀ p, ¬ LeadsOn v folder here name p

/-- A walk goes on into an entry that leads to a folder: it is recursive, the name is not ignored,
and links are followed if the entry is one. -/
structure Enters (s : Settings) (v : Volume) (folder : Text) (here : Place) (name : Text)
    (there : Place) : Prop where
  shown : Text.ofBytes (Utf8.bytes name) = name
  leads : LeadsOn v folder here name there
  recursive : s.recursive = true
  kept : s.ignores name = false
  linked : s.followLinks = true ∨ v.node? (Utf8.bytes name :: here) = some .folder

inductive Visits (s : Settings) (v : Volume) : Text → Place → List Text → Place → Prop
  | stay (folder : Text) (here : Place) : Visits s v folder here [] here
  | go {folder name : Text} {here there last : Place} {names : List Text}
      (h : Enters s v folder here name there)
      (hrest : Visits s v (below folder name) there names last) :
        Visits s v folder here (name :: names) last

/-- No folder that a walk comes to has a path that is too long. -/
def StaysShort (s : Settings) (v : Volume) (folder : Text) (here : Place) : Prop :=
  ∀ names there, Visits s v folder here names there →
    (Utf8.bytes (walked folder names)).length ≤ pathLimit

theorem LeadsOn.exists_node {p : Place} (h : LeadsOn v folder here name p) :
    ∃ n, v.node? (Utf8.bytes name :: here) = some n := by
  cases h with
  | folder hnode => exact ⟨_, hnode⟩
  | link hnode => exact ⟨_, hnode⟩

theorem mem_entries (hv : v.IsTree) : (name, n) ∈ entries v here ↔
    Text.ofBytes (Utf8.bytes name) = name ∧ v.node? (Utf8.bytes name :: here) = some n := by
  rw [hv.node?_eq_some_iff]
  constructor
  · intro h
    obtain ⟨⟨b, n⟩, hmem, heq⟩ := List.mem_map.mp h
    obtain ⟨rfl, rfl⟩ := Prod.mk.inj heq
    rw [Text.bytes_ofBytes]
    exact ⟨rfl, hmem⟩
  · exact fun ⟨hshown, hmem⟩ => List.mem_map.mpr ⟨_, hmem, by rw [hshown]⟩

theorem isEntryName_of_node? (hv : v.IsTree) (hshown : Text.ofBytes (Utf8.bytes name) = name)
    (hnode : v.node? (Utf8.bytes name :: here) = some n) : IsEntryName name :=
  ⟨hv.isFileName (hv.node?_eq_some_iff.mp hnode), hshown⟩

theorem Enters.isEntryName (hv : v.IsTree) (h : Enters s v folder here name there) :
    IsEntryName name := by
  obtain ⟨n, hnode⟩ := h.leads.exists_node
  exact isEntryName_of_node? hv h.shown hnode

theorem leadsToFolder_iff (hv : v.IsTree) (h : Stands v folder here) (he : e ∈ entries v here) :
    leadsToFolder v folder e = true ↔ ∃ p, LeadsOn v folder here e.1 p := by
  obtain ⟨name, n⟩ := e
  obtain ⟨hshown, hnode⟩ := (mem_entries hv).mp he
  have hfit := unfit?_below h.fit (isEntryName_of_node? hv hshown hnode).fit
  cases n with
  | folder => exact ⟨fun _ => ⟨_, .folder hnode⟩, fun _ => rfl⟩
  | file content =>
    constructor
    · intro hleads
      cases hleads
    · rintro ⟨p, hp⟩
      cases hp with
      | folder hfolder => cases hnode.symm.trans hfolder
      | link hlink => cases hnode.symm.trans hlink
  | link target =>
    have hfolder : leadsToFolder v folder (name, .link target) = true ↔
        v.isFolder? (below folder name) = .ok true := by
      rw [leadsToFolder]
      cases v.isFolder? (below folder name) with
      | ok b => simp
      | error x => simp
    rw [hfolder, hv.isFolder?_eq_true_iff hfit]
    constructor
    · rintro ⟨p, hplace, hp⟩
      exact ⟨p, .link hnode hplace hp⟩
    · rintro ⟨p, hp⟩
      cases hp with
      | folder hfolder => cases hnode.symm.trans hfolder
      | link _ hplace hp => exact ⟨p, hplace, hp⟩

/-- A walk goes on into the entries that lead to folders and are entered. -/
theorem isEntered_iff (hv : v.IsTree) (h : Stands v folder here) (he : e ∈ entries v here) :
    leadsToFolder v folder e = true ∧ isEntered s e = true ↔ ∃ p, Enters s v folder here e.1 p := by
  rw [leadsToFolder_iff hv h he]
  obtain ⟨hshown, hnode⟩ := (mem_entries hv).mp he
  have hentered : isEntered s e = true ↔ s.recursive = true ∧ s.ignores e.1 = false ∧
      (s.followLinks = true ∨ ∀ target, e.2 ≠ .link target) := by
    obtain ⟨name, n⟩ := e
    cases n <;> simp [isEntered, and_assoc]
  rw [hentered]
  constructor
  · rintro ⟨⟨p, hp⟩, hrec, hkept, hlinked⟩
    refine ⟨p, hshown, hp, hrec, hkept, hlinked.imp_right fun hno => ?_⟩
    cases hp with
    | folder hfolder => exact hfolder
    | link hlink => exact absurd (Option.some.inj (hnode.symm.trans hlink)) (hno _)
  · rintro ⟨p, -, hleads, hrec, hkept, hlinked⟩
    refine ⟨⟨p, hleads⟩, hrec, hkept, hlinked.imp_right fun hfolder target htarget => ?_⟩
    rw [htarget, hfolder] at hnode
    cases hnode

theorem exists_enters_iff (hv : v.IsTree) (h : Stands v folder here) :
    (∃ n, (name, n) ∈ entries v here ∧ leadsToFolder v folder (name, n) = true ∧
      isEntered s (name, n) = true) ↔
      ∃ there, Enters s v folder here name there := by
  constructor
  · rintro ⟨n, hmem, hentered⟩
    exact (isEntered_iff hv h hmem).mp hentered
  · rintro ⟨there, he⟩
    obtain ⟨n, hnode⟩ := he.leads.exists_node
    have hmem := (mem_entries hv).mpr ⟨he.shown, hnode⟩
    exact ⟨n, hmem, (isEntered_iff hv h hmem).mpr ⟨there, he⟩⟩

theorem StaysShort.enter (hshort : StaysShort s v folder here)
    (h : Enters s v folder here name there) :
    StaysShort s v (below folder name) there :=
      fun names last hvisits => hshort (name :: names) last (.go h hvisits)

theorem Enters.stands (hv : v.IsTree) (h : Stands v folder here)
    (hshort : StaysShort s v folder here)
    (he : Enters s v folder here name there) : Stands v (below folder name) there := by
  have hname := he.isEntryName hv
  have hsize := hshort.enter he [] there (.stay _ _)
  cases he.leads with
  | folder hnode => exact h.enter hname hnode hsize
  | link _ hplace hfolder => exact h.jump hname hplace hfolder

namespace Visits

theorem stands (hv : v.IsTree) (h : Stands v folder here) (hshort : StaysShort s v folder here)
    (hvisits : Visits s v folder here names there) : Stands v (walked folder names) there := by
  induction hvisits with
  | stay => exact h
  | go he _ ih => exact ih (he.stands hv h hshort) (hshort.enter he)

theorem isEntryName (hv : v.IsTree) (h : Visits s v folder here names there) :
    ∀ name ∈ names, IsEntryName name := by
  induction h with
  | stay => exact List.forall_mem_nil _
  | go he _ ih => exact List.forall_mem_cons.mpr ⟨he.isEntryName hv, ih⟩

end Visits

/-! ## Paths that are short enough -/

def namesSize : List Blob → Nat
  | [] => 0
  | name :: names => name.length + 1 + namesSize names

theorem namesSize_reverse_append (names : List Blob) (here : Place) :
    namesSize (names.reverse ++ here) = namesSize names + namesSize here := by
  induction names generalizing here with
  | nil => exact (Nat.zero_add _).symm
  | cons name names ih =>
    rw [List.reverse_cons, List.append_assoc, List.singleton_append, ih, namesSize, namesSize]
    omega

theorem length_walked_le (folder : Text) (names : List Text) :
    (Utf8.bytes (walked folder names)).length ≤ (Utf8.bytes folder).length + namesSize
    (names.map Utf8.bytes) := by
  induction names generalizing folder with
  | nil => exact Nat.le_refl _
  | cons name names ih =>
    have hbelow : (Utf8.bytes (below folder name)).length ≤
        (Utf8.bytes folder).length + ((Utf8.bytes name).length + 1) := by
      obtain ⟨front, hbelow, hfront⟩ := bytes_below folder name
      rw [hbelow, List.length_append, List.length_cons]
      rcases hfront with h | h <;> rw [h]
      rw [List.length_append]
      omega
    have hrest := ih (below folder name)
    change (Utf8.bytes (walked (below folder name) names)).length ≤ _
    rw [List.map_cons, namesSize]
    omega

theorem Visits.down (hlinks : s.followLinks = false) (h : Visits s v folder here names there) :
    there = (names.map Utf8.bytes).reverse ++ here ∧
    (names = [] ∨ v.node? there = some .folder) := by
  induction h with
  | stay => exact ⟨rfl, .inl rfl⟩
  | go he _ ih =>
    have hnode := he.linked.resolve_left (by simp [hlinks])
    obtain ⟨rfl, hlast⟩ := ih
    cases he.leads with
    | link hlink => cases hnode.symm.trans hlink
    | folder =>
      rw [List.map_cons, List.reverse_cons, List.append_assoc]
      refine ⟨rfl, .inr ?_⟩
      rcases hlast with rfl | hlast
      · exact hnode
      · exact hlast

/-- Where links are not followed, paths stay short if no node of the volume stands too deep. -/
theorem staysShort_of_nodes (hv : v.IsTree) (hlinks : s.followLinks = false)
    (hfolder : (Utf8.bytes folder).length ≤ pathLimit)
    (hnodes : ∀ e ∈ v.nodes, (Utf8.bytes folder).length + namesSize e.1 ≤ pathLimit) :
    StaysShort s v folder here := by
  intro names there hvisits
  refine (length_walked_le folder names).trans ?_
  obtain ⟨rfl, hnames | hnode⟩ := hvisits.down hlinks
  · rw [hnames]
    exact hfolder
  · cases hplace : (names.map Utf8.bytes).reverse ++ here with
    | nil =>
      have hnames : names.map Utf8.bytes = [] :=
        List.reverse_eq_nil_iff.mp (List.append_eq_nil_iff.mp hplace).1
      rw [hnames]
      exact hfolder
    | cons name above =>
      rw [hplace, node?, if_neg (List.cons_ne_nil _ _), lookup_eq_some_iff hv.once] at hnode
      have hsize := hnodes _ hnode
      rw [← hplace, namesSize_reverse_append] at hsize
      omega

/-! ## The course -/

/-- The names through which a walk comes from a folder to others, in the order of the walk. -/
def course (s : Settings) (v : Volume) : Nat → Text → List (List Text)
  | 0, _ => []
  | depth + 1, folder =>
    match v.list folder with
    | .error _ => []
    | .ok entries =>
      [] :: ((entries.filter (leadsToFolder v folder)).filter (isEntered s)).flatMap fun e =>
        (course s v depth (below folder e.1)).map (e.1 :: ·)

theorem cons_mem_course {entries : List (Text × Node)} (hlist : v.list folder = .ok entries) :
    name :: names ∈ course s v (depth + 1) folder ↔
    (∃ n, (name, n) ∈ entries ∧ leadsToFolder v folder (name, n) = true ∧
      isEntered s (name, n) = true) ∧ names ∈ course s v depth (below folder name) := by
  rw [course, hlist]
  simp only [List.mem_cons, reduceCtorEq, List.mem_flatMap, List.mem_filter, List.mem_map,
    List.cons.injEq, false_or]
  constructor
  · rintro ⟨⟨name, n⟩, ⟨⟨hmem, hleads⟩, hentered⟩, names, hnames, rfl, rfl⟩
    exact ⟨⟨n, hmem, hleads, hentered⟩, hnames⟩
  · rintro ⟨⟨n, hmem, hleads, hentered⟩, hnames⟩
    exact ⟨(name, n), ⟨⟨hmem, hleads⟩, hentered⟩, names, hnames, rfl, rfl⟩

/-- The course of a walk is made of the names through which it comes to some folder. By induction on
the depth: with each step there is one less of it and at least one byte more in the path. -/
theorem mem_course (hv : v.IsTree) (h : Stands v folder here) (hshort : StaysShort s v folder here)
    (hdepth : pathLimit < (Utf8.bytes folder).length + depth) :
    names ∈ course s v depth folder ↔ ∃ there, Visits s v folder here names there := by
  induction depth generalizing folder here names with
  | zero => exact absurd h.length_le (Nat.not_le.mpr hdepth)
  | succ depth ih =>
    cases names with
    | nil =>
      rw [course, h.list]
      exact ⟨fun _ => ⟨here, .stay folder here⟩, fun _ => List.mem_cons_self⟩
    | cons name names =>
      rw [cons_mem_course h.list, exists_enters_iff hv h]
      have hbelow : ∀ {next}, Enters s v folder here name next →
        (names ∈ course s v depth (below folder name) ↔
          ∃ there, Visits s v (below folder name) next names there) := fun he => by
        have hlonger := length_lt_below folder (he.isEntryName hv).ne_nil
        exact ih (he.stands hv h hshort) (hshort.enter he) (by omega)
      constructor
      · rintro ⟨⟨next, he⟩, hnames⟩
        obtain ⟨there, hvisits⟩ := (hbelow he).mp hnames
        exact ⟨there, .go he hvisits⟩
      · rintro ⟨there, hvisits⟩
        cases hvisits with
        | go he hrest => exact ⟨⟨_, he⟩, (hbelow he).mpr ⟨there, hrest⟩⟩

/-- The names of the entries of a folder are shown in different ways. -/
theorem nodup_entries (hv : v.IsTree) (here : Place) : ((entries v here).map Prod.fst).Nodup := by
  have hinjective : Function.Injective Text.ofBytes := fun b b' h => by
    rw [← Text.bytes_ofBytes b, h, Text.bytes_ofBytes]
  have hnames := (hv.nodup_children here).map hinjective
  rw [List.map_map] at hnames
  rwa [entries, List.map_map]

theorem nodup_course (hv : v.IsTree) (h : Stands v folder here)
    (hshort : StaysShort s v folder here) (depth : Nat) :
    (course s v depth folder).Nodup := by
  induction depth generalizing folder here with
  | zero => exact List.nodup_nil
  | succ depth ih =>
    rw [course, h.list]
    refine List.nodup_cons.mpr ⟨by simp, List.nodup_flatMap.mpr ⟨fun e he => ?_, ?_⟩⟩
    · obtain ⟨⟨hmem, hleads⟩, hentered⟩ := (List.mem_filter.mp he).imp_left List.mem_filter.mp
      obtain ⟨next, he⟩ := (isEntered_iff hv h hmem).mp ⟨hleads, hentered⟩
      exact (ih (he.stands hv h hshort) (hshort.enter he)).map List.cons_injective
    · -- What comes below different entries starts with different names.
      have hnames := List.pairwise_map.mp (nodup_entries hv here)
      refine ((hnames.filter _).filter _).imp fun {e e'} hne names hl hr => ?_
      obtain ⟨_, -, rfl⟩ := List.mem_map.mp hl
      obtain ⟨_, -, heq⟩ := List.mem_map.mp hr
      exact hne (List.cons.inj heq).1.symm

end Walk

end FileTags

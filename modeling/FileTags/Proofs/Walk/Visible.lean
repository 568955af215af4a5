import FileTags.Proofs.Walk.Visits
import Mathlib.Data.List.Forall2
import Mathlib.Data.Prod.Basic

/-!
# What a walk shows

Below a root a walk lists, each once, the entries that are no folders and whose names are not
ignored, in the folders that it comes to; it counts these folders, and the entries that it has left
out in them. A root that is a file is listed itself, whatever its name, and one that is missing is
only counted.
-/

set_option autoImplicit false

namespace FileTags

/-! ## Listings in a row -/

namespace Listing

theorem empty_append (a : Listing) : empty ++ a = a := by
  change append empty a = a
  simp [append, empty]

theorem append_assoc (a b c : Listing) : a ++ b ++ c = a ++ (b ++ c) := by
  change append (append a b) c = append a (append b c)
  simp [append, Nat.add_assoc]

theorem join_append (ls ms : List Listing) : join (ls ++ ms) = join ls ++ join ms := by
  induction ls with
  | nil => exact (empty_append _).symm
  | cons l ls ih => rw [List.cons_append, join_cons, join_cons, ih, append_assoc]

theorem join_flatMap {α : Type} (f : α → List Listing) (xs : List α) :
    join (xs.flatMap f) = join (xs.map fun x => join (f x)) := by
  induction xs with
  | nil => rfl
  | cons x xs ih => rw [List.flatMap_cons, join_append, List.map_cons, join_cons, ih]

theorem stats_join (ls : List Listing) : (join ls).stats = (ls.map stats).foldr (· + ·) .zero := by
  induction ls with
  | nil => rfl
  | cons l ls ih => rw [join_cons, stats_append, ih, List.map_cons, List.foldr_cons]

end Listing

namespace Walk

open Volume

variable {s : Settings} {v : Volume} {folder name root : Text} {names : List Text}
  {here there : Place} {depth : Nat} {keep : Text → Bool}
  {l : Listing}

/-! ## What is listed on the course of a walk -/

def ownListing (s : Settings) (v : Volume) (folder : Text) : Listing :=
  match v.list folder with
  | .error _ => .empty
  | .ok entries => listEntries s folder ((entries.filter (leadsToFolder v folder)).map Prod.fst)
      ((entries.filter fun e => !leadsToFolder v folder e).map Prod.fst)

/-- Of a folder is listed what is listed of each folder on the course of the walk. -/
theorem listFolder_eq (s : Settings) (v : Volume) (depth : Nat) (folder : Text) :
    listFolder s v depth folder = .join ((course s v depth folder).map fun names =>
      ownListing s v (walked folder names)) := by
  induction depth generalizing folder with
  | zero => rfl
  | succ depth ih =>
    rw [listFolder, course]
    cases hlist : v.list folder with
    | error e => rfl
    | ok entries =>
      have hown : ownListing s v (walked folder []) =
        listEntries s folder ((entries.filter (leadsToFolder v folder)).map Prod.fst)
          ((entries.filter fun e => !leadsToFolder v folder e).map Prod.fst) := by
        rw [walked, List.foldl_nil, ownListing, hlist]
      simp only [List.map_cons, List.map_flatMap, List.map_map, Listing.join_cons,
        Listing.join_flatMap, hown, ih]
      rfl

def leaves (v : Volume) (folder : Text) : List Text :=
  match v.list folder with
  | .error _ => []
  | .ok entries =>
    ((entries.filter fun e => !leadsToFolder v folder e).map Prod.fst).mergeSort Text.le

theorem mem_leaves (hv : v.IsTree) (h : Stands v folder here) :
    name ∈ leaves v folder ↔ IsLeaf v folder here name := by
  simp only [leaves, h.list, List.mem_mergeSort, List.mem_map, List.mem_filter, Bool.not_eq_true']
  constructor
  · rintro ⟨⟨name, n⟩, ⟨hmem, hno⟩, rfl⟩
    obtain ⟨hshown, hnode⟩ := (mem_entries hv).mp hmem
    refine ⟨hshown, by simp [hnode], fun p hp => ?_⟩
    rw [(leadsToFolder_iff hv h hmem).mpr ⟨p, hp⟩] at hno
    cases hno
  · rintro ⟨hshown, hthere, hplain⟩
    obtain ⟨n, hnode⟩ := Option.ne_none_iff_exists'.mp hthere
    have hmem := (mem_entries hv).mpr ⟨hshown, hnode⟩
    refine ⟨(name, n), ⟨hmem, Bool.eq_false_iff.mpr fun hleads => ?_⟩, rfl⟩
    obtain ⟨p, hp⟩ := (leadsToFolder_iff hv h hmem).mp hleads
    exact hplain p hp

theorem nodup_leaves (hv : v.IsTree) (h : Stands v folder here) : (leaves v folder).Nodup := by
  simp only [leaves, h.list]
  rw [(List.mergeSort_perm _ _).nodup_iff]
  exact (nodup_entries hv here).sublist (List.filter_sublist.map _)

theorem IsLeaf.isEntryName (hv : v.IsTree) (h : IsLeaf v folder here name) : IsEntryName name := by
  obtain ⟨n, hnode⟩ := Option.ne_none_iff_exists'.mp h.there
  exact isEntryName_of_node? hv h.shown hnode

/-- What of a folder a walk leaves out, or does not, below the folders on its course. -/
def findings (s : Settings) (v : Volume) (keep : Text → Bool) (depth : Nat) (folder : Text) :
    List (List Text × Text) :=
  (course s v depth folder).flatMap fun names =>
    ((leaves v (walked folder names)).filter keep).map (Prod.mk names)

/-- A walk meets an entry that is no folder, in a folder to which it comes through some names. -/
def Meets (s : Settings) (v : Volume) (folder : Text) (here : Place)
    (e : List Text × Text) : Prop :=
  ∃ there, Visits s v folder here e.1 there ∧ IsLeaf v (walked folder e.1) there e.2

def Enumerates {α : Type} (xs : List α) (p : α → Prop) : Prop := xs.Nodup ∧ ∀ x, x ∈ xs ↔ p x

theorem Enumerates.map {α β : Type} {xs : List α} {p : α → Prop} {q : β → Prop} {f : α → β}
    (h : Enumerates xs p)
    (hf : Function.Injective f) (hq : ∀ y, q y ↔ ∃ x, p x ∧ f x = y) : Enumerates (xs.map f) q := by
  refine ⟨h.1.map hf, fun y => ?_⟩
  rw [List.mem_map, hq]
  exact exists_congr fun x => and_congr_left' (h.2 x)

theorem course_enumerates (hv : v.IsTree) (h : Stands v folder here)
    (hshort : StaysShort s v folder here) :
    Enumerates (course s v depthLimit folder) fun names =>
      ∃ there, Visits s v folder here names there := by
  have hdepth : pathLimit < (Utf8.bytes folder).length + depthLimit := by
    rw [depthLimit]
    omega
  exact ⟨nodup_course hv h hshort depthLimit, fun names => mem_course hv h hshort hdepth⟩

theorem findings_enumerates (hv : v.IsTree) (h : Stands v folder here)
    (hshort : StaysShort s v folder here) (keep : Text → Bool) :
    Enumerates (findings s v keep depthLimit folder) fun e => Meets s v folder here e ∧
    keep e.2 = true := by
  obtain ⟨hnodup, hcourse⟩ := course_enumerates hv h hshort
  constructor
  · refine List.nodup_flatMap.mpr ⟨fun names hmem => ?_,
      hnodup.imp fun {names names'} hne e hl hr => ?_⟩
    · obtain ⟨there, hvisits⟩ := (hcourse names).mp hmem
      exact ((nodup_leaves hv (hvisits.stands hv h hshort)).filter _).map
        (Prod.mk_right_injective names)
    · obtain ⟨_, -, rfl⟩ := List.mem_map.mp hl
      obtain ⟨_, -, heq⟩ := List.mem_map.mp hr
      exact hne (congrArg Prod.fst heq).symm
  · rintro ⟨names, name⟩
    simp only [findings, List.mem_flatMap, hcourse, List.mem_map, List.mem_filter, Prod.mk.injEq,
      Meets]
    constructor
    · rintro ⟨_, ⟨there, hvisits⟩, _, ⟨hleaf, hkeep⟩, rfl, rfl⟩
      exact ⟨⟨there, hvisits, (mem_leaves hv (hvisits.stands hv h hshort)).mp hleaf⟩, hkeep⟩
    · rintro ⟨⟨there, hvisits, hleaf⟩, hkeep⟩
      exact ⟨names, ⟨there, hvisits⟩, name,
        ⟨(mem_leaves hv (hvisits.stands hv h hshort)).mpr hleaf, hkeep⟩, rfl, rfl⟩

theorem files_listFolder (hv : v.IsTree) (h : Stands v folder here)
    (hshort : StaysShort s v folder here) :
    (listFolder s v depthLimit folder).files =
      (findings s v (fun name => !s.ignores name) depthLimit folder).map fun e =>
        Path.ofText folder ++ ⟨0, e.1 ++ [e.2]⟩ := by
  rw [listFolder_eq, Listing.files_join, List.flatMap_map, findings, List.map_flatMap]
  refine List.flatMap_congr fun names hmem => ?_
  obtain ⟨there, hvisits⟩ := ((course_enumerates hv h hshort).2 names).mp hmem
  have hstands := hvisits.stands hv h hshort
  have hfiles : (ownListing s v (walked folder names)).files =
    ((leaves v (walked folder names)).filter fun name => !s.ignores name).map
      fun name => Path.ofText (walked folder names) ++ Path.ofText name := by
    rw [ownListing, leaves, hstands.list]
    rfl
  rw [hfiles, List.map_map]
  refine List.map_congr_left fun name hname => ?_
  have hleaf := ((mem_leaves hv hstands).mp (List.mem_filter.mp hname).1).isEntryName hv
  rw [Path.ofText_name hleaf.no_slash hleaf.isName, ofText_walked h.ne_nil (hvisits.isEntryName hv)]
  exact congrArg (Path.mk _) (List.append_assoc _ _ _)

theorem stats_listFolder (hv : v.IsTree) (h : Stands v folder here)
    (hshort : StaysShort s v folder here) :
    (listFolder s v depthLimit folder).stats =
      ⟨0, 0, (course s v depthLimit folder).length,
        (findings s v s.ignores depthLimit folder).length, 0⟩ := by
  have hown : ∀ names ∈ course s v depthLimit folder, (ownListing s v (walked folder names)).stats =
      ⟨0, 0, 1, ((leaves v (walked folder names)).filter s.ignores).length, 0⟩ :=
        fun names hmem => by
    obtain ⟨there, hvisits⟩ := ((course_enumerates hv h hshort).2 names).mp hmem
    rw [ownListing, leaves, (hvisits.stands hv h hshort).list]
    rfl
  rw [listFolder_eq, findings]
  generalize course s v depthLimit folder = visited at hown
  induction visited with
  | nil => rfl
  | cons names visited ih =>
    obtain ⟨hfirst, hrest⟩ := List.forall_mem_cons.mp hown
    rw [List.map_cons, Listing.join_cons, Listing.stats_append, hfirst, ih hrest, List.flatMap_cons,
      List.length_append, List.length_map, List.length_cons, Nat.add_comm visited.length]
    rfl

/-! ## What is shown of a root -/

/-- A listing of what a walk meets below the folder at a path: the paths of the entries that are not
ignored, and the numbers of the folders visited and of the entries ignored. -/
structure Covers (s : Settings) (v : Volume) (p : Path) (here : Place) (l : Listing) : Prop where
  files : Enumerates l.files fun q => ∃ e, (Meets s v p.text here e ∧ s.ignores e.2 = false) ∧
    p ++ ⟨0, e.1 ++ [e.2]⟩ = q
  counts : ∃ visited left, Enumerates visited (fun names =>
    ∃ there, Visits s v p.text here names there) ∧
    Enumerates left (fun e => Meets s v p.text here e ∧ s.ignores e.2 = true) ∧
      l.stats = ⟨0, 0, visited.length, left.length, 0⟩

theorem listFolder_covers (hv : v.IsTree) (h : Stands v (Path.ofText root).text here)
    (hshort : StaysShort s v (Path.ofText root).text here) :
    Covers s v (Path.ofText root) here (listFolder s v depthLimit (Path.ofText root).text) where
  files := by
    have hinjective : Function.Injective fun e : List Text × Text =>
        Path.ofText root ++ (⟨0, e.1 ++ [e.2]⟩ : Path) := fun e e' heq => by
      have hnames : (Path.ofText root).names ++ (e.1 ++ [e.2]) =
          (Path.ofText root).names ++ (e'.1 ++ [e'.2]) := congrArg Path.names heq
      obtain ⟨hfst, hsnd⟩ := List.append_inj' (List.append_cancel_left hnames) rfl
      exact Prod.ext hfst (List.singleton_inj.mp hsnd)
    rw [files_listFolder hv h hshort, Path.ofText_text_ofText]
    refine (findings_enumerates hv h hshort _).map hinjective fun q => ?_
    simp only [Bool.not_eq_true']
  counts :=
    ⟨_, _, course_enumerates hv h hshort, findings_enumerates hv h hshort s.ignores,
      stats_listFolder hv h hshort⟩

inductive Shows (s : Settings) (v : Volume) (root : Text) (l : Listing) : Prop
  | missing (hroot : IsMissing v root) (hfiles : l.files = []) (hstats : l.stats = ⟨0, 0, 0, 0, 1⟩)
  | file (hroot : v.isFile? (Path.ofText root).text = .ok true)
      (hfiles : l.files = [Path.ofText root]) (hstats : l.stats = .zero)
  | folder {here : Place} (hroot : v.Leads (Path.ofText root).text here)
      (hfolder : v.isFolder here = true)
      (hcovers : Covers s v (Path.ofText root) here l)

theorem Covers.noted {p : Path} (h : Covers s v p here l) (notes : List Note) :
    Covers s v p here (⟨[], 0, 0, 0, notes⟩ ++ l) := by
  have hstats : ((⟨[], 0, 0, 0, notes⟩ : Listing) ++ l).stats = l.stats := by
    rw [Listing.stats_append]
    change WalkStats.add _ _ = _
    simp [WalkStats.add, Listing.stats]
  exact ⟨h.files, hstats ▸ h.counts⟩

/-- The path of a root has no slash at its end, unless it is made of slashes only. -/
theorem steps_text (hfit : Text.unfit? (Path.ofText root).text = none) :
    stepsOf (Utf8.bytes (Path.ofText root).text) =
      partsOf (Utf8.bytes (Path.ofText root).text) := by
  have hp := Path.isNormal_ofText root
  by_cases hne : (Path.ofText root).names = []
  · rw [Path.text, hne]
    split
    · decide
    · have hbytes : Utf8.bytes (List.replicate (Path.ofText root).slashes (.char '/') ++
        Text.join [.char '/'] []) =
          List.replicate (Path.ofText root).slashes slash ++ [] := by
        rw [Utf8.bytes_append, Path.bytes_replicate_slash]
        rfl
      have hparts : partsOf (List.replicate (Path.ofText root).slashes slash ++ []) = [] := by
        rw [partsOf, Path.filter_split_bytes]
        rfl
      rw [hbytes, stepsOf, ← partsOf, if_neg fun h => h.2 hparts]
  · have hsteps := Path.stepsOf_text hp hfit hne
    rw [stepsOf, ← partsOf] at hsteps ⊢
    split at hsteps
    · -- A dot at the end is no name of the path.
      have hdot : dot ∈ (Path.ofText root).names.map Utf8.bytes :=
        hsteps ▸ List.mem_append_right _ (List.mem_singleton_self _)
      obtain ⟨name, hname, heq⟩ := List.mem_map.mp hdot
      exact absurd heq (Path.isStep_bytes (Path.unfit?_text_iff.mp hfit name hname)
        (hp name hname)).ne_dot
    · next hlast => rw [if_neg hlast]

theorem listRoot_shows (hv : v.IsTree) (hlong : ¬ v.IsTooLong (Path.ofText root).text)
    (hshort : ∀ here, v.Leads (Path.ofText root).text here →
      StaysShort s v (Path.ofText root).text here) :
    ∃ l, listRoot s v root = .ok l ∧ Shows s v root l := by
  rcases v.exists?_cases (Path.ofText root).text with ⟨h, -⟩ | ⟨-, he | ⟨hfit, he, b, hb⟩⟩
  · exact absurd h hlong
  · exact ⟨_, by rw [listRoot, he]; rfl, .missing he rfl rfl⟩
  · cases b with
    | true =>
      exact ⟨_, by rw [listRoot, he]; simp only [bind, Except.bind, hb]; rfl, .file hb rfl rfl⟩
    | false =>
      obtain ⟨here, hplace, hfolder⟩ := hv.exists_folder hfit he hb
      have hleads : v.Leads (Path.ofText root).text here := leads_iff.mpr ⟨hfit, hplace⟩
      have hstands : Stands v (Path.ofText root).text here :=
        ⟨hfit, steps_text hfit, hplace, hfolder⟩
      have hcovers := listFolder_covers hv hstands (hshort here hleads)
      refine ⟨_, by rw [listRoot, he]; simp only [bind, Except.bind, hb]; rfl, ?_⟩
      exact .folder hleads hfolder (hcovers.noted _)

/-- A walk shows exactly what is visible: root by root in their order, nothing of a missing one,
which counts as an error, a file itself, and of a folder each visible entry once, while the folders
visited and the entries ignored are counted. -/
theorem listRoots_visible (hv : v.IsTree) {roots : List Text}
    (hlong : ∀ root ∈ roots, ¬ v.IsTooLong (Path.ofText root).text)
    (hshort : ∀ root ∈ roots, ∀ here, v.Leads (Path.ofText root).text here →
      StaysShort s v (Path.ofText root).text here) :
    ∃ ls, List.Forall₂ (Shows s v) roots ls ∧
    (listRoots s v roots).1.files = ls.flatMap Listing.files ∧
      (listRoots s v roots).1.stats = (ls.map Listing.stats).foldr (· + ·) .zero ∧
      (listRoots s v roots).2 = none := by
  have hlists : ∃ ls, List.Forall₂ (Shows s v) roots ls ∧
      listRoots s v roots = (Listing.join ls, none) := by
    induction roots with
    | nil => exact ⟨[], .nil, rfl⟩
    | cons root roots ih =>
      obtain ⟨hroot, hrest⟩ := List.forall_mem_cons.mp hlong
      obtain ⟨hshortRoot, hshortRest⟩ := List.forall_mem_cons.mp hshort
      obtain ⟨l, hl, hshows⟩ := listRoot_shows hv hroot hshortRoot
      obtain ⟨ls, hall, hls⟩ := ih hrest hshortRest
      refine ⟨l :: ls, .cons hshows hall, ?_⟩
      rw [listRoots, hl, hls]
      rfl
  obtain ⟨ls, hall, hls⟩ := hlists
  rw [hls]
  exact ⟨ls, hall, Listing.files_join ls, Listing.stats_join ls, rfl⟩

/-- A folder with a file, a folder to be ignored, a link back to itself, and a folder with a file to
be ignored in it. -/
def mixedVolume : Volume where
  nodes :=
    let d := Utf8.ofString "d"
    let g := Utf8.ofString "g"
    let git := Utf8.ofString ".git"
    [([d], .folder), ([Utf8.ofString "a", d], .file []), ([git, d], .folder),
      ([Utf8.ofString "b", git, d], .file []),
      ([Utf8.ofString "l", d], .link dot), ([g, d], .folder), ([Utf8.ofString "c", g, d], .file []),
      ([git, g, d], .file [])]
  attributes := []
  faults := []
  hasAttributes := true
  work := []

theorem listRoots_visible_mixed :
    let s : Settings := ⟨[.char 't'], [], 1, true, false, [Text.ofString ".git"]⟩
    let roots := [[.char 'd'], [.char 'm'], Text.ofString "d/g/.git"]
    mixedVolume.IsTree ∧ (∀ root ∈ roots, ¬ mixedVolume.IsTooLong (Path.ofText root).text) ∧
      (∀ root ∈ roots, ∀ here, mixedVolume.Leads (Path.ofText root).text here →
        StaysShort s mixedVolume (Path.ofText root).text here) ∧
      ∃ ls, List.Forall₂ (Shows s mixedVolume) roots ls ∧
        (listRoots s mixedVolume roots).1.files = ls.flatMap Listing.files ∧
        (listRoots s mixedVolume roots).1.stats = (ls.map Listing.stats).foldr (· + ·) .zero ∧
        (listRoots s mixedVolume roots).2 = none := by
  intro s roots
  have hv : mixedVolume.IsTree := by decide +kernel
  have hlong : ∀ root ∈ roots, ¬ mixedVolume.IsTooLong (Path.ofText root).text := by decide +kernel
  have hsize : ∀ root ∈ roots, (Utf8.bytes (Path.ofText root).text).length ≤ pathLimit ∧
      ∀ e ∈ mixedVolume.nodes, (Utf8.bytes (Path.ofText root).text).length + namesSize e.1 ≤
        pathLimit := by decide +kernel
  have hshort : ∀ root ∈ roots, ∀ here, mixedVolume.Leads (Path.ofText root).text here →
      StaysShort s mixedVolume (Path.ofText root).text here := fun root hroot _ _ =>
    staysShort_of_nodes hv rfl (hsize root hroot).1 (hsize root hroot).2
  exact ⟨hv, hlong, hshort, listRoots_visible hv hlong hshort⟩

end Walk

end FileTags

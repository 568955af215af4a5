import FileTags.Proofs.TagMap.Halves
import FileTags.Proofs.TagMap.Reading
import FileTags.Proofs.Volume.Path
import FileTags.Settings.Reading

/-!
# Settings read again

Settings that have been read from JSON are in a normal form: blanks are taken off, the folder of
bookmarks is a path from which no user is left to be expanded, and the workers are within their
limits. Read again from their own data they stay as they are, but for one case: the folder can be a
single name of blanks, which is refused as an empty one.
-/

set_option autoImplicit false

namespace FileTags

open Text

/-! ## Stripping -/

theorem bareEnds_strip (t : Text) : BareEnds (strip t) := by
  obtain ⟨-, -, -, -, -, hhead, hlast⟩ := exists_stripOf isBlank t
  exact ⟨hhead, hlast⟩

theorem BareEnds.strip {t : Text} (h : BareEnds t) : Text.strip t = t := by
  have hstrip : stripOf isBlank ([] ++ (t ++ [])) = t := stripOf_append (by simp) (by simp) h.1 h.2
  simpa [Text.strip] using hstrip

theorem strip_eq_nil_iff {t : Text} : strip t = [] ↔ ∀ c ∈ t, isBlank c = true := by
  constructor
  · intro h c hc
    obtain ⟨lead, trail, hsplit, hlead, htrail, -, -⟩ := exists_stripOf isBlank t
    rw [show stripOf isBlank t = [] from h, List.nil_append] at hsplit
    rw [hsplit] at hc
    exact (List.mem_append.mp hc).elim (hlead c) (htrail c)
  · intro h
    have hstrip : stripOf isBlank (t ++ ([] ++ [])) = [] :=
      stripOf_append h (by simp) (by simp) (by simp)
    simpa [strip] using hstrip

/-! ## Paths -/

/-- The folders of all users are absolute paths, as they are wherever users are kept. -/
structure Homes.IsAbsolute (homes : Homes) : Prop where
  own : homes.own.head? = some (.char '/')
  others : ∀ e ∈ homes.others, e.2.head? = some (.char '/')

namespace Path

variable {homes : Homes} {p q : Path}

def StartsAtHome (p : Path) : Prop :=
  p.slashes = 0 ∧ ∃ user rest, p.names = (.char '~' :: user) :: rest

theorem slashes_ofText_ne_zero {t : Text} (h : t.head? = some (.char '/')) :
    (ofText t).slashes ≠ 0 := by
  obtain ⟨u, rfl⟩ := List.head?_eq_some_iff.mp h
  simp only [ofText, List.takeWhile_cons, beq_self_eq_true, if_true, List.length_cons]
  split <;> omega

/-- Only a path that starts at the folder of a user is changed, and becomes an absolute one. -/
theorem expandUser_cases (hhomes : homes.IsAbsolute) (h : p.expandUser homes = .ok q) :
    (¬ p.StartsAtHome ∧ q = p) ∨ (p.StartsAtHome ∧ q.slashes ≠ 0 ∧ q.slashes ≤ 2) := by
  rw [expandUser] at h
  split at h
  · next user rest hslashes hnames =>
    split at h
    · cases h
    · split at h
      · next home hhome =>
        cases h
        have habsolute : home.head? = some (.char '/') := by
          split at hhome
          · cases hhome
            exact hhomes.own
          · obtain ⟨l, l', hothers, -⟩ := List.lookup_eq_some_iff.mp hhome
            exact hhomes.others (Utf8.bytes user, home) (by simp [hothers])
        exact .inr ⟨⟨hslashes, user, rest, hnames⟩, slashes_ofText_ne_zero habsolute,
          slashes_ofText_le home⟩
      · cases h
  · next hstart =>
    cases h
    refine .inl ⟨?_, rfl⟩
    rintro ⟨hslashes, user, rest, hnames⟩
    exact hstart user rest hslashes hnames

theorem expandUser_of_not_startsAtHome (h : ¬ p.StartsAtHome) (homes : Homes) :
    p.expandUser homes = .ok p := by
  rw [expandUser]
  split
  · next user rest hslashes hnames => exact absurd ⟨hslashes, user, rest, hnames⟩ h
  · rfl

def IsBlankName (p : Path) : Prop := ∃ name, p = ⟨0, [name]⟩ ∧ strip name = []

theorem IsBlankName.not_startsAtHome (h : p.IsBlankName) : ¬ p.StartsAtHome := by
  obtain ⟨name, rfl, hname⟩ := h
  rintro ⟨-, user, rest, hnames⟩
  cases hnames
  exact absurd (strip_eq_nil_iff.mp hname (.char '~') List.mem_cons_self) (by decide)

theorem strip_text_eq_nil_iff : strip p.text = [] ↔ p.IsBlankName := by
  constructor
  · intro h
    have hblank := strip_eq_nil_iff.mp h
    have hslash : .char '/' ∉ p.text := fun hmem => absurd (hblank (.char '/') hmem) (by decide)
    obtain ⟨slashes, names⟩ := p
    match slashes, names with
    | 0, [] => exact absurd (hblank (.char '.') (by simp [text])) (by decide)
    | 0, [name] => exact ⟨name, rfl, by simpa [text, Text.join] using h⟩
    | 0, name :: next :: names => simp [text, Text.join] at hslash
    | k + 1, names => simp [text, List.replicate_succ] at hslash
  · rintro ⟨name, rfl, hname⟩
    simpa [text, Text.join] using hname

end Path

/-! ## JSON -/

/-- The values that JSON can write down: no bytes, days, pairs or sets, and only texts for keys. -/
inductive Datum.IsJson : Datum → Prop
  | null : IsJson .null
  | bool (b : Bool) : IsJson (.bool b)
  | int (n : Int) : IsJson (.int n)
  | float (x : Float) : IsJson (.float x)
  | text (t : Text) : IsJson (.text t)
  | list {items : List Datum} (hitems : ∀ d ∈ items, IsJson d) : IsJson (.list items)
  | map {entries : List (Datum × Datum)} (hkeys : ∀ e ∈ entries, ∃ t, e.1 = .text t)
      (hvalues : ∀ e ∈ entries, IsJson e.2) : IsJson (.map entries)

namespace Datum

theorem field?_text_cons (name key : String) (value : Datum) (rest : List (Datum × Datum)) :
    field? name ((.text (ofString key), value) :: rest) = if key = name then some value
      else field? name rest := by
  simp [field?, ofString_inj]

theorem exists_mem_of_field? {name : String} {entries : List (Datum × Datum)} {d : Datum}
    (h : field? name entries = some d) :
    ∃ e ∈ entries, e.2 = d := by
  induction entries with
  | nil => cases h
  | cons e rest ih =>
    rw [field?.eq_def] at h
    split at h
    · contradiction
    · next t value rest' heq =>
      cases heq
      split at h
      · exact ⟨_, List.mem_cons_self, Option.some.inj h⟩
      · obtain ⟨e, he, hd⟩ := ih h
        exact ⟨e, List.mem_cons_of_mem _ he, hd⟩
    · next heq =>
      cases heq
      obtain ⟨e, he, hd⟩ := ih h
      exact ⟨e, List.mem_cons_of_mem _ he, hd⟩

theorem IsJson.of_field? {name : String} {entries : List (Datum × Datum)} {d : Datum}
    (h : (Datum.map entries).IsJson) (hfield : field? name entries = some d) : d.IsJson := by
  obtain ⟨e, he, rfl⟩ := exists_mem_of_field? hfield
  cases h with
  | map _ hvalues => exact hvalues e he

theorem IsJson.readText {d : Datum} {t : Text} (h : d.IsJson) (ht : d.readText = .ok t) :
    d = .text t := by
  cases h <;> first | (cases ht; rfl) | cases ht

theorem wholeText_eq_ok_iff {d : Datum} {t : Text} :
    d.wholeText = .ok t ↔ d.readText = .ok t ∧ Text.isWhole t = true := by
  rw [wholeText]
  cases d.readText with
  | error e => simp [bind, Except.bind]
  | ok u =>
    cases hu : Text.isWhole u with
    | true =>
      simp only [bind, Except.bind, hu, if_true, pure, Except.pure, Except.ok.injEq]
      exact ⟨by rintro rfl; exact ⟨rfl, hu⟩, And.left⟩
    | false =>
      simp only [bind, Except.bind, hu, Bool.false_eq_true, if_false, reduceCtorEq, Except.ok.injEq,
        false_iff]
      rintro ⟨rfl, hwhole⟩
      cases hu.symm.trans hwhole

end Datum

namespace Settings

variable {homes : Homes} {entries : List (Datum × Datum)} {d : Datum} {t : Text}

/-! ## Fields -/

structure IsAttribute (t : Text) : Prop where
  namespaced : .char '.' ∈ t
  bare : BareEnds t
  whole : Text.isWhole t = true

theorem readAttribute_ok (h : readAttribute d = .ok t) : IsAttribute t := by
  rw [readAttribute] at h
  cases ht : d.wholeText with
  | error e => simp [ht, bind, Except.bind] at h
  | ok u =>
    simp only [ht, bind, Except.bind] at h
    split_ifs at h with hempty hblank hdot
    obtain rfl := Except.ok.inj h
    have hwhole := (Datum.wholeText_eq_ok_iff.mp ht).2
    exact ⟨by simpa using hdot, bareEnds_strip u,
      Text.isWhole_subset (TagList.stripOf_subset _ u) hwhole⟩

theorem readAttribute_text (h : IsAttribute t) : readAttribute (.text t) = .ok t := by
  have hne : t.isEmpty = false := by simpa using List.ne_nil_of_mem h.namespaced
  have htext : (Datum.text t).wholeText = .ok t := Datum.wholeText_eq_ok_iff.mpr ⟨rfl, h.whole⟩
  simp [readAttribute, htext, bind, Except.bind, pure, Except.pure, h.bare.strip, hne, h.namespaced]

theorem readFolder_ok (h : readFolder homes d = .ok (.ok t)) :
    ∃ u p, d.readText = .ok u ∧ (Path.ofText u).expandUser homes = .ok p ∧ t = p.text := by
  rw [readFolder] at h
  cases hu : d.readText with
  | error e => simp [hu, bind, Except.bind] at h
  | ok u =>
    simp only [hu, bind, Except.bind] at h
    split at h
    · cases h
    · split at h
      · next p hp => exact ⟨u, p, rfl, hp, (Except.ok.inj (Except.ok.inj h)).symm⟩
      · cases h
      · cases h

theorem readFolder_text {p : Path} (hp : p.IsNormal) (hslashes : p.slashes ≤ 2)
    (hhome : ¬ p.StartsAtHome) (homes : Homes) :
    readFolder homes (.text p.text) = if (strip p.text).isEmpty then .error .blankFolder
      else .ok (.ok p.text) := by
  simp only [readFolder, Datum.readText, bind, Except.bind, pure, Except.pure]
  rw [Path.ofText_text hp hslashes, Path.expandUser_of_not_startsAtHome hhome]

theorem readWorkers_ok {n : Nat} (h : readWorkers d = .ok n) : 1 ≤ n ∧ n ≤ workerLimit := by
  rw [readWorkers] at h
  cases hm : readInt d with
  | error e => simp [hm, bind, Except.bind] at h
  | ok m =>
    simp only [hm, bind, Except.bind] at h
    split_ifs at h with hsmall hlarge
    obtain rfl := Except.ok.inj h
    omega

theorem readWorkers_int {n : Nat} (hmin : 1 ≤ n) (hmax : n ≤ workerLimit) :
    readWorkers (.int n) = .ok n := by
  have hsmall : ¬ (n : Int) ≤ 0 := by omega
  have hlarge : ¬ (n : Int) > workerLimit := by omega
  simp only [readWorkers, readInt, bind, Except.bind, if_neg hsmall, if_neg hlarge,
    Int.toNat_natCast]
  rfl

theorem isAttribute_default : IsAttribute defaultAttribute where
  namespaced := by decide
  bare := by
    simp [defaultAttribute, BareEnds, ofString]
    decide
  whole := rfl

/-! ## Patterns to be left out -/

def IsTrimmed (d : Datum) : Prop := ∃ t, d = .text t ∧ t ≠ [] ∧ BareEnds t

theorem isJson_of_mem_members {ds : List Datum} (hd : d.IsJson) (h : members d = .ok ds) :
    ∀ m ∈ ds, m.IsJson := by
  cases hd with
  | null => cases h; simp
  | bool | int | float => cases h
  | text t => cases h; simpa using .text t
  | list hitems => cases h; exact hitems
  | map hkeys hvalues =>
    cases h
    intro key hkey
    obtain ⟨e, he, rfl⟩ := List.mem_map.mp hkey
    obtain ⟨t, ht⟩ := hkeys e he
    rw [ht]
    exact .text t

theorem isTrimmed_of_trimmed {p : Datum} (hd : d.IsJson) (h : trimmed d = .ok (some p)) :
    IsTrimmed p := by
  rw [trimmed.eq_def] at h
  split at h
  · cases h
  · cases hd with
    | text t =>
      simp only at h
      split_ifs at h with hempty
      · cases h
      obtain rfl := Option.some.inj (Except.ok.inj h)
      exact ⟨strip t, rfl, by simpa using hempty, bareEnds_strip t⟩
    | null | bool | int | float | list | map => cases h

theorem isTrimmed_of_trimAll {ds ps : List Datum} (hds : ∀ d ∈ ds, d.IsJson)
    (h : trimAll ds = .ok ps) : ∀ p ∈ ps, IsTrimmed p := by
  induction ds generalizing ps with
  | nil => cases h; simp
  | cons d ds ih =>
    rw [trimAll] at h
    obtain ⟨hd, hds⟩ := List.forall_mem_cons.mp hds
    cases hp : trimmed d with
    | error e => simp [hp, bind, Except.bind] at h
    | ok p =>
      simp only [hp, bind, Except.bind] at h
      cases p with
      | none => exact ih hds h
      | some p =>
        cases hrest : trimAll ds with
        | error e => simp [hrest] at h
        | ok rest =>
          simp only [hrest, pure, Except.pure] at h
          obtain rfl := Except.ok.inj h
          exact List.forall_mem_cons.mpr ⟨isTrimmed_of_trimmed hd hp, ih hds hrest⟩

theorem bareEnds_of_readPatterns {n : Nat} {ps : List Datum} {ts : List Text}
    (hps : ∀ p ∈ ps, IsTrimmed p)
    (h : readPatterns n ps = .ok ts) : ∀ glob ∈ ts, glob ≠ [] ∧ BareEnds glob := by
  induction ps generalizing n ts with
  | nil => cases h; simp
  | cons p ps ih =>
    obtain ⟨hp, hrest⟩ := List.forall_mem_cons.mp hps
    rw [readPatterns] at h
    split at h
    · next t rest ht hread =>
      cases h
      obtain ⟨u, rfl, hu⟩ := hp
      cases ht
      exact List.forall_mem_cons.mpr ⟨hu, ih hrest hread⟩
    all_goals cases h

theorem bareEnds_of_ignoreField {globs : List Text} (hjson : (Datum.map entries).IsJson)
    (h : ignoreField entries = .ok (.ok globs)) :
    ∀ glob ∈ globs, glob ≠ [] ∧ BareEnds glob := by
  rw [ignoreField] at h
  split at h
  · cases h
    rw [defaultIgnore]
    simp [BareEnds, ofString]
    decide
  · next d hd =>
    rw [readIgnore] at h
    cases hms : members d with
    | error e => simp [hms, bind, Except.bind] at h
    | ok ms =>
      simp only [hms, bind, Except.bind] at h
      cases hps : trimAll ms with
      | error e => simp [hps] at h
      | ok ps =>
        simp only [hps, pure, Except.pure] at h
        exact bareEnds_of_readPatterns
          (isTrimmed_of_trimAll (isJson_of_mem_members (hjson.of_field? hd) hms) hps)
          (Except.ok.inj h)

theorem trimAll_text {globs : List Text} (h : ∀ glob ∈ globs, glob ≠ [] ∧ BareEnds glob) :
    trimAll (globs.map .text) = .ok (globs.map .text) := by
  induction globs with
  | nil => rfl
  | cons glob globs ih =>
    obtain ⟨⟨hne, hends⟩, hrest⟩ := List.forall_mem_cons.mp h
    have hempty : glob.isEmpty = false := by simpa using hne
    have htrimmed : trimmed (.text glob) = .ok (some (.text glob)) := by
      simp [trimmed, Datum.isVoid, hempty, hends.strip]
    simp [trimAll, htrimmed, ih hrest, bind, Except.bind, pure, Except.pure]

theorem readPatterns_text (n : Nat) (globs : List Text) :
    readPatterns n (globs.map .text) = .ok globs := by
  induction globs generalizing n with
  | nil => rfl
  | cons glob globs ih => simp [readPatterns, Datum.readText, ih]

theorem readIgnore_text {globs : List Text} (h : ∀ glob ∈ globs, glob ≠ [] ∧ BareEnds glob) :
    readIgnore (.list (globs.map .text)) = .ok (.ok globs) := by
  simp [readIgnore, members, trimAll_text h, readPatterns_text, bind, Except.bind, pure,
    Except.pure]

/-! ## All fields -/

theorem ofEntries_eq_ok_iff {s : Settings} : ofEntries homes entries = .ok s ↔
    fieldOr entries "xattr_name" defaultAttribute readAttribute = .ok s.tagAttribute ∧
    folderField homes entries = .ok (.ok s.bookmarkFolder) ∧
    fieldOr entries "max_workers" defaultWorkers readWorkers = .ok s.workers ∧
    fieldOr entries "recursive" true readBool = .ok s.recursive ∧
    fieldOr entries "follow_symlinks" false readBool = .ok s.followLinks ∧
    ignoreField entries = .ok (.ok s.ignore) := by
  rw [ofEntries]
  cases folderField homes entries with
  | error e => simp [bind, Except.bind]
  | ok folder =>
    cases ignoreField entries with
    | error e => simp [bind, Except.bind]
    | ok ignore =>
      simp only [bind, Except.bind, pure, Except.pure, Except.ok.injEq]
      constructor
      · intro h
        split at h
        · next hattribute hworkers hrecursive hlinks =>
          cases h
          exact ⟨hattribute, rfl, hworkers, hrecursive, hlinks, rfl⟩
        · cases h
      · rintro ⟨hattribute, rfl, hworkers, hrecursive, hlinks, rfl⟩
        simp only [hattribute, hworkers, hrecursive, hlinks]

theorem fieldOr_eq_ok {α : Type} {name : String} {default x : α}
    {read : Datum → Except FieldIssue α} {P : α → Prop} (hdefault : P default)
    (hread : ∀ d y, read d = .ok y → P y) (h : fieldOr entries name default read = .ok x) :
    P x := by
  rw [fieldOr] at h
  split at h
  · cases h
    exact hdefault
  · next d _ =>
    cases hd : read d with
    | error e => simp [whole, hd, Except.mapError] at h
    | ok y =>
      simp only [whole, hd, Except.mapError, Except.ok.injEq] at h
      exact h ▸ hread d y hd

/-- What holds of all settings that were read from JSON. -/
structure IsNormal (s : Settings) : Prop where
  tag : IsAttribute s.tagAttribute
  folder : (Path.ofText s.bookmarkFolder).text = s.bookmarkFolder
  expanded : ¬ (Path.ofText s.bookmarkFolder).StartsAtHome
  workers : 1 ≤ s.workers ∧ s.workers ≤ 256
  ignore : ∀ glob ∈ s.ignore, glob ≠ [] ∧ BareEnds glob

/-- The folder of bookmarks is given as a single name of blanks, with something else around it such
as a slash. -/
def NamesBlankFolder (entries : List (Datum × Datum)) : Prop :=
  ∃ t, Datum.field? "bookmark_dir" entries = some (.text t) ∧ (Path.ofText t).IsBlankName

/-- The folder that is read is a path as it is, or has been expanded to an absolute one. -/
theorem exists_of_folderField (hhomes : homes.IsAbsolute) (hjson : (Datum.map entries).IsJson)
    (h : folderField homes entries = .ok (.ok t)) :
    ∃ p : Path, p.IsNormal ∧ p.slashes ≤ 2 ∧ ¬ p.StartsAtHome ∧ t = p.text ∧
    (p.IsBlankName ↔ NamesBlankFolder entries) := by
  rw [folderField] at h
  generalize hd : (Datum.field? "bookmark_dir" entries).getD (.text defaultBookmarkFolder) = d at h
  split at h
  · cases h
  · cases h
  · next u hread =>
    cases h
    obtain ⟨u, p, hu, hp, rfl⟩ := readFolder_ok hread
    have hgiven : (Path.ofText u).IsBlankName ↔ NamesBlankFolder entries := by
      cases hfield : Datum.field? "bookmark_dir" entries with
      | none =>
        rw [hfield] at hd
        subst hd
        cases hu
        refine iff_of_false (fun hblank =>
          hblank.not_startsAtHome ⟨by decide, ?_⟩) (by simp [NamesBlankFolder, hfield])
        exact ⟨[], [ofString ".config", ofString "xtag", ofString "bookmarks"], by decide⟩
      | some d' =>
        rw [hfield] at hd
        subst hd
        obtain rfl : d' = .text u := (hjson.of_field? hfield).readText hu
        simp [NamesBlankFolder, hfield]
    obtain ⟨hstart, rfl⟩ | ⟨hstart, hslashes, hle⟩ := Path.expandUser_cases hhomes hp
    · exact ⟨_, Path.isNormal_ofText u, Path.slashes_ofText_le u, hstart, rfl, hgiven⟩
    · refine ⟨p, Path.isNormal_expandUser (Path.isNormal_ofText u) hp, hle, fun h => hslashes h.1,
        rfl, ?_⟩
      refine iff_of_false ?_ fun hblank => (hgiven.mpr hblank).not_startsAtHome hstart
      rintro ⟨name, rfl, -⟩
      exact hslashes rfl

/-- Settings in normal form are read from their own data, if the name of the folder is not blank. -/
theorem ofDatum_toDatum {s : Settings} (hs : s.IsNormal) (homes : Homes) : ofDatum homes s.toDatum =
    if (strip s.bookmarkFolder).isEmpty then .error (.issues [⟨"bookmark_dir", none, .blankFolder⟩])
      else .ok s := by
  have hfolder :=
    readFolder_text (Path.isNormal_ofText s.bookmarkFolder) (Path.slashes_ofText_le _)
      hs.expanded homes
  rw [hs.folder] at hfolder
  have hattribute : readAttribute (.text s.tagAttribute) = .ok s.tagAttribute :=
    readAttribute_text hs.tag
  have hworkers : readWorkers (.int s.workers) = .ok s.workers :=
    readWorkers_int hs.workers.1 hs.workers.2
  have hignore : readIgnore (.list (s.ignore.map .text)) = .ok (.ok s.ignore) :=
    readIgnore_text hs.ignore
  simp only [toDatum, ofDatum, ofEntries, fieldOr, folderField, ignoreField, Datum.field?_text_cons,
    String.reduceEq, if_true, if_false, Option.getD_some, hattribute, hfolder, hworkers, hignore,
    readBool, whole, Except.mapError, bind, Except.bind, pure, Except.pure]
  by_cases hblank : (strip s.bookmarkFolder).isEmpty = true
  · simp only [if_pos hblank]
    rfl
  · simp only [if_neg hblank]

/-- Settings that were read from JSON are in normal form. Their own data are read as the same
settings again, so that nothing is ignored that was not before; only a folder with a blank name is
refused, although it was taken when there was more around the name. -/
theorem ofDatum_twice {s : Settings} (hhomes : homes.IsAbsolute)
    (hjson : (Datum.map entries).IsJson) (h : ofDatum homes (.map entries) = .ok s) :
    s.IsNormal ∧ (¬ NamesBlankFolder entries → ofDatum homes s.toDatum = .ok s) ∧
      (NamesBlankFolder entries →
        ofDatum homes s.toDatum = .error (.issues [⟨"bookmark_dir", none, .blankFolder⟩])) := by
  obtain ⟨hattribute, hfolder, hworkers, -, -, hignore⟩ := ofEntries_eq_ok_iff.mp h
  obtain ⟨p, hp, hslashes, hhome, htext, hblank⟩ := exists_of_folderField hhomes hjson hfolder
  have hread : Path.ofText s.bookmarkFolder = p := by rw [htext, Path.ofText_text hp hslashes]
  have hattribute : IsAttribute s.tagAttribute :=
    fieldOr_eq_ok isAttribute_default (fun _ _ => readAttribute_ok) hattribute
  have hlimits : 1 ≤ s.workers ∧ s.workers ≤ workerLimit :=
    fieldOr_eq_ok (P := fun n => 1 ≤ n ∧ n ≤ workerLimit) (by decide) (fun _ _ =>
      readWorkers_ok) hworkers
  have hnormal : s.IsNormal :=
    ⟨hattribute, by rw [hread, htext], by rwa [hread], hlimits,
      bareEnds_of_ignoreField hjson hignore⟩
  have hempty : (strip s.bookmarkFolder).isEmpty = true ↔ NamesBlankFolder entries := by
    rw [List.isEmpty_iff, htext, Path.strip_text_eq_nil_iff, hblank]
  refine ⟨hnormal, fun hnames => ?_, fun hnames => ?_⟩
  · rw [ofDatum_toDatum hnormal, if_neg (hempty.not.mpr hnames)]
  · rw [ofDatum_toDatum hnormal, if_pos (hempty.mpr hnames)]

theorem ofDatum_twice_tilde :
    let homes : Homes := ⟨ofString "/home/u", []⟩
    let entries : List (Datum × Datum) :=
      [(.text (ofString "xattr_name"), .text (ofString " user.a\n")),
      (.text (ofString "bookmark_dir"), .text (ofString "~/.//b ")),
        (.text (ofString "max_workers"), .text (ofString "1_0")),
      (.text (ofString "ignore"), .list [.null, .text (ofString "\t*.o"), .text (ofString "  ")])]
    let s : Settings :=
      ⟨ofString "user.a", ofString "/home/u/b ", 10, true, false, [ofString "*.o"]⟩
    (homes.IsAbsolute ∧ (Datum.map entries).IsJson ∧ ofDatum homes (.map entries) = .ok s) ∧
      s.IsNormal ∧ ofDatum homes s.toDatum = .ok s := by
  intro homes entries s
  have hhomes : homes.IsAbsolute := ⟨by decide, by simp [homes]⟩
  have hjson : (Datum.map entries).IsJson := by
    refine .map (by simp [entries]) ?_
    simp only [entries, List.forall_mem_cons, List.not_mem_nil, false_implies, implies_true,
      and_true]
    refine ⟨.text _, .text _, .text _, .list ?_⟩
    simpa using ⟨Datum.IsJson.null, .text _, .text _⟩
  have hread : ofDatum homes (.map entries) = .ok s := by rfl
  obtain ⟨hnormal, hagain, -⟩ := ofDatum_twice hhomes hjson hread
  refine ⟨⟨hhomes, hjson, hread⟩, hnormal, hagain ?_⟩
  rintro ⟨t, ht, name, hpath, -⟩
  obtain rfl : t = ofString "~/.//b " := by cases ht; rfl
  have hlength : 2 = 1 := congrArg (fun p : Path => p.names.length) hpath
  cases hlength

/-- A blank in front of a slash is a folder at first, and the blank alone is none. -/
theorem ofDatum_twice_blank :
    let homes : Homes := ⟨ofString "/home/u", []⟩
    let entries : List (Datum × Datum) := [(.text (ofString "bookmark_dir"), .text (ofString " /"))]
    homes.IsAbsolute ∧ (Datum.map entries).IsJson ∧
      ∃ s, ofDatum homes (.map entries) = .ok s ∧ s.bookmarkFolder = [.char ' '] ∧
        ¬ ∃ s', ofDatum homes s.toDatum = .ok s' := by
  intro homes entries
  refine ⟨⟨by decide, by simp [homes]⟩,
    .map (by simp [entries]) (by simpa [entries] using .text _), ?_⟩
  refine ⟨⟨defaultAttribute, [.char ' '], 4, true, false, defaultIgnore⟩, by rfl, rfl, ?_⟩
  rintro ⟨s', hs'⟩
  have hrefused : ofDatum homes (toDatum ⟨defaultAttribute, [.char ' '], 4, true, false,
    defaultIgnore⟩) =
    .error (.issues [⟨"bookmark_dir", none, .blankFolder⟩]) := by rfl
  rw [hrefused] at hs'
  cases hs'

end Settings

end FileTags

import FileTags.Proofs.Command.Tagging

/-!
# Tags that can be read again

Adding, removing and clearing tags leave tags that can be read. Renaming does so only where the text
that is written for the renamed tags is a tag list: a name that has become empty, or has got a
separator or a blank at an end, is written as it is, and not read back.
-/

set_option autoImplicit false

namespace FileTags

/-! ## Renamed maps -/

namespace TagMap

variable {find : Pattern} {replace : Text} {e : Text × Option Text}
  {es ds : List (Text × Option Text)}

theorem exists_rest_of_renamedEntries (h : renamedEntries find replace (e :: es) = .ok ds) :
    ∃ name rest, renamedEntries find replace es = .ok rest ∧ ds = (name, e.2) :: rest := by
  rw [renamedEntries] at h
  cases hmatch : find.fullMatch? e.1 with
  | none =>
    cases hrest : renamedEntries find replace es with
    | error x => simp [hmatch, hrest, bind, Except.bind] at h
    | ok rest =>
      simp only [hmatch, hrest, bind, Except.bind] at h
      cases h
      exact ⟨e.1, rest, rfl, rfl⟩
  | some m =>
    cases hname : Template.expand m replace with
    | error x => simp [hmatch, hname, bind, Except.bind] at h
    | ok name =>
      cases hrest : renamedEntries find replace es with
      | error x => simp [hmatch, hname, hrest, bind, Except.bind] at h
      | ok rest =>
        simp only [hmatch, hname, hrest, bind, Except.bind] at h
        cases h
        exact ⟨name, rest, rfl, rfl⟩

theorem map_snd_renamedEntries (h : renamedEntries find replace es = .ok ds) :
    ds.map Prod.snd = es.map Prod.snd := by
  induction es generalizing ds with
  | nil =>
    cases h
    rfl
  | cons e es ih =>
    obtain ⟨name, rest, hrest, rfl⟩ := exists_rest_of_renamedEntries h
    rw [List.map_cons, List.map_cons, ih hrest]

end TagMap

namespace Command

variable {find : Text} {replace : Option Text} {m n : TagMap} {e : Text × Option Text}

theorem exists_value_of_renamed (h : renamed find replace m = .ok n) (he : e ∈ n.entries) :
    ∃ d ∈ m.entries, d.2 = e.2 := by
  rw [renamed] at h
  cases hfind : Pattern.ofSource find with
  | error x => simp [hfind] at h
  | ok p =>
    cases replace with
    | none =>
      simp only [hfind] at h
      split at h
      · cases h
      · cases h
        exact ⟨e, he, rfl⟩
    | some template =>
      cases hes : TagMap.renamedEntries p template m.entries with
      | error x => simp [hfind, TagMap.rename, hes, Except.map, Except.mapError] at h
      | ok es =>
        obtain rfl : TagMap.ofList es = n := by
          simpa [hfind, TagMap.rename, hes, Except.map, Except.mapError] using h
        have hvalue : e.2 ∈ m.entries.map Prod.snd := by
          rw [← TagMap.map_snd_renamedEntries hes]
          exact List.mem_map_of_mem (TagMap.mem_ofList he)
        exact List.mem_map.mp hvalue

theorem renamed_empty (h : renamed find replace .empty = .ok n) : n = .empty := by
  refine TagMap.ext_entries (List.eq_nil_iff_forall_not_mem.mpr fun e he => ?_)
  obtain ⟨d, hd, -⟩ := exists_value_of_renamed h he
  cases hd

/-- It is up to the new names whether a tag list can hold what has been renamed. -/
theorem wellFormed_renamed_iff (hm : m.WellFormed) (h : renamed find replace m = .ok n) :
    n.WellFormed ↔ ∀ name ∈ n.names, name ≠ [] ∧ Storable name := by
  rw [TagMap.wellFormed_iff, TagMap.names, List.forall_mem_map]
  refine forall₂_congr fun e he => and_congr_right fun _ => and_iff_left ?_
  obtain ⟨d, hd, hvalue⟩ := exists_value_of_renamed h he
  rw [← hvalue]
  exact hm.values d hd

end Command

/-! ## Volumes -/

namespace Volume

variable {u v w : Volume} {name path : Text} {p q : Place} {m n : TagMap}

/-- The tags of every file whose attributes a call reaches can be read. -/
def Readable (v : Volume) (name : Text) : Prop :=
  ∀ path p, v.attributePlace .get path = .ok p → ∃ m, v.tags name path = .ok m

/-- The second volume differs from the first in its attributes at most, and has tags wherever the
first has. -/
structure Keeps (v : Volume) (name : Text) (w : Volume) : Prop where
  files : v.SameFiles w
  readable : ∀ q, (∃ m, v.Carries q name m) → ∃ m, w.Carries q name m

theorem Keeps.refl (v : Volume) (name : Text) : v.Keeps name v := ⟨.refl v, fun _ h => h⟩

theorem Keeps.trans (h : u.Keeps name v) (h' : v.Keeps name w) : u.Keeps name w :=
  ⟨h.files.trans h'.files, fun q hq => h'.readable q (h.readable q hq)⟩

theorem Puts.keeps {blob : Option Blob} (h : v.Puts p name blob w)
    (hblob : ∀ bytes ∈ blob, ∃ m, Stores bytes m) : v.Keeps name w where
  files := h.files
  readable q hq := by
    by_cases hqp : q = p
    · subst hqp
      cases blob with
      | none => exact ⟨.empty, h.carries_empty⟩
      | some bytes =>
        obtain ⟨m, hm⟩ := hblob bytes rfl
        exact ⟨m, .inr ⟨bytes, h.attribute_self, hm⟩⟩
    · obtain ⟨m, hm⟩ := hq
      exact ⟨m, (h.carries_iff hqp).mpr hm⟩

theorem Keeps.tags (h : v.Keeps name w) (hm : v.tags name path = .ok m) :
    ∃ n, w.tags name path = .ok n := by
  have hattr := hasAttributes_of_tags hm
  by_cases hplace : ∃ p, v.attributePlace .get path = .ok p
  · obtain ⟨p, hp⟩ := hplace
    obtain ⟨n, hn⟩ := h.readable p ⟨m, (tags_eq_ok_iff hattr hp).mp hm⟩
    exact ⟨n,
      (tags_eq_ok_iff (h.files.hasAttributes.trans hattr)
      ((h.files.attributePlace .get path).trans hp)).mpr hn⟩
  · exact ⟨m, by rw [tags_of_unreached h.files fun p hp => hplace ⟨p, hp⟩, hm]⟩

theorem readable_of_attributes (hattr : v.hasAttributes = true)
    (h : ∀ e ∈ v.attributes, ∃ m, Stores e.2 m) : v.Readable name := by
  intro path p hp
  cases hblob : v.attribute? p name with
  | none => exact ⟨.empty, (tags_eq_ok_iff hattr hp).mpr (.inl ⟨hblob, rfl⟩)⟩
  | some blob =>
    obtain ⟨before, behind, hsplit, -⟩ := List.lookup_eq_some_iff.mp hblob
    obtain ⟨m, hm⟩ := h ((p, name), blob) (by simp [hsplit])
    exact ⟨m, (tags_eq_ok_iff hattr hp).mpr (.inr ⟨blob, hblob, hm⟩)⟩

theorem Readable.keeps (hv : v.Readable name) (h : v.Keeps name w) : w.Readable name := by
  intro path p hp
  obtain ⟨m, hm⟩ := hv path p ((h.files.attributePlace .get path).symm.trans hp)
  exact h.tags hm

end Volume

namespace TagEdit

variable {e : TagEdit} {v w : Volume} {name path : Text} {paths : List Text}

def Legible (name : Text) (e : TagEdit) : List Text → Volume → Prop
  | [], _ => True
  | path :: paths, v =>
    (∀ m n, v.tags name path = .ok m → e.after m = .ok n → ∃ l, TagMap.decode n.encode = .ok l) ∧
      ∀ w, e.applyTo name path v = .ok w → Legible name e paths w

theorem keeps_applyTo (h : e.applyTo name path v = .ok w)
    (he : ∀ m n, v.tags name path = .ok m → e.after m = .ok n →
      ∃ l, TagMap.decode n.encode = .ok l) : v.Keeps name w := by
  have hrewrite : ∀ {w}, rewrite name e.after path v = .ok w → v.Keeps name w := by
    intro w hw
    obtain ⟨m, n, hm, hn, hstore⟩ := rewrite_eq_ok_iff.mp hw
    obtain ⟨p, -, hputs⟩ := Volume.puts_of_storeTags hstore
    obtain ⟨l, hl⟩ := he m n hm hn
    refine hputs.keeps fun bytes hbytes => ?_
    obtain rfl := Option.some.inj hbytes
    exact ⟨l, (TagMap.stores_iff_decode (Volume.storeTags_eq_ok_iff.mp hstore).1).mpr hl⟩
  cases e with
  | clear =>
    rw [applyTo] at h
    cases hw : v.deleteBlob name path with
    | error x => simp [hw, Except.mapError] at h
    | ok u =>
      obtain rfl : u = w := by simpa [hw, Except.mapError] using h
      rcases Volume.puts_of_deleteBlob hw with ⟨p, -, hputs⟩ | rfl
      · exact hputs.keeps fun bytes hbytes => by cases hbytes
      · exact .refl _ _
  | add | remove | rename => exact hrewrite h

theorem keeps_applyAll (h : Legible name e paths v) : v.Keeps name (e.applyAll name paths v).2 := by
  induction paths generalizing v with
  | nil => exact .refl v name
  | cons path paths ih =>
    obtain ⟨hpath, hrest⟩ := h
    rw [applyAll]
    cases hw : e.applyTo name path v with
    | error x => exact .refl v name
    | ok w => exact (keeps_applyTo hw hpath).trans (ih (hrest w hw))

/-- What is well formed after the edit if it was so before can be read again. -/
theorem legible_of_wellFormed (h : ∀ m n, m.WellFormed → e.after m = .ok n → n.WellFormed)
    (paths : List Text) (v : Volume) :
    e.Legible name paths v := by
  induction paths generalizing v with
  | nil => trivial
  | cons path paths ih =>
    exact ⟨fun m n hm hn => ⟨n, (h m n (Volume.wellFormed_of_tags hm) hn).decode_encode⟩,
      fun w _ => ih w⟩

/-- Tags that cannot be read stay so: rewriting them begins with reading them. -/
theorem unreadable_rewrite {change : TagMap → Except Failure TagMap} {q : Text} {p : Place}
    (h : rewrite name change path v = .ok w) (hp : v.attributePlace .get q = .ok p)
    (hq : ∀ m, v.tags name q ≠ .ok m) (m : TagMap) :
    w.tags name q ≠ .ok m := by
  obtain ⟨l, n, hl, -, hstore⟩ := rewrite_eq_ok_iff.mp h
  obtain ⟨p', hset, hputs⟩ := Volume.puts_of_storeTags hstore
  have hattr := Volume.hasAttributes_of_tags hl
  intro hm
  have hcarries :=
    (Volume.tags_eq_ok_iff (hputs.files.hasAttributes.trans hattr)
      ((hputs.files.attributePlace .get q).trans hp)).mp hm
  by_cases heq : p = p'
  · have hpath : v.attributePlace .get path = .ok p := Volume.attributePlace_eq_ok_iff.mpr
      ⟨heq ▸ (Volume.attributePlace_eq_ok_iff.mp hset).1, (Volume.attributePlace_eq_ok_iff.mp hp).2⟩
    exact hq l ((Volume.tags_eq_ok_iff hattr hp).mpr ((Volume.tags_eq_ok_iff hattr hpath).mp hl))
  · exact hq m ((Volume.tags_eq_ok_iff hattr hp).mpr ((hputs.carries_iff heq).mp hcarries))

section Rename

variable {find : Text} {replace : Option Text}

/-- By induction on the files that are still to be renamed: one that cannot be read is either not
among them, or ends the command. -/
theorem not_readable_applyAll {q : Text} {p : Place}
    (h : (rename find replace).applyAll name paths v = (.ok (), w))
    (hp : v.attributePlace .get q = .ok p) (hq : ∀ m, v.tags name q ≠ .ok m) :
    ¬ w.Readable name := by
  induction paths generalizing v with
  | nil =>
    cases h
    intro hv
    obtain ⟨m, hm⟩ := hv q p hp
    exact hq m hm
  | cons path paths ih =>
    rw [applyAll] at h
    split at h
    · next u hu =>
      obtain ⟨_, _, _, _, hstore⟩ := rewrite_eq_ok_iff.mp (hu : rewrite name _ path v = .ok u)
      obtain ⟨_, -, hputs⟩ := Volume.puts_of_storeTags hstore
      exact ih h ((hputs.files.attributePlace .get q).trans hp) (unreadable_rewrite hu hp hq)
    · cases h

theorem after_rename {m n : TagMap} : (rename find replace).after m = .ok n ↔
    Command.renamed find replace m = .ok n := by
  rw [after]
  cases Command.renamed find replace m <;> simp [Except.mapError]

/-- Renaming the tags of a file that reads as empty without its attributes, whatever is in them. -/
theorem renamed_of_unreached {m n : TagMap} (hp : ∀ p, v.attributePlace .get path ≠ .ok p)
    (hm : v.tags name path = .ok m)
    (hn : Command.renamed find replace m = .ok n) : m = .empty ∧ n = .empty := by
  obtain rfl := Volume.eq_empty_of_unreached hp hm
  exact ⟨rfl, Command.renamed_empty hn⟩

/-- A file reads as the renamed tags just if a tag list can hold their names. -/
theorem tags_of_rename (h : (rename find replace).applyTo name path v = .ok w) :
    ∃ m n, v.tags name path = .ok m ∧
      Command.renamed find replace m = .ok n ∧
      (w.tags name path = .ok n ↔ ∀ new ∈ n.names, new ≠ [] ∧ Storable new) := by
  obtain ⟨m, n, hm, hn, hstore⟩ := rewrite_eq_ok_iff.mp (h : rewrite name _ path v = .ok w)
  have hrenamed := after_rename.mp hn
  refine ⟨m, n, hm, hrenamed, ?_⟩
  by_cases hreach : ∃ p, v.attributePlace .get path = .ok p
  · obtain ⟨p, hp⟩ := hreach
    rw [Volume.tags_stored_iff hstore hp,
      ← Command.wellFormed_renamed_iff (Volume.wellFormed_of_tags hm) hrenamed]
    exact ⟨TagMap.wellFormed_of_decode, TagMap.WellFormed.decode_encode⟩
  · have hunreached : ∀ p, v.attributePlace .get path ≠ .ok p := fun p hp => hreach ⟨p, hp⟩
    obtain ⟨rfl, rfl⟩ := renamed_of_unreached hunreached hm hrenamed
    obtain ⟨_, -, hputs⟩ := Volume.puts_of_storeTags hstore
    exact iff_of_true ((Volume.tags_of_unreached hputs.files hunreached).trans hm) nofun

/-- If all can be read after tags have been renamed, then what has been stored could. -/
theorem legible_of_applyAll (h : (rename find replace).applyAll name paths v = (.ok (), w))
    (hw : w.Readable name) :
    (rename find replace).Legible name paths v := by
  induction paths generalizing v with
  | nil => trivial
  | cons path paths ih =>
    rw [applyAll] at h
    split at h
    · next u hu =>
      refine ⟨fun m n hm hn => ?_, fun u' hu' => ?_⟩
      · obtain ⟨m', n', hm', hn', hstore⟩ :=
          rewrite_eq_ok_iff.mp (hu : rewrite name _ path v = .ok u)
        obtain rfl := Except.ok.inj (hm'.symm.trans hm)
        obtain rfl := Except.ok.inj (hn'.symm.trans hn)
        by_cases hreach : ∃ p, v.attributePlace .get path = .ok p
        · obtain ⟨p, hp⟩ := hreach
          obtain ⟨_, -, hputs⟩ := Volume.puts_of_storeTags hstore
          refine Classical.byContradiction fun hnone => ?_
          exact not_readable_applyAll h ((hputs.files.attributePlace .get path).trans hp)
            (fun l hl => hnone ⟨l, (Volume.tags_stored_iff hstore hp).mp hl⟩) hw
        · obtain ⟨-, rfl⟩ :=
            renamed_of_unreached (fun p hp => hreach ⟨p, hp⟩) hm (after_rename.mp hn)
          exact ⟨_, TagMap.wellFormed_empty.decode_encode⟩
      · obtain rfl := Except.ok.inj (hu.symm.trans hu')
        exact ih h
    · cases h

end Rename

theorem decode_map_eq_ok_iff {t : Text} {make : TagMap → TagEdit} :
    ((TagMap.decode t).mapError Failure.tagList).map make = .ok e ↔
    ∃ m, TagMap.decode t = .ok m ∧ make m = e := by
  cases TagMap.decode t <;> simp [Except.mapError, Except.map]

/-- What a command that changes tags stores is always a tag list, unless it renames. -/
theorem legible_ofCommand {c : Command} (hc : ofCommand? c = some (.ok e, paths))
    (hrename : ∀ find replace, c = .rename find replace paths →
      (rename find replace).Legible name paths v) : e.Legible name paths v := by
  cases c with
  | add tags _ =>
    obtain ⟨hr, rfl⟩ := Prod.mk.inj (Option.some.inj hc)
    obtain ⟨new, hnew, rfl⟩ := decode_map_eq_ok_iff.mp hr
    refine legible_of_wellFormed (fun m n hm hn => ?_) _ v
    cases hn
    exact hm.update (TagMap.wellFormed_of_decode hnew)
  | remove names _ =>
    obtain ⟨hr, rfl⟩ := Prod.mk.inj (Option.some.inj hc)
    obtain ⟨gone, -, rfl⟩ := decode_map_eq_ok_iff.mp hr
    refine legible_of_wellFormed (fun m n hm hn => ?_) _ v
    cases hn
    exact hm.eraseAll gone.names
  | clear _ =>
    cases hc
    refine legible_of_wellFormed (fun m n _ hn => ?_) _ v
    cases hn
    exact TagMap.wellFormed_empty
  | rename find replace _ =>
    cases hc
    exact hrename find replace rfl
  | _ => cases hc

end TagEdit

/-! ## Runs of command lines -/

namespace CommandLine

variable {homes : Homes} {given : Option Settings} {name : Text} {v w : Volume} {words : List Text}
  {lines : List (List Text)}

/-- The words are a command line that changes tags, and where settings are found for it, they have
the tags in the attribute. -/
def ChangesTags (homes : Homes) (given : Option Settings) (name : Text) (v : Volume)
    (words : List Text) : Prop :=
  ∃ line c, ofWords words = .ok line ∧ line.command = some c ∧ (TagEdit.ofCommand? c).isSome ∧
    ∀ s, settingsOn homes given line v = .ok s → s.tagAttribute = name

def Renames (name : Text) (v : Volume) (words : List Text) : Prop :=
  ∀ line find replace paths, ofWords words = .ok line →
    line.command = some (.rename find replace paths) →
    (TagEdit.rename find replace).Legible name paths v

/-- Whatever is stored along a run by renaming tags is a tag list. -/
def Tidy (homes : Homes) (given : Option Settings) (name : Text) : List (List Text) → Volume → Prop
  | [], _ => True
  | words :: more, v => Renames name v words ∧
      Tidy homes given name more (runWords homes given words v).2.volume

theorem ChangesTags.sameFiles (h : ChangesTags homes given name v words) (hw : v.SameFiles w) :
    ChangesTags homes given name w words := by
  obtain ⟨line, c, hread, hc, hedit, hname⟩ := h
  exact ⟨line, c, hread, hc, hedit, by rwa [settingsOn_sameFiles hw]⟩

theorem keeps_runWords (h : ChangesTags homes given name v words) (hrename : Renames name v words) :
    v.Keeps name (runWords homes given words v).2.volume := by
  obtain ⟨line, c, hread, hc, hedit, hname⟩ := h
  obtain ⟨⟨r, paths⟩, hedit⟩ := Option.isSome_iff_exists.mp hedit
  rw [(runWords_edit hread hc hedit v).1, editOn]
  cases hs : settingsOn homes given line v with
  | error x => exact .refl v name
  | ok s =>
    obtain rfl := hname s hs
    cases r with
    | error x => exact .refl v s.tagAttribute
    | ok e =>
      refine TagEdit.keeps_applyAll (TagEdit.legible_ofCommand hedit fun find replace heq => ?_)
      exact hrename line find replace paths hread (heq ▸ hc)

/-- A command line that renames tags and exits with zero has renamed them on each of its files. -/
theorem applyAll_of_runWords {line : CommandLine} {find : Text} {replace : Option Text}
    {paths : List Text}
    (h : ChangesTags homes given name v words) (hread : ofWords words = .ok line)
    (hc : line.command = some (.rename find replace paths))
    (hexit : (runWords homes given words v).1 = .exit 0) :
    (TagEdit.rename find replace).applyAll name paths v =
    (.ok (), (runWords homes given words v).2.volume) := by
  obtain ⟨line', -, hread', -, -, hname⟩ := h
  obtain rfl := Except.ok.inj (hread'.symm.trans hread)
  obtain ⟨hvolume, hending⟩ : _ = _ ∧ (runWords homes given words v).1 = _ :=
    runWords_edit hread hc rfl v
  have hresult := Ending.ofResult_eq_exit_zero_iff.mp (hending.symm.trans hexit)
  rw [editOn] at hvolume hresult
  cases hs : settingsOn homes given line' v with
  | error x =>
    rw [hs] at hresult
    cases hresult
  | ok s =>
    rw [hs] at hvolume hresult
    rw [← hname s hs]
    exact Prod.ext hresult hvolume.symm

theorem renames_of_readable (h : ChangesTags homes given name v words)
    (hexit : (runWords homes given words v).1 = .exit 0)
    (hw : (runWords homes given words v).2.volume.Readable name) : Renames name v words :=
      fun _ _ _ _ hread hc =>
  TagEdit.legible_of_applyAll (applyAll_of_runWords h hread hc hexit) hw

/-- The tags of all files can be read at any time of a run just if whatever is stored by renaming is
a tag list. -/
theorem readable_runAll_iff (hv : v.Readable name)
    (hlines : ∀ words ∈ lines, ChangesTags homes given name v words)
    (hexits : ∀ ending ∈ (runAll homes given lines v).1, ending = .exit 0) :
    (∀ done, done <+: lines → (runAll homes given done v).2.Readable name) ↔
    Tidy homes given name lines v := by
  induction lines generalizing v with
  | nil => exact iff_of_true (fun done hdone => List.prefix_nil.mp hdone ▸ hv) trivial
  | cons words more ih =>
    have hwords := hlines words List.mem_cons_self
    have hexit : (runWords homes given words v).1 = .exit 0 := hexits _ List.mem_cons_self
    have hrest : Renames name v words → ((∀ done, done <+: more →
        (runAll homes given done (runWords homes given words v).2.volume).2.Readable name) ↔
          Tidy homes given name more (runWords homes given words v).2.volume) := by
      intro hrename
      have hkeeps := keeps_runWords hwords hrename
      exact ih (hv.keeps hkeeps) (fun next hnext =>
        (hlines next (List.mem_cons_of_mem _ hnext)).sameFiles hkeeps.files)
        fun ending hending => hexits ending (List.mem_cons_of_mem _ hending)
    constructor
    · intro hall
      have hrename :=
        renames_of_readable hwords hexit (hall [words] (List.prefix_append [words] more))
      exact ⟨hrename, (hrest hrename).mp fun done hdone =>
        hall (words :: done) (List.cons_prefix_cons.mpr ⟨rfl, hdone⟩)⟩
    · rintro ⟨hrename, htidy⟩ done hdone
      cases done with
      | nil => exact hv
      | cons first done =>
        obtain ⟨rfl, hprefix⟩ := List.cons_prefix_cons.mp hdone
        exact (hrest hrename).mpr htidy done hprefix

/-- Runs of command lines that change tags and exit with zero, from where all tags can be read: they
can be read at any time of the run just if whatever is stored by renaming is a tag list. A file
whose tags have been renamed reads as the renamed tags just if a tag list can hold the new names:
they are not empty, and have no separators, and no blanks at their ends. -/
theorem tags_runAll_renamed (hv : v.Readable name)
    (hlines : ∀ words ∈ lines, ChangesTags homes given name v words)
    (hexits : ∀ ending ∈ (runAll homes given lines v).1, ending = .exit 0) :
    ((∀ done, done <+: lines → (runAll homes given done v).2.Readable name) ↔
      Tidy homes given name lines v) ∧
      ∀ u words line find replace path, ChangesTags homes given name u words →
      ofWords words = .ok line →
        line.command = some (.rename find replace [path]) →
        (runWords homes given words u).1 = .exit 0 →
          ∃ m n, u.tags name path = .ok m ∧ Command.renamed find replace m = .ok n ∧
            ((runWords homes given words u).2.volume.tags name path = .ok n ↔
              ∀ new ∈ n.names, new ≠ [] ∧ Storable new) := by
  refine ⟨readable_runAll_iff hv hlines hexits,
    fun u words line find replace path hwords hread hc hexit => ?_⟩
  have happly := applyAll_of_runWords hwords hread hc hexit
  rw [TagEdit.applyAll] at happly
  split at happly
  · next w hw =>
    obtain rfl : w = _ := congrArg Prod.snd happly
    exact TagEdit.tags_of_rename hw
  · cases happly

/-- A tag that is added and one that is renamed. -/
theorem tags_runAll_renamed_added :
    let homes : Homes := ⟨Text.ofString "/home", []⟩
    let name := Settings.defaultAttribute
    let settings : Settings := ⟨name, [], 1, true, false, []⟩
    let f := Utf8.ofString "f"
    let v : Volume := ⟨[([f], .file [])], [(([f], name), Utf8.ofString "a=1")], [], true, []⟩
    let rename := [Text.ofString "rename", ['a'], ['c'], ['f']]
    let lines := [[Text.ofString "add", Text.ofString "b=2", ['f']], rename]
    v.Readable name ∧ (∀ words ∈ lines, ChangesTags homes (some settings) name v words) ∧
      (∀ ending ∈ (runAll homes (some settings) lines v).1, ending = .exit 0) ∧
        Tidy homes (some settings) name lines v ∧
      (∀ done, done <+: lines → (runAll homes (some settings) done v).2.Readable name) ∧
      ∃ m n, v.tags name ['f'] = .ok m ∧ Command.renamed ['a'] (some ['c']) m = .ok n ∧
        (runWords homes (some settings) rename v).2.volume.tags name ['f'] = .ok n := by
  intro homes name settings f v rename lines
  have hv : v.Readable name := Volume.readable_of_attributes rfl (by
    simp only [v, List.forall_mem_singleton]
    exact ⟨_, (TagMap.stores_iff_decode rfl).mpr rfl⟩)
  have hrename : ∀ {u : Volume}, ChangesTags homes (some settings) name u rename := fun {u} =>
    ⟨_, _, rfl, rfl, rfl, fun s hs => by cases hs; rfl⟩
  have hlines : ∀ words ∈ lines, ChangesTags homes (some settings) name v words := by
    simp only [lines, List.forall_mem_cons]
    exact ⟨⟨_, _, rfl, rfl, rfl, fun s hs => by cases hs; rfl⟩, hrename, by simp⟩
  have hexits : ∀ ending ∈ (runAll homes (some settings) lines v).1, ending = .exit 0 := by
    have hrun : (runAll homes (some settings) lines v).1 = [.exit 0, .exit 0] := by
      with_unfolding_all rfl
    simp [hrun]
  obtain ⟨hreadable, hstep⟩ := tags_runAll_renamed hv hlines hexits
  have htidy : Tidy homes (some settings) name lines v := by
    refine ⟨fun line find replace paths hread hc => ?_, fun line find replace paths hread hc => ?_,
      trivial⟩
    · cases hread
      cases hc
    · cases hread
      cases hc
      refine ⟨fun m n hm hn => ?_, fun _ _ => trivial⟩
      have hm' : m =
          ⟨[([.char 'a'], some [.char '1']), ([.char 'b'], some [.char '2'])], by decide⟩ := by
        refine Except.ok.inj (hm.symm.trans ?_)
        with_unfolding_all rfl
      subst hm'
      have hn' : n = ⟨[(['c'], some ['1']), (['b'], some ['2'])], by decide⟩ := by
        refine Except.ok.inj (hn.symm.trans ?_)
        with_unfolding_all rfl
      subst hn'
      exact ⟨_, rfl⟩
  obtain ⟨m, n, hm, hn, htags⟩ :=
    hstep v rename ⟨[], false, some (.rename ['a'] (some ['c']) [['f']])⟩
    ['a'] (some ['c']) ['f'] hrename rfl rfl (by with_unfolding_all rfl)
  have hm' : m = ⟨[(['a'], some ['1'])], by decide⟩ := Except.ok.inj (hm.symm.trans rfl)
  subst hm'
  have hn' : n = ⟨[(['c'], some ['1'])], by decide⟩ := by
    refine Except.ok.inj (hn.symm.trans ?_)
    with_unfolding_all rfl
  subst hn'
  refine ⟨hv, hlines, hexits, htidy, hreadable.mpr htidy, _, _, hm, hn, htags.mpr ?_⟩
  intro new hnew
  obtain rfl : new = ['c'] := by simpa [TagMap.names] using hnew
  have hbare : Text.isBlank (.char 'c') = false := by decide
  exact ⟨by decide, by simp, by simpa using hbare, by simpa using hbare⟩

/-- Tags that a replacement leaves without a name are stored, and cannot be read any more. -/
theorem runAll_stores_nameless :
    let homes : Homes := ⟨Text.ofString "/home", []⟩
    let name := Settings.defaultAttribute
    let settings : Settings := ⟨name, [], 1, true, false, []⟩
    let f := Utf8.ofString "f"
    let v : Volume := ⟨[([f], .file [])], [(([f], name), Utf8.ofString "a=1")], [], true, []⟩
    let run := runAll homes (some settings) [[Text.ofString "rename", ['a'], [], ['f']]] v
    v.Readable name ∧ run.1 = [.exit 0] ∧ (∃ p, run.2.attributePlace .get ['f'] = .ok p) ∧
      ∀ n, run.2.tags name ['f'] ≠ .ok n := by
  intro homes name settings f v run
  have hv : v.Readable name := Volume.readable_of_attributes rfl (by
    simp only [v, List.forall_mem_singleton]
    exact ⟨_, (TagMap.stores_iff_decode rfl).mpr rfl⟩)
  refine ⟨hv, by with_unfolding_all rfl, ⟨[f], by with_unfolding_all rfl⟩, fun n hn => ?_⟩
  have herror : ∃ e, run.2.tags name ['f'] = .error e := ⟨_, by with_unfolding_all rfl⟩
  obtain ⟨e, he⟩ := herror
  rw [he] at hn
  cases hn

end CommandLine

end FileTags

import FileTags.Proofs.Command.Edit
import FileTags.Proofs.Command.Files
import FileTags.Proofs.TagMap.Store
import Mathlib.Data.List.Forall2

/-!
# Command lines as changes of a table

Where attributes can be read and written, the commands that add, remove and clear tags change a
table that gives each file its tags: one entry after another is set, dropped, or all are. A run of
command lines leaves the table that these changes leave one after another, and every other attribute
as it was. Only a command that adds tags with a half to a file has no part in this. It fails when
the tags are to be stored, and changes nothing.
-/

set_option autoImplicit false

namespace FileTags

namespace Command

inductive Changes : Command → (List (Text × Option Text) → List (Text × Option Text)) → Prop
  | add {tags : Text} {paths : List Text} {new : TagMap} (h : TagMap.decode tags = .ok new) :
      Changes (.add tags paths) fun es => TagMap.mergeEntries es new
  | remove {names : Text} {paths : List Text} {gone : TagMap} (h : TagMap.decode names = .ok gone) :
      Changes (.remove names paths) fun es => TagMap.withoutNames es gone.names
  | clear {paths : List Text} : Changes (.clear paths) fun _ => []

/-- The command gives no file tags with halves. -/
def isStorable : Command → Bool
  | .add tags paths =>
    paths.isEmpty ||
      match TagMap.decode tags with
      | .ok new => new.isWhole
      | .error _ => true
  | _ => true

/-- The words of a command line for the command: its name and arguments that are taken as such, or
any other words that are read so, with options and separators between them. -/
inductive Written (c : Command) : List Text → CommandLine → Prop
  | plain (taken : ∀ w ∈ c.arguments, c.kind.usage.takes w = true) (files : c.paths ≠ []) :
      Written c c.words ⟨[], false, some c⟩
  | read {words : List Text} {line : CommandLine} (h : CommandLine.ofWords words = .ok line)
      (hc : line.command = some c) : Written c words line

variable {c : Command} {change : List (Text × Option Text) → List (Text × Option Text)}
  {words : List Text} {line : CommandLine}

theorem Written.ofWords (h : c.Written words line) (hchange : c.Changes change) :
    CommandLine.ofWords words = .ok line ∧ line.command = some c := by
  cases h with
  | read h hc => exact ⟨h, hc⟩
  | plain taken files =>
    obtain ⟨path, more, hpaths⟩ := List.exists_cons_of_ne_nil files
    have hshape : (∃ tags, c = .add tags (path :: more)) ∨
        (∃ names, c = .remove names (path :: more)) ∨ c = .clear (path :: more) := by
      cases hchange <;> simp_all [paths]
    exact ⟨CommandLine.ofWords_words taken hshape, rfl⟩

end Command

namespace TagEdit

inductive Makes : TagEdit → (List (Text × Option Text) → List (Text × Option Text)) → Prop
  | add {new : TagMap} (h : new.WellFormed) : Makes (.add new) fun es => TagMap.mergeEntries es new
  | remove (gone : List Text) : Makes (.remove gone) fun es => TagMap.withoutNames es gone
  | clear : Makes .clear fun _ => []

def isWhole : TagEdit → Bool
  | .add new => new.isWhole
  | _ => true

variable {e : TagEdit} {change : List (Text × Option Text) → List (Text × Option Text)}

theorem Makes.twice (h : e.Makes change) (es : List (Text × Option Text)) :
    change (change es) = change es := by
  cases h with
  | add _ => exact TagMap.mergeEntries_twice es _
  | remove gone => exact TagMap.withoutNames_twice es gone
  | clear => rfl

theorem exists_makes {c : Command} (h : c.Changes change) :
    ∃ e : TagEdit, ofCommand? c = some (.ok e, c.paths) ∧
      e.Makes change ∧ c.isStorable = (c.paths.isEmpty || e.isWhole) := by
  cases h with
  | @add tags paths new h =>
    refine ⟨.add new, by rw [ofCommand?, h]; rfl, .add (TagMap.wellFormed_of_decode h), ?_⟩
    rw [Command.isStorable, h]
    rfl
  | @remove names paths gone h =>
    exact ⟨.remove gone.names, by rw [ofCommand?, h]; rfl,
      .remove _, by simp [Command.isStorable, isWhole]⟩
  | clear => exact ⟨.clear, rfl, .clear, by simp [Command.isStorable, isWhole]⟩

end TagEdit

/-! ## Tables -/

namespace Volume

variable {u v w : Volume} {name path : Text} {p : Place} {places : List Place} {m : TagMap}
  {change : List (Text × Option Text) → List (Text × Option Text)}

/-- Attributes can be used without fail, and the one that stores the tags of a file can be read
wherever it is there. -/
structure Ready (v : Volume) (name : Text) : Prop where
  supported : v.hasAttributes = true
  noFaults : v.faults = []
  readable : ∀ path p, v.Leads path p → ∃ m, v.Carries p name m

structure Retags (v : Volume) (name : Text) (places : List Place)
    (change : List (Text × Option Text) → List (Text × Option Text)) (w : Volume) : Prop where
  files : v.SameFiles w
  carries : ∀ p m, v.Carries p name m → ∃ n, w.Carries p name n ∧
    n.entries = if p ∈ places then change m.entries else m.entries
  attribute? : ∀ p other, other ≠ name ∨ p ∉ places → w.attribute? p other = v.attribute? p other

theorem Retags.refl (v : Volume) : v.Retags name [] change v where
  files := .refl v
  carries _ m h := ⟨m, h, rfl⟩
  attribute? _ _ _ := rfl

theorem Ready.retags (h : v.Ready name) (hw : v.Retags name places change w) : w.Ready name where
  supported := hw.files.hasAttributes.trans h.supported
  noFaults := hw.files.faults.trans h.noFaults
  readable path p hp := by
    obtain ⟨m, hm⟩ := h.readable path p (hw.files.leads_iff.mp hp)
    obtain ⟨n, hn, -⟩ := hw.carries p m hm
    exact ⟨n, hn⟩

/-- A change that does nothing the second time may be made to a place twice. -/
theorem Retags.cons (hchange : ∀ es, change (change es) = change es)
    (h : v.Retags name [p] change u)
    (h' : u.Retags name places change w) : v.Retags name (p :: places) change w where
  files := h.files.trans h'.files
  carries q m hm := by
    obtain ⟨n, hn, hentries⟩ := h.carries q m hm
    obtain ⟨l, hl, hentries'⟩ := h'.carries q n hn
    refine ⟨l, hl, hentries'.trans ?_⟩
    rw [hentries]
    by_cases hp : q = p <;> by_cases hq : q ∈ places <;> simp [hp, hq, hchange]
  attribute? q other hq := by
    have hq : other ≠ name ∨ q ∉ [p] ∧ q ∉ places := by simpa [not_or] using hq
    rw [h'.attribute? q other (hq.imp_right And.right),
      h.attribute? q other (hq.imp_right And.left)]

/-- Setting the attribute of a place to the bytes of a map, or taking it away for the empty one,
changes the tags of that place alone. -/
theorem Puts.retags {blob : Option Blob} {n : TagMap} (hm : v.Carries p name m)
    (h : v.Puts p name blob w) (hn : w.Carries p name n) (hentries : n.entries = change m.entries) :
    v.Retags name [p] change w where
  files := h.files
  carries q l hl := by
    by_cases hq : q = p
    · subst hq
      obtain rfl := hl.unique hm
      exact ⟨n, hn, by simpa using hentries⟩
    · exact ⟨l, (h.carries_iff hq).mpr hl, by simp [hq]⟩
  attribute? q other hq := by
    rw [h.attribute?, if_neg]
    rintro ⟨rfl, rfl⟩
    simp at hq

variable {e : TagEdit} {paths : List Text}

theorem Ready.attributePlace (hv : v.Ready name) (hp : v.Leads path p) (call : AttributeCall) :
    v.attributePlace call path = .ok p :=
      attributePlace_eq_ok_iff.mpr ⟨hp, by rw [hv.noFaults]; rfl⟩

theorem Ready.tags_eq_ok_iff (hv : v.Ready name) (hp : v.Leads path p) :
    v.tags name path = .ok m ↔ v.Carries p name m :=
  Volume.tags_eq_ok_iff hv.supported (hv.attributePlace hp .get)

theorem retags_rewrite {f : TagMap → Except Failure TagMap} {n : TagMap} (hv : v.Ready name)
    (hp : v.Leads path p)
    (hm : v.Carries p name m) (hf : f m = .ok n) (hn : n.WellFormed) (hwhole : n.isWhole = true)
    (hentries : n.entries = change m.entries) :
    ∃ w, TagEdit.rewrite name f path v = .ok w ∧ v.Retags name [p] change w := by
  have hread : v.tags name path = .ok m := (hv.tags_eq_ok_iff hp).mpr hm
  obtain ⟨w, hstore⟩ : ∃ w, v.storeTags name path n = .ok w :=
    ⟨_, storeTags_eq_ok_iff.mpr ⟨hwhole, hv.supported, p, hv.attributePlace hp .set, rfl⟩⟩
  obtain ⟨q, hset, hputs⟩ := puts_of_storeTags hstore
  obtain rfl := Except.ok.inj ((hv.attributePlace hp .set).symm.trans hset)
  exact ⟨w, TagEdit.rewrite_eq_ok_iff.mpr ⟨m, n, hread, hf, hstore⟩,
    hputs.retags hm (hputs.carries hn hwhole) hentries⟩

theorem retags_applyTo (hv : v.Ready name) (hp : v.Leads path p) (he : e.Makes change)
    (hwhole : e.isWhole = true) :
    ∃ w, e.applyTo name path v = .ok w ∧ v.Retags name [p] change w := by
  obtain ⟨m, hm⟩ := hv.readable path p hp
  cases he with
  | add h =>
    have hupdate := (TagMap.isWhole_update hm.isWhole).trans hwhole
    exact retags_rewrite hv hp hm rfl (hm.wellFormed.update h) hupdate (TagMap.update_entries m _)
  | remove gone =>
    have herase := TagMap.isWhole_eraseAll hm.isWhole gone
    exact retags_rewrite hv hp hm rfl (hm.wellFormed.eraseAll gone) herase
      (TagMap.eraseAll_entries m gone)
  | clear =>
    obtain ⟨w, hw, hputs⟩ : ∃ w, v.deleteBlob name path = .ok w ∧ v.Puts p name none w :=
      deleteBlob_eq_ok (hv.attributePlace hp .remove) hv.supported
    exact ⟨w, by rw [TagEdit.applyTo, hw]; rfl, hputs.retags hm hputs.carries_empty rfl⟩

/-- Tags with halves fail to be stored after the tags of the file have been read. -/
theorem applyTo_of_not_isWhole (hv : v.Ready name) (hp : v.Leads path p)
    (hhalf : e.isWhole = false) :
    ∃ x, e.applyTo name path v = .error (.tags (.unencodable x)) := by
  obtain ⟨m, hm⟩ := hv.readable path p hp
  cases e with
  | add new =>
    have hupdate : (m.update new).isWhole = false := (TagMap.isWhole_update hm.isWhole).trans hhalf
    obtain ⟨x, hx⟩ : ∃ x, v.storeTags name path (m.update new) = .error (.unencodable x) :=
      storeTags_of_not_isWhole hupdate
    refine ⟨x, ?_⟩
    change TagEdit.rewrite name (TagEdit.add new).after path v = _
    rw [TagEdit.rewrite, (hv.tags_eq_ok_iff hp).mpr hm]
    simp only [TagEdit.after, Except.mapError, bind, Except.bind, hx]
  | remove | clear | rename => cases hhalf

/-- The files of a command are changed one after another, the same file again if it is named
again. -/
theorem retags_applyAll (hv : v.Ready name) (hpaths : List.Forall₂ v.Leads paths places)
    (he : e.Makes change) (hwhole : e.isWhole = true) : ∃ w, e.applyAll name paths v = (.ok (), w) ∧
    v.Retags name places change w := by
  induction paths generalizing v places with
  | nil =>
    cases hpaths
    exact ⟨v, rfl, .refl v⟩
  | cons path paths ih =>
    obtain ⟨p, places, hp, hrest, rfl⟩ := List.forall₂_cons_left_iff.mp hpaths
    obtain ⟨u, hu, hretags⟩ := retags_applyTo hv hp he hwhole
    obtain ⟨w, hw, hretags'⟩ :=
      ih (hv.retags hretags) (hrest.imp fun _ _ h => hretags.files.leads_iff.mpr h)
    exact ⟨w, by rw [TagEdit.applyAll, hu]; exact hw, hretags.cons he.twice hretags'⟩

/-- Tags with halves end a command at its first file, if it has one. -/
theorem applyAll_of_not_isWhole (hv : v.Ready name) (hpaths : List.Forall₂ v.Leads paths places)
    (hne : paths ≠ []) (hhalf : e.isWhole = false) :
    ∃ x, e.applyAll name paths v = (.error (.tags (.unencodable x)), v) := by
  cases hpaths with
  | nil => exact absurd rfl hne
  | cons hp _ =>
    obtain ⟨x, hx⟩ := applyTo_of_not_isWhole hv hp hhalf
    exact ⟨x, by rw [TagEdit.applyAll, hx]⟩

end Volume

/-! ## Runs of command lines -/

namespace CommandLine

def runAll (homes : Homes) (given : Option Settings) :
    List (List Text) → Volume → List Ending × Volume
  | [], v => ([], v)
  | words :: more, v =>
    let (ending, s) := runWords homes given words v
    let (endings, w) := runAll homes given more s.volume
    (ending :: endings, w)

/-- A command line that changes tags, and what it does to the tags at which places. -/
structure Step where
  words : List Text
  line : CommandLine
  command : Command
  places : List Place
  change : List (Text × Option Text) → List (Text × Option Text)

namespace Step

/-- The places whose tags the step changes: those of its files, or none if the tags cannot be
stored. -/
def changed (step : Step) : List Place := if step.command.isStorable then step.places else []

/-- A step exits with zero, unless it fails because its tags cannot be stored. -/
def Ends (step : Step) (ending : Ending) : Prop :=
  if step.command.isStorable then ending = .exit 0
    else ∃ e, ending = .failed (.tags (.unencodable e))

def entriesAfter (steps : List Step) (p : Place) (es : List (Text × Option Text)) :
    List (Text × Option Text) :=
  steps.foldl (fun es step => if p ∈ step.changed then step.change es else es) es

/-- The words are a command line for the command, whose paths lead to the places, and the tags of
the settings are in the attribute. -/
structure Fits (step : Step) (homes : Homes) (given : Option Settings) (name : Text) (v : Volume) :
    Prop where
  changes : step.command.Changes step.change
  written : step.command.Written step.words step.line
  settings : ∃ s, settingsOn homes given step.line v = .ok s ∧ s.tagAttribute = name
  paths : List.Forall₂ v.Leads step.command.paths step.places

variable {step : Step} {homes : Homes} {given : Option Settings} {name : Text} {v w : Volume}

theorem Fits.sameFiles (h : step.Fits homes given name v) (hw : v.SameFiles w) :
    step.Fits homes given name w where
  changes := h.changes
  written := h.written
  settings := by
    rw [settingsOn_sameFiles hw]
    exact h.settings
  paths := h.paths.imp fun _ _ hp => hw.leads_iff.mpr hp

theorem Fits.runWords (h : step.Fits homes given name v) (hv : v.Ready name) :
    step.Ends (CommandLine.runWords homes given step.words v).1 ∧
      v.Retags name step.changed step.change
        (CommandLine.runWords homes given step.words v).2.volume := by
  obtain ⟨hread, hc⟩ := h.written.ofWords h.changes
  obtain ⟨e, he, hmakes, hstorable⟩ := TagEdit.exists_makes h.changes
  obtain ⟨s, hs, rfl⟩ := h.settings
  have hedit : editOn homes given step.line (.ok e) step.command.paths v =
      e.applyAll s.tagAttribute step.command.paths v := by
    rw [editOn, hs]
    rfl
  obtain ⟨hvolume, hending⟩ : _ = _ ∧ (CommandLine.runWords homes given step.words v).1 = _ :=
    runWords_edit hread hc he v
  rw [hedit] at hvolume hending
  rw [Ends, changed, hvolume, hending, hstorable]
  by_cases hwhole : e.isWhole = true
  · obtain ⟨w, hw, hretags⟩ := Volume.retags_applyAll hv h.paths hmakes hwhole
    simpa [hwhole, hw] using ⟨rfl, hretags⟩
  · rw [Bool.not_eq_true] at hwhole
    by_cases hpaths : step.command.paths = []
    · have hplaces : step.places = [] := by simpa [hpaths] using h.paths
      simpa [hpaths, hplaces, TagEdit.applyAll] using ⟨rfl, .refl v⟩
    · obtain ⟨x, hx⟩ := Volume.applyAll_of_not_isWhole hv h.paths hpaths hwhole
      simpa [hpaths, hwhole, hx] using ⟨⟨x, rfl⟩, .refl v⟩

end Step

variable {homes : Homes} {given : Option Settings} {name : Text} {v : Volume} {steps : List Step}

/-- What a run leaves: the tags of each place go through the changes at that place in order. -/
structure Leaves (v : Volume) (name : Text) (steps : List Step) (w : Volume) : Prop where
  files : v.SameFiles w
  carries : ∀ p m, v.Carries p name m → ∃ n, w.Carries p name n ∧
    n.entries = Step.entriesAfter steps p m.entries
  attribute? : ∀ p other, (other ≠ name ∨ ∀ step ∈ steps, p ∉ step.changed) →
    w.attribute? p other = v.attribute? p other

theorem Leaves.cons {u w : Volume} {step : Step} (h : v.Retags name step.changed step.change u)
    (h' : Leaves u name steps w) : Leaves v name (step :: steps) w where
  files := h.files.trans h'.files
  carries p m hm := by
    obtain ⟨n, hn, hentries⟩ := h.carries p m hm
    obtain ⟨l, hl, hentries'⟩ := h'.carries p n hn
    exact ⟨l, hl, by rw [hentries', hentries, Step.entriesAfter, Step.entriesAfter,
      List.foldl_cons]⟩
  attribute? p other hp := by
    simp only [List.forall_mem_cons] at hp
    rw [h'.attribute? p other (hp.imp_right And.right),
      h.attribute? p other (hp.imp_right And.left)]

/-- Each step of a run ends as it has to and leaves what the next one needs. -/
theorem leaves_runAll (hv : v.Ready name) (hsteps : ∀ step ∈ steps, step.Fits homes given name v) :
    List.Forall₂ Step.Ends steps (runAll homes given (steps.map Step.words) v).1 ∧
      Leaves v name steps (runAll homes given (steps.map Step.words) v).2 := by
  induction steps generalizing v with
  | nil => exact ⟨.nil, .refl v, fun p m hm => ⟨m, hm, rfl⟩, fun _ _ _ => rfl⟩
  | cons step steps ih =>
    obtain ⟨hending, hretags⟩ := (hsteps step List.mem_cons_self).runWords hv
    have hrest : ∀ next ∈ steps, next.Fits homes given name
        (runWords homes given step.words v).2.volume :=
      fun next hnext => (hsteps next (List.mem_cons_of_mem step hnext)).sameFiles hretags.files
    obtain ⟨hendings, hleaves⟩ := ih (hv.retags hretags) hrest
    exact ⟨.cons hending hendings, .cons hretags hleaves⟩

/-- Any run of command lines that add, remove and clear tags, where attributes can be used and read.
Each exits with zero, unless it has to give a file tags with halves: then it fails and changes
nothing. Afterwards the tags of a file are those that the changes of the other steps which named it
make, in order, of the tags it had; every attribute that none of these is about is as it was. -/
theorem tags_runAll (hv : v.Ready name) (hsteps : ∀ step ∈ steps, step.Fits homes given name v) :
    List.Forall₂ Step.Ends steps (runAll homes given (steps.map Step.words) v).1 ∧
      (∀ path p, v.Leads path p → ∃ m n, v.tags name path = .ok m ∧
        (runAll homes given (steps.map Step.words) v).2.tags name path = .ok n ∧
          n.entries = Step.entriesAfter steps p m.entries) ∧
      ∀ p other, (other ≠ name ∨ ∀ step ∈ steps, p ∉ step.changed) →
        (runAll homes given (steps.map Step.words) v).2.attribute? p other =
          v.attribute? p other := by
  obtain ⟨hendings, hleaves⟩ := leaves_runAll hv hsteps
  refine ⟨hendings, fun path p hp => ?_, hleaves.attribute?⟩
  obtain ⟨m, hm⟩ := hv.readable path p hp
  obtain ⟨n, hn, hentries⟩ := hleaves.carries p m hm
  refine ⟨m, n, (hv.tags_eq_ok_iff hp).mpr hm, ?_, hentries⟩
  have hsupported := hleaves.files.hasAttributes.trans hv.supported
  have hget := (hleaves.files.attributePlace .get path).trans (hv.attributePlace hp .get)
  exact (Volume.tags_eq_ok_iff hsupported hget).mpr hn

/-- A link and the file it leads to, named by one command, are one place of the table. In the midst
of the run a tag with a half is refused. -/
theorem tags_runAll_alias :
    let homes : Homes := ⟨Text.ofString "/home", []⟩
    let name := Settings.defaultAttribute
    let settings : Settings := ⟨name, [], 1, true, false, []⟩
    let blob := Utf8.ofString "a=1,b"
    let f := Utf8.ofString "f"
    let g := Utf8.ofString "g"
    let l := Utf8.ofString "l"
    let v : Volume := ⟨[([f], .file []), ([g], .file []), ([l], .link f)],
      [(([f], name), blob), (([f], ['x']), [0])], [], true, []⟩
    let new : TagMap := ⟨[(['b'], some ['2']), (['c'], none)], by decide⟩
    let half : TagMap := ⟨[([.half 0], none)], by decide⟩
    let gone : TagMap := ⟨[(['c'], some ['9'])], by decide⟩
    let add : Command := .add (Text.ofString "b=2,c") [['l'], ['f']]
    let addHalf : Command := .add [.half 0] [['f']]
    let remove : Command := .remove (Text.ofString "c=9") [['f'], ['g']]
    let clear : Command := .clear [['g']]
    let steps : List Step := [
      ⟨add.words, ⟨[], false, some add⟩, add, [[f], [f]], fun es => TagMap.mergeEntries es new⟩,
      ⟨addHalf.words, ⟨[], false, some addHalf⟩, addHalf, [[f]],
        fun es => TagMap.mergeEntries es half⟩,
      ⟨[Text.ofString "-v", Text.ofString "remove", Text.ofString "--", Text.ofString "c=9",
        ['f'], ['g']],
        ⟨[], true, some remove⟩, remove, [[f], [g]], fun es => TagMap.withoutNames es gone.names⟩,
      ⟨clear.words, ⟨[], false, some clear⟩, clear, [[g]], fun _ => []⟩]
    let run := runAll homes (some settings) (steps.map Step.words) v
    v.Ready name ∧ (∀ step ∈ steps, step.Fits homes (some settings) name v) ∧
      List.Forall₂ Step.Ends steps run.1 ∧
      (∃ n, run.2.tags name ['f'] = .ok n ∧
        n.entries = [([.char 'a'], some [.char '1']), ([.char 'b'], some [.char '2'])]) ∧
      run.2.attribute? [f] ['x'] = some [0] := by
  intro homes name settings blob f g l v new half gone add addHalf remove clear steps run
  have hready : v.Ready name := by
    refine ⟨rfl, rfl, fun path p _ => ?_⟩
    by_cases hp : p = [f]
    · subst hp
      exact ⟨⟨[(['a'], some ['1']), (['b'], none)], by decide⟩,
        .inr ⟨blob, rfl, (TagMap.stores_iff_decode rfl).mpr rfl⟩⟩
    · refine ⟨.empty, .inl ⟨?_, rfl⟩⟩
      simp [Volume.attribute?, v, List.lookup_cons, beq_eq_false_iff_ne.mpr, hp]
  have hfits : ∀ step ∈ steps, step.Fits homes (some settings) name v := by
    simp only [steps, List.forall_mem_cons]
    refine ⟨⟨.add rfl, .plain (by decide) (by decide), ⟨_, rfl, rfl⟩, .cons rfl (.cons rfl .nil)⟩,
      ⟨.add rfl, .plain (by decide) (by decide), ⟨_, rfl, rfl⟩, .cons rfl .nil⟩,
      ⟨.remove rfl, .read rfl rfl, ⟨_, rfl, rfl⟩, .cons rfl (.cons rfl .nil)⟩,
      ⟨.clear, .plain (by decide) (by decide), ⟨_, rfl, rfl⟩, .cons rfl .nil⟩, by simp⟩
  obtain ⟨hendings, htags, hothers⟩ := tags_runAll hready hfits
  obtain ⟨m, n, hm, hn, hentries⟩ := htags ['f'] [f] rfl
  refine ⟨hready, hfits, hendings, ⟨n, hn, ?_⟩, hothers _ _ (.inl (by decide))⟩
  rw [hentries, ← Except.ok.inj (hm : _ = Except.ok m)]
  rfl

/-- A tag with a half is read from the command line, but cannot be stored. -/
theorem runAll_refuses_halves :
    let homes : Homes := ⟨Text.ofString "/home", []⟩
    let name := Settings.defaultAttribute
    let settings : Settings := ⟨name, [], 1, true, false, []⟩
    let v : Volume := ⟨[([Utf8.ofString "f"], .file [])], [], [], true, []⟩
    let add : Command := .add [.half 0x4ff] [['f']]
    let run := runAll homes (some settings) [add.words] v
    v.Ready name ∧ (∃ new, TagMap.decode [.half 0x4ff] = .ok new) ∧
      (∀ w ∈ add.arguments, add.kind.usage.takes w = true) ∧
      (∃ e, run.1 = [.failed (.tags (.unencodable e))]) ∧ run.2.tags name ['f'] = .ok .empty := by
  intro homes name settings v add run
  have hready : v.Ready name := ⟨rfl, rfl, fun path p _ => ⟨.empty, .inl ⟨rfl, rfl⟩⟩⟩
  let f := Utf8.ofString "f"
  let new : TagMap := ⟨[([.half 0x4ff], none)], by decide⟩
  let step : Step :=
    ⟨add.words, ⟨[], false, some add⟩, add, [[f]], fun es => TagMap.mergeEntries es new⟩
  have hfits : ∀ step' ∈ [step], step'.Fits homes (some settings) name v := by
    rw [List.forall_mem_singleton]
    exact ⟨.add rfl, .plain (by decide) (by decide), ⟨_, rfl, rfl⟩, .cons rfl .nil⟩
  obtain ⟨hendings, hleaves⟩ := leaves_runAll hready hfits
  obtain ⟨n, hn, hentries⟩ := hleaves.carries [f] .empty (.inl ⟨rfl, rfl⟩)
  obtain rfl : n = .empty := TagMap.ext_entries hentries
  have hget : run.2.attributePlace .get ['f'] = .ok [f] :=
    (hleaves.files.attributePlace .get ['f']).trans rfl
  refine ⟨hready, ⟨new, rfl⟩, by decide, ?_,
    (Volume.tags_eq_ok_iff hleaves.files.hasAttributes hget).mpr hn⟩
  obtain ⟨ending, rest, ⟨e, rfl⟩, hrest, hrun⟩ := List.forall₂_cons_left_iff.mp hendings
  rw [List.forall₂_nil_left_iff.mp hrest] at hrun
  exact ⟨e, hrun⟩

end CommandLine

end FileTags

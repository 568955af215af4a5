import FileTags.Command.Run
import FileTags.Proofs.Settings.Loading

/-!
# Tag commands on a volume

The commands that change tags do the same to each of their files: they read its tags, change them,
and store them again, or take them away. What such a command leaves is what these steps leave one
after another, up to the first that fails; which notes are made on the way does not matter to the
volume.
-/

set_option autoImplicit false

namespace FileTags

inductive TagEdit
  | add (new : TagMap)
  | remove (gone : List Text)
  | clear
  | rename (find : Text) (replace : Option Text)
  deriving DecidableEq, Repr

namespace TagEdit

def after : TagEdit → TagMap → Except Failure TagMap
  | .add new, m => .ok (m.update new)
  | .remove gone, m => .ok (m.eraseAll gone)
  | .clear, _ => .ok .empty
  | .rename find replace, m => (Command.renamed find replace m).mapError .rename

def rewrite (name : Text) (change : TagMap → Except Failure TagMap) (path : Text) (v : Volume) :
    Except Failure Volume := do
  let m ← (v.tags name path).mapError .tags
  let n ← change m
  (v.storeTags name path n).mapError .tags

/-- A file is rewritten if its tags can be read, changed and stored. -/
theorem rewrite_eq_ok_iff {name path : Text} {v w : Volume}
    {change : TagMap → Except Failure TagMap} :
    rewrite name change path v = .ok w ↔
      ∃ m n, v.tags name path = .ok m ∧ change m = .ok n ∧ v.storeTags name path n = .ok w := by
  rw [rewrite]
  cases hm : v.tags name path with
  | error x => simp [bind, Except.bind, Except.mapError]
  | ok m =>
    cases hn : change m with
    | error x => simp [bind, Except.bind, Except.mapError, hn]
    | ok n => cases hw : v.storeTags name path n <;>
        simp [bind, Except.bind, Except.mapError, hn, hw]

def applyTo (name : Text) (e : TagEdit) (path : Text) (v : Volume) : Except Failure Volume :=
  match e with
  | .clear => (v.deleteBlob name path).mapError .tags
  | e => rewrite name e.after path v

/-- The volume after the edits of some files in order, of which the first that fails is the last. -/
def applyAll (name : Text) (e : TagEdit) : List Text → Volume → Except Failure Unit × Volume
  | [], v => (.ok (), v)
  | path :: paths, v =>
    match e.applyTo name path v with
    | .ok w => e.applyAll name paths w
    | .error x => (.error x, v)

def ofCommand? : Command → Option (Except Failure TagEdit × List Text)
  | .add tags paths => some (((TagMap.decode tags).mapError .tagList).map .add, paths)
  | .remove names paths =>
    some (((TagMap.decode names).mapError .tagList).map fun m => .remove m.names, paths)
  | .clear paths => some (.ok .clear, paths)
  | .rename find replace paths => some (.ok (.rename find replace), paths)
  | _ => none

end TagEdit

/-! ## Actions and what they do -/

def Volume.outcome {ε : Type} (v : Volume) : Except ε Volume → Except ε Unit × Volume
  | .ok w => (.ok (), w)
  | .error x => (.error x, v)

def Action.Does {ε : Type} (a : Action ε Unit) (f : Volume → Except ε Unit × Volume) : Prop :=
  ∀ s, (a.runIn s).1 = (f s.volume).1 ∧ (a.runIn s).2.volume = (f s.volume).2

namespace Action

variable {ε α : Type} {a : Action ε Unit} {f : Volume → Except ε Unit × Volume}

theorem does_change (step : Volume → Except ε Volume) :
    (change step).Does fun v => v.outcome (step v) := by
  intro s
  rw [runIn_change]
  cases h : step s.volume <;> simp [Volume.outcome, h]

theorem Does.note (ha : a.Does f) (severity : Severity) (text : Text) :
    Does (do a; Action.note severity text) f := by
  intro s
  obtain ⟨hresult, hvolume⟩ := ha s
  rw [runIn_bind]
  rcases h : a.runIn s with ⟨_ | _, s'⟩ <;> rw [h] at hresult hvolume <;> exact ⟨hresult, hvolume⟩

theorem Does.ask {b : α → Action ε Unit} {step : α → Volume → Except ε Volume}
    (question : Volume → Except ε α) (hb : ∀ x, (b x).Does fun v => v.outcome (step x v)) :
    Does (do b (← Action.ask question)) fun v => v.outcome (do step (← question v) v) := by
  intro s
  rw [runIn_bind, runIn_ask]
  cases h : question s.volume with
  | error e => simp [Volume.outcome, bind, Except.bind, h]
  | ok x => simpa [bind, Except.bind, h] using hb x s

theorem Does.settle {b : α → Action ε Unit} {step : α → Volume → Except ε Volume} (r : Except ε α)
    (hb : ∀ x, (b x).Does fun v => v.outcome (step x v)) :
    Does (do b (← ofExcept r)) fun v => v.outcome (do step (← r) v) := by
  intro s
  rw [runIn_bind, runIn_ofExcept]
  cases h : r with
  | error e => simp [Volume.outcome, bind, Except.bind]
  | ok x => simpa [bind, Except.bind] using hb x s

end Action

namespace Command

open FileTags.Action

variable {s : Settings} {e : TagEdit} {path : Text} {paths : List Text}

theorem does_storeTags (s : Settings) (path : Text) (m : TagMap) :
    (storeTags s path m).Does fun v => v.outcome
    ((v.storeTags s.tagAttribute path m).mapError .tags) :=
  (does_change _).note _ _

theorem does_addTo (s : Settings) (new : TagMap) (path : Text) :
    (addTo s new path).Does fun v => v.outcome ((TagEdit.add new).applyTo s.tagAttribute path v) :=
  Does.ask _ fun m => (does_storeTags s path (m.update new)).note _ _

theorem does_removeFrom (s : Settings) (gone : List Text) (path : Text) :
    (removeFrom s gone path).Does fun v => v.outcome
    ((TagEdit.remove gone).applyTo s.tagAttribute path v) :=
  Does.ask _ fun m => does_storeTags s path (m.eraseAll gone)

theorem does_clearPath (s : Settings) (path : Text) :
    (clearPath s path).Does fun v => v.outcome (TagEdit.clear.applyTo s.tagAttribute path v) :=
      does_change _

theorem does_renameOn (s : Settings) (find : Text) (replace : Option Text) (path : Text) :
    (renameOn s find replace path).Does fun v => v.outcome
    ((TagEdit.rename find replace).applyTo s.tagAttribute path v) :=
  Does.ask _ fun _ => Does.settle _ fun n => does_storeTags s path n

/-- The files are worked on one after another, up to the first that fails. -/
theorem does_forM {step : Text → Action Failure Unit} {name : Text}
    (h : ∀ path, (step path).Does fun v => v.outcome (e.applyTo name path v)) (paths : List Text) :
    Does (paths.forM step) (e.applyAll name paths) := by
  induction paths with
  | nil => exact fun s => ⟨rfl, rfl⟩
  | cons path paths ih =>
    intro s
    obtain ⟨hresult, hvolume⟩ := h path s
    rw [show (path :: paths).forM step = (do step path; paths.forM step) from rfl, runIn_bind,
      TagEdit.applyAll]
    rcases hrun : (step path).runIn s with ⟨_ | _, s'⟩ <;> rw [hrun] at hresult hvolume <;>
      cases happly : e.applyTo name path s.volume <;>
        simp only [happly, Volume.outcome] at hresult hvolume
    · exact ⟨hresult, hvolume⟩
    · cases hresult
    · cases hresult
    · rw [← hvolume]
      exact ih s'

def editAll (name : Text) (paths : List Text) (v : Volume) :
    Except Failure TagEdit → Except Failure Unit × Volume
  | .ok e => e.applyAll name paths v
  | .error x => (.error x, v)

theorem does_readTagList (t : Text) {make : TagMap → TagEdit} {b : TagMap → Action Failure Unit}
    {name : Text} (hb : ∀ m, (b m).Does ((make m).applyAll name paths)) :
    Does (do b (← readTagList t)) fun v =>
      editAll name paths v (((TagMap.decode t).mapError .tagList).map make) := by
  intro s
  rw [runIn_bind, readTagList, runIn_ofExcept]
  cases TagMap.decode t with
  | error e => exact ⟨rfl, rfl⟩
  | ok m => exact hb m s

/-- A command that changes tags does its edit to each of its files. -/
theorem does_run {c : Command} {r : Except Failure TagEdit} (homes : Homes) (s : Settings)
    (h : TagEdit.ofCommand? c = some (r, paths)) :
    (c.run homes s).Does fun v => editAll s.tagAttribute paths v r := by
  cases c with
  | add tags _ =>
    cases h
    exact does_readTagList tags fun new => does_forM (does_addTo s new) paths
  | remove names _ =>
    cases h
    exact does_readTagList names fun gone => does_forM (does_removeFrom s gone.names) paths
  | clear _ =>
    cases h
    exact does_forM (does_clearPath s) paths
  | rename find replace _ =>
    cases h
    exact does_forM (does_renameOn s find replace) paths
  | _ => cases h

end Command

/-- How a command line ends whose command comes to this: with one where the failure is foreseen. -/
def Ending.ofResult : Except Failure Unit → Ending
  | .ok () => .exit 0
  | .error x => if x.isForeseen then .exit 1 else .failed x

theorem Ending.ofResult_eq_exit_zero_iff {result : Except Failure Unit} :
    ofResult result = .exit 0 ↔ result = .ok () := by
  cases result with
  | ok _ => simp [ofResult]
  | error x =>
    rw [ofResult]
    split <;> simp

namespace CommandLine

def settingsOn (homes : Homes) (given : Option Settings) (line : CommandLine) (v : Volume) :
    Except Failure Settings :=
  ((settingsFor homes given line.settingsFile).runIn (.start v)).1

theorem settingsOn_sameFiles {v w : Volume} (h : v.SameFiles w) (homes : Homes)
    (given : Option Settings) (line : CommandLine) :
    settingsOn homes given line w = settingsOn homes given line v :=
  (onlyReads_settingsFor homes given line.settingsFile).outcome (.start v) (.start w) h

def editOn (homes : Homes) (given : Option Settings) (line : CommandLine)
    (r : Except Failure TagEdit) (paths : List Text) (v : Volume) : Except Failure Unit × Volume :=
  match settingsOn homes given line v with
  | .ok s => Command.editAll s.tagAttribute paths v r
  | .error x => (.error x, v)

variable {r : Except Failure TagEdit} {paths words : List Text} {c : Command}

theorem does_runCommand (homes : Homes) (given : Option Settings) (line : CommandLine)
    (h : TagEdit.ofCommand? c = some (r, paths)) (v : Volume) :
    ((runCommand homes given line c).runIn (.start v)).1 = (editOn homes given line r paths v).1 ∧
      ((runCommand homes given line c).runIn (.start v)).2.volume =
        (editOn homes given line r paths v).2 := by
  have hvolume := (onlyReads_settingsFor homes given line.settingsFile).volume (.start v)
  rw [runCommand, Action.runIn_bind, editOn, settingsOn]
  rcases hrun : (settingsFor homes given line.settingsFile).runIn (.start v) with ⟨_ | s, t⟩ <;>
    rw [hrun] at hvolume
  · exact ⟨rfl, hvolume⟩
  · obtain ⟨hresult, hleft⟩ := Command.does_run homes s h t
    rw [hvolume] at hresult hleft
    exact ⟨hresult, hleft⟩

theorem exitCode_run (outcome : Except Failure Unit) (s : Session) :
    ((exitCode outcome).runIn s).2.volume = s.volume ∧
      Ending.ofOutcome ((exitCode outcome).runIn s).1 = .ofResult outcome := by
  cases outcome with
  | ok _ => exact ⟨rfl, rfl⟩
  | error x =>
    rw [exitCode, Ending.ofResult]
    split
    · rw [Action.runIn_bind, Action.runIn_note]
      exact ⟨rfl, rfl⟩
    · exact ⟨rfl, rfl⟩

variable {homes : Homes} {given : Option Settings} {line : CommandLine}

theorem run_lift (c : Command) (v : Volume) : (line.run homes given c).runIn (.start v) =
    (exitCode ((runCommand homes given line c).runIn (.start v)).1).runIn
      ((runCommand homes given line c).runIn (.start v)).2 := rfl

/-- A command line for an edit ends as the edit does, and leaves the volume that the edit leaves. -/
theorem runWords_edit (hread : ofWords words = .ok line) (hc : line.command = some c)
    (h : TagEdit.ofCommand? c = some (r, paths)) (v : Volume) :
    (runWords homes given words v).2.volume = (editOn homes given line r paths v).2 ∧
      (runWords homes given words v).1 = .ofResult (editOn homes given line r paths v).1 := by
  obtain ⟨hresult, hvolume⟩ := does_runCommand homes given line h v
  have hexit := exitCode_run ((runCommand homes given line c).runIn (.start v)).1
    ((runCommand homes given line c).runIn (.start v)).2
  rw [← run_lift, hresult, hvolume] at hexit
  simp only [runWords, hread, hc]
  exact hexit

end CommandLine

end FileTags

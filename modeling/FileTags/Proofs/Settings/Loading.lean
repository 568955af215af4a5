import FileTags.Command.Run
import FileTags.Proofs.Session
import FileTags.Proofs.Volume.Lookup

/-!
# Loading settings

Which settings hold is asked of the files alone: loading them leaves the volume as it is, and no
attribute makes a difference to them.
-/

set_option autoImplicit false

namespace FileTags

/-- The action leaves the volume as it is, and what it comes to does not depend on the
attributes. -/
structure Action.OnlyReads {ε α : Type} (a : Action ε α) : Prop where
  volume : ∀ s, (a.runIn s).2.volume = s.volume
  outcome : ∀ s s', s.volume.SameFiles s'.volume → (a.runIn s').1 = (a.runIn s).1

namespace Action.OnlyReads

variable {ε ε' α β : Type}

theorem pure (x : α) : OnlyReads (Pure.pure x : Action ε α) := ⟨fun _ => rfl, fun _ _ _ => rfl⟩

theorem throw (e : ε) : OnlyReads (MonadExcept.throw e : Action ε α) :=
  ⟨fun _ => rfl, fun _ _ _ => rfl⟩

theorem ofExcept (r : Except ε α) : OnlyReads (MonadExcept.ofExcept r : Action ε α) :=
  ⟨fun _ => by rw [runIn_ofExcept], fun _ _ _ => by rw [runIn_ofExcept, runIn_ofExcept]⟩

theorem note (severity : Severity) (text : Text) :
    OnlyReads (Action.note severity text : Action ε Unit) :=
  ⟨fun _ => rfl, fun _ _ _ => rfl⟩

theorem noteAll (notes : List Note) : OnlyReads (Action.noteAll notes : Action ε Unit) :=
  ⟨fun _ => rfl, fun _ _ _ => rfl⟩

theorem ask {question : Volume → Except ε α} (h : ∀ v as, question (v.retag as) = question v) :
    OnlyReads (Action.ask question) where
  volume s := by rw [runIn_ask]
  outcome s s' hs := by
    obtain ⟨as, hs⟩ := hs
    rw [runIn_ask, runIn_ask, hs, h]

theorem bind {a : Action ε α} {f : α → Action ε β} (ha : OnlyReads a) (hf : ∀ x, OnlyReads (f x)) :
    OnlyReads (a >>= f) where
  volume s := by
    rw [runIn_bind]
    have hvolume := ha.volume s
    rcases h : a.runIn s with ⟨_ | x, s'⟩ <;> rw [h] at hvolume
    · exact hvolume
    · exact ((hf x).volume s').trans hvolume
  outcome s s' hs := by
    rw [runIn_bind, runIn_bind]
    have hvolume := ha.volume s
    have hvolume' := ha.volume s'
    have houtcome := ha.outcome s s' hs
    rcases h : a.runIn s with ⟨r, t⟩
    rcases h' : a.runIn s' with ⟨r', t'⟩
    rw [h] at hvolume houtcome
    rw [h'] at hvolume' houtcome
    obtain rfl : r' = r := houtcome
    cases r' with
    | error e => rfl
    | ok x => exact (hf x).outcome t t' (hvolume ▸ hvolume' ▸ hs)

theorem map {a : Action ε α} (ha : OnlyReads a) (f : α → β) : OnlyReads (f <$> a) := by
  rw [map_eq_pure_bind]
  exact ha.bind fun _ => pure _

theorem adapt {a : Action ε α} (ha : OnlyReads a) (f : ε → ε') :
    OnlyReads (ExceptT.adapt f a : Action ε' α) where
  volume s := by
    rw [runIn_adapt]
    exact ha.volume s
  outcome s s' hs := by
    rw [runIn_adapt, runIn_adapt, ha.outcome s s' hs]

end Action.OnlyReads

open FileTags.Action (OnlyReads)

namespace Settings

theorem firstFile_retag (v : Volume) (as : List ((Place × Text) × Blob)) (ps : List Path) :
    firstFile (v.retag as) ps = firstFile v ps := by
  induction ps with
  | nil => rfl
  | cons p ps ih => rw [firstFile, firstFile, Volume.isFile?_retag, ih]

theorem cautions_retag (v : Volume) (as : List ((Place × Text) × Blob)) (s : Settings) :
    s.cautions (v.retag as) = s.cautions v := by
  rw [cautions, cautions, Volume.isFolder?_retag]

theorem fileText_retag (v : Volume) (as : List ((Place × Text) × Blob)) (p : Path) :
    fileText (v.retag as) p = fileText v p := by
  rw [fileText, fileText, Volume.readFile_retag]

theorem onlyReads_readFields (p : Path) : OnlyReads (readFields p) := by
  refine (OnlyReads.ask fun v as => fileText_retag v as p).bind fun t => ?_
  split
  · exact (OnlyReads.note _ _).bind fun _ => .pure _
  · exact .ofExcept _

theorem onlyReads_namedFile (path : Text) : OnlyReads (namedFile path) := by
  refine (OnlyReads.ask fun v as => by rw [Volume.exists?_retag]).bind fun isThere => ?_
  split
  · exact .pure _
  · exact .throw _

theorem onlyReads_findFile (homes : Homes) : OnlyReads (findFile homes) := by
  refine (OnlyReads.ask fun v as => by rw [firstFile_retag]; rfl).bind fun found => ?_
  cases found <;> exact (OnlyReads.note _ _).bind fun _ => .pure _

theorem onlyReads_chosenFile (homes : Homes) (path : Text) : OnlyReads (chosenFile homes path) := by
  rw [chosenFile]
  split
  · exact onlyReads_findFile homes
  · exact (onlyReads_namedFile path).map some

theorem onlyReads_fieldsOfFile (file : Option Path) : OnlyReads (fieldsOfFile file) := by
  cases file with
  | none => exact .pure _
  | some p => exact onlyReads_readFields p

theorem onlyReads_refuse (isStrict : Bool) (cautions : List Caution) :
    OnlyReads (refuse isStrict cautions) := by
  rw [refuse]
  split
  · exact .throw _
  · exact .pure _

theorem onlyReads_load (homes : Homes) (path : Text) (isStrict : Bool) :
    OnlyReads (load homes path isStrict) := by
  refine (onlyReads_chosenFile homes path).bind fun file =>
    (onlyReads_fieldsOfFile file).bind fun fields =>
    (OnlyReads.ofExcept _).bind fun settings => ?_
  refine OnlyReads.bind (.ask fun v as => by rw [cautions_retag]) fun own => ?_
  exact (onlyReads_refuse _ _).bind fun _ => (OnlyReads.note _ _).bind fun _ => .pure _

end Settings

/-- The settings that hold for a command line are read from files, if they are not given. -/
theorem CommandLine.onlyReads_settingsFor (homes : Homes) (given : Option Settings) (file : Text) :
    OnlyReads (settingsFor homes given file) := by
  cases given with
  | some s => exact .pure s
  | none =>
    exact ((Settings.onlyReads_load homes file false).adapt _).bind fun loaded =>
      (OnlyReads.noteAll _).bind fun _ => .pure _

end FileTags

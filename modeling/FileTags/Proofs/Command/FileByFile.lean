import FileTags.Proofs.Command.Tagging

/-!
# Commands file by file

A command that changes tags goes through its files in order, and each of them is changed as a whole
or not at all. Wherever it ends, what it leaves is what the same command leaves when it is run on
some files from the front, one at a time, without fail; if it ends before the last of its files, the
next one is what it failed on.
-/

set_option autoImplicit false

namespace FileTags

namespace Command

def onPaths (paths : List Text) : Command → Command
  | .show _ => .show paths
  | .add tags _ => .add tags paths
  | .remove names _ => .remove names paths
  | .clear _ => .clear paths
  | .rename find replace _ => .rename find replace paths
  | .search term _ showTags => .search term paths showTags
  | .check term => .check term
  | .bookmark name term => .bookmark name term

def tagList? : Command → Option Text
  | .add tags _ => some tags
  | .remove names _ => some names
  | _ => none

end Command

namespace TagEdit

variable {name path : Text} {e : TagEdit} {v w : Volume} {c : Command} {r : Except Failure TagEdit}
  {paths : List Text}

theorem sameFiles_applyTo (h : e.applyTo name path v = .ok w) : v.SameFiles w := by
  cases e with
  | clear =>
    cases hw : v.deleteBlob name path with
    | error x => simp [applyTo, hw, Except.mapError] at h
    | ok u =>
      obtain rfl : u = w := by simpa [applyTo, hw, Except.mapError] using h
      rcases Volume.puts_of_deleteBlob hw with ⟨p, -, hputs⟩ | rfl
      · exact hputs.files
      · exact .refl _
  | add | remove | rename =>
    obtain ⟨m, n, -, -, hstore⟩ := rewrite_eq_ok_iff.mp h
    obtain ⟨p, -, hputs⟩ := Volume.puts_of_storeTags hstore
    exact hputs.files

/-- The edits of some files go through up to one that fails, and it changes nothing. -/
theorem applyAll_stops (name : Text) (e : TagEdit) (paths : List Text) (v : Volume) :
    ∃ k w, e.applyAll name (paths.take k) v = (.ok (), w) ∧
      ((k = paths.length ∧ e.applyAll name paths v = (.ok (), w)) ∨
        ∃ path x, paths[k]? = some path ∧ e.applyTo name path w = .error x ∧
        e.applyAll name paths v = (.error x, w)) := by
  induction paths generalizing v with
  | nil => exact ⟨0, v, rfl, .inl ⟨rfl, rfl⟩⟩
  | cons path paths ih =>
    cases hpath : e.applyTo name path v with
    | error x => exact ⟨0, v, rfl, .inr ⟨path, x, rfl, hpath, by rw [applyAll, hpath]⟩⟩
    | ok u =>
      obtain ⟨k, w, hdone, hrest⟩ := ih u
      have hcons : ∀ ps, e.applyAll name (path :: ps) v = e.applyAll name ps u :=
        fun ps => by rw [applyAll, hpath]
      refine ⟨k + 1, w, by rw [List.take_succ_cons, hcons, hdone], ?_⟩
      rw [hcons, List.length_cons, List.getElem?_cons_succ]
      exact hrest.imp_left fun hall => ⟨congrArg (· + 1) hall.1, hall.2⟩

theorem applyAll_of_fails (h : ∀ path w, e.applyTo name path v ≠ .ok w) (paths : List Text) :
    (e.applyAll name paths v).2 = v := by
  cases paths with
  | nil => rfl
  | cons path paths =>
    cases hpath : e.applyTo name path v with
    | error x => rw [applyAll, hpath]
    | ok w => exact absurd hpath (h path w)

theorem applyTo_rename_of_badPattern {find : Text} {replace : Option Text} {x : PatternFault}
    (h : Pattern.ofSource find = .error x)
    (path : Text) (w : Volume) : (rename find replace).applyTo name path v ≠ .ok w := by
  intro hw
  obtain ⟨m, n, -, hn, -⟩ := rewrite_eq_ok_iff.mp hw
  simp [after, Command.renamed, h, Except.mapError] at hn

theorem exists_ofCommand (h : c.kind ∈ [.add, .remove, .clear, .rename]) :
    ∃ r, ofCommand? c = some (r, c.paths) := by
  cases c with
  | add | remove | clear | rename => exact ⟨_, rfl⟩
  | _ => simp [Command.kind] at h

theorem ofCommand_onPaths (h : ofCommand? c = some (r, paths)) (others : List Text) :
    ofCommand? (c.onPaths others) = some (r, others) := by
  cases c with
  | add | remove | clear | rename =>
    cases h
    rfl
  | _ => cases h

theorem ofCommand_eq_error {x : Failure} (h : ofCommand? c = some (.error x, paths)) :
    ∃ t y, c.tagList? = some t ∧ TagMap.decode t = .error y ∧ x = .tagList y := by
  have hlist : ∀ {t : Text} {make : TagMap → TagEdit},
    ((TagMap.decode t).mapError Failure.tagList).map make = .error x →
      ∃ y, TagMap.decode t = .error y ∧ x = .tagList y := by
    intro t make ht
    cases hy : TagMap.decode t with
    | ok m => simp [hy, Except.mapError, Except.map] at ht
    | error y => exact ⟨y, rfl, by simpa [hy, Except.mapError, Except.map, eq_comm] using ht⟩
  cases c with
  | add tags paths =>
    obtain ⟨y, hy, rfl⟩ := hlist (Prod.mk.inj (Option.some.inj h)).1
    exact ⟨tags, y, rfl, hy, rfl⟩
  | remove names paths =>
    obtain ⟨y, hy, rfl⟩ := hlist (Prod.mk.inj (Option.some.inj h)).1
    exact ⟨names, y, rfl, hy, rfl⟩
  | _ => cases h

theorem ofCommand_of_badTagList {t : Text} {y : SyntaxError} (ht : c.tagList? = some t)
    (hy : TagMap.decode t = .error y) :
    ofCommand? c = some (.error (.tagList y), c.paths) := by
  cases c with
  | add | remove =>
    cases ht
    rw [ofCommand?, hy]
    rfl
  | _ => cases ht

end TagEdit

namespace CommandLine

/-- How a command ends that is run with the options of a line, and the volume it leaves. -/
def runOn (homes : Homes) (given : Option Settings) (line : CommandLine) (c : Command)
    (v : Volume) : Ending × Volume :=
  let (outcome, s) := (line.run homes given c).runIn (.start v)
  (.ofOutcome outcome, s.volume)

inductive OneByOne (homes : Homes) (given : Option Settings) (line : CommandLine) (c : Command) :
    List Text → Volume → Volume → Prop
  | nil {v : Volume} : OneByOne homes given line c [] v v
  | cons {path : Text} {paths : List Text} {v u w : Volume} :
      line.runOn homes given (c.onPaths [path]) v = (.exit 0, u) →
      OneByOne homes given line c paths u w → OneByOne homes given line c (path :: paths) v w

/-- A command that was run on a volume ended so and left that. It has gone through its first `k`
files. If it failed, then on the next file, as it does on that file alone, or on the tag list that
it was given, before any file. -/
structure GoesThrough (homes : Homes) (given : Option Settings) (line : CommandLine) (c : Command)
    (v : Volume) (ending : Ending) (left : Volume) (k : Nat) : Prop where
  le : k ≤ c.paths.length
  done : OneByOne homes given line c (c.paths.take k) v left
  all : ending = .exit 0 → k = c.paths.length
  lt : ending ≠ .exit 0 → c.paths ≠ [] → k < c.paths.length
  failure : ending ≠ .exit 0 →
    ∃ x, ((runCommand homes given line c).runIn (.start v)).1 = .error x ∧
    ending = (if x.isForeseen then .exit 1 else .failed x) ∧
    ((∃ path, c.paths[k]? = some path ∧
      line.runOn homes given (c.onPaths [path]) left = (ending, left) ∧
        ((runCommand homes given line (c.onPaths [path])).runIn (.start left)).1 = .error x) ∨
      (k = 0 ∧ ∃ t y, c.tagList? = some t ∧ TagMap.decode t = .error y ∧ x = .tagList y))

variable {homes : Homes} {given : Option Settings} {line : CommandLine} {c : Command}
  {r : Except Failure TagEdit} {e : TagEdit}
  {paths words : List Text} {path : Text} {s : Settings} {v w : Volume}

/-- With the settings known, a command that changes tags does its edit with them. -/
theorem runCommand_edit (h : TagEdit.ofCommand? c = some (r, paths))
    (hs : settingsOn homes given line v = .ok s) :
    ((runCommand homes given line c).runIn (.start v)).1 =
    (Command.editAll s.tagAttribute paths v r).1 ∧
      ((runCommand homes given line c).runIn (.start v)).2.volume =
        (Command.editAll s.tagAttribute paths v r).2 := by
  have hedit : editOn homes given line r paths v = Command.editAll s.tagAttribute paths v r := by
    rw [editOn, hs]
  rw [← hedit]
  exact does_runCommand homes given line h v

theorem runOn_edit (h : TagEdit.ofCommand? c = some (r, paths))
    (hs : settingsOn homes given line v = .ok s) :
    line.runOn homes given c v =
      (.ofResult (Command.editAll s.tagAttribute paths v r).1,
        (Command.editAll s.tagAttribute paths v r).2) := by
  obtain ⟨hresult, hvolume⟩ := runCommand_edit h hs
  obtain ⟨hexit, hending⟩ := exitCode_run ((runCommand homes given line c).runIn (.start v)).1
    ((runCommand homes given line c).runIn (.start v)).2
  rw [← run_lift] at hexit hending
  exact Prod.ext (hending.trans (congrArg _ hresult)) (hexit.trans hvolume)

theorem runWords_eq_runOn (hread : ofWords words = .ok line) (hc : line.command = some c) :
    ((runWords homes given words v).1, (runWords homes given words v).2.volume) =
    line.runOn homes given c v := by
  simp only [runWords, hread, hc, runOn]

theorem runOn_alone (h : TagEdit.ofCommand? c = some (.ok e, paths))
    (hs : settingsOn homes given line v = .ok s) (hpath : e.applyTo s.tagAttribute path v = .ok w) :
    line.runOn homes given (c.onPaths [path]) v = (.exit 0, w) := by
  rw [runOn_edit (TagEdit.ofCommand_onPaths h [path]) hs, Command.editAll, TagEdit.applyAll, hpath]
  rfl

theorem fails_alone {x : Failure} (h : TagEdit.ofCommand? c = some (.ok e, paths))
    (hs : settingsOn homes given line v = .ok s)
    (hpath : e.applyTo s.tagAttribute path v = .error x) :
    line.runOn homes given (c.onPaths [path]) v = (.ofResult (.error x), v) ∧
      ((runCommand homes given line (c.onPaths [path])).runIn (.start v)).1 = .error x := by
  have halone := TagEdit.ofCommand_onPaths h [path]
  rw [runOn_edit halone hs, (runCommand_edit halone hs).1, Command.editAll, TagEdit.applyAll, hpath]
  exact ⟨rfl, rfl⟩

theorem oneByOne_of_applyAll (h : TagEdit.ofCommand? c = some (.ok e, paths))
    (hs : settingsOn homes given line v = .ok s)
    {done : List Text} (hdone : e.applyAll s.tagAttribute done v = (.ok (), w)) :
    OneByOne homes given line c done v w ∧ v.SameFiles w := by
  induction done generalizing v with
  | nil =>
    obtain rfl : v = w := congrArg Prod.snd hdone
    exact ⟨.nil, .refl v⟩
  | cons path done ih =>
    rw [TagEdit.applyAll] at hdone
    cases hpath : e.applyTo s.tagAttribute path v with
    | error x => simp [hpath] at hdone
    | ok u =>
      rw [hpath] at hdone
      have hfiles := TagEdit.sameFiles_applyTo hpath
      obtain ⟨hrest, hfiles'⟩ := ih ((settingsOn_sameFiles hfiles homes given line).trans hs) hdone
      exact ⟨.cons (runOn_alone h hs hpath) hrest, hfiles.trans hfiles'⟩

theorem ofResult_ne_exit_zero (x : Failure) : Ending.ofResult (.error x) ≠ .exit 0 := by
  simp [Ending.ofResult_eq_exit_zero_iff]

/-- A tag list that cannot be read ends a command before its first file. -/
theorem goesThrough_of_error {x : Failure} (h : TagEdit.ofCommand? c = some (.error x, c.paths))
    (hs : settingsOn homes given line v = .ok s) :
    GoesThrough homes given line c v (.ofResult (.error x)) v 0 where
  le := Nat.zero_le _
  done := .nil
  all hexit := absurd hexit (ofResult_ne_exit_zero x)
  lt _ := List.length_pos_iff.mpr
  failure _ := by
    obtain ⟨t, y, ht, hy, hx⟩ := TagEdit.ofCommand_eq_error h
    exact ⟨x, (runCommand_edit h hs).1, rfl, .inr ⟨rfl, t, y, ht, hy, hx⟩⟩

theorem exists_goesThrough (h : TagEdit.ofCommand? c = some (.ok e, c.paths))
    (hs : settingsOn homes given line v = .ok s) :
    ∃ k, GoesThrough homes given line c v (.ofResult (e.applyAll s.tagAttribute c.paths v).1)
      (e.applyAll s.tagAttribute c.paths v).2 k := by
  obtain ⟨k, w, hdone, hrest⟩ := TagEdit.applyAll_stops s.tagAttribute e c.paths v
  obtain ⟨hsteps, hfiles⟩ : OneByOne homes given line c (c.paths.take k) v w ∧ v.SameFiles w :=
    oneByOne_of_applyAll h hs hdone
  refine ⟨k, ?_⟩
  rcases hrest with ⟨hk, hall⟩ | ⟨path, x, hpath, hfail, hall⟩
  · rw [hall]
    exact ⟨hk.le, hsteps, fun _ => hk, fun hexit => absurd rfl hexit, fun hexit => absurd rfl hexit⟩
  · have hlt : k < c.paths.length := (List.getElem?_eq_some_iff.mp hpath).1
    have hresult := (runCommand_edit h hs).1
    rw [Command.editAll, hall] at hresult
    rw [hall]
    obtain ⟨halone, hcause⟩ :=
      fails_alone h ((settingsOn_sameFiles hfiles homes given line).trans hs) hfail
    exact ⟨hlt.le, hsteps, fun hexit => absurd hexit (ofResult_ne_exit_zero x), fun _ _ => hlt,
      fun _ => ⟨x, hresult, rfl, .inl ⟨path, hpath, halone, hcause⟩⟩⟩

/-- A command that changes tags leaves what it leaves when it is run, without fail, on some of its
files from the front, one at a time. It exits with zero only if those are all. Otherwise it fails,
with one where the failure is foreseen: either on the next file, as it does when it is run on that
file alone from there, and that changes nothing; or on the tag list it was given, before the first
file. So nothing at all is changed where that list, or the pattern of a renaming, cannot be read.
There are files, unless the words have a second separator. -/
theorem runWords_one_by_one (hread : ofWords words = .ok line) (hc : line.command = some c)
    (hkind : c.kind ∈ [.add, .remove, .clear, .rename])
    (hs : settingsOn homes given line v = .ok s) :
    let ending := (runWords homes given words v).1
    let left := (runWords homes given words v).2.volume
    (∃ k, GoesThrough homes given line c v ending left k) ∧
    (words.count [.char '-', .char '-'] ≤ 1 → c.paths ≠ []) ∧
    (∀ t y, c.tagList? = some t → TagMap.decode t = .error y → ending = .exit 1 ∧ left = v) ∧
    (∀ find replace paths y, c = .rename find replace paths → Pattern.ofSource find = .error y →
      left = v) := by
  obtain ⟨r, hedit⟩ := TagEdit.exists_ofCommand hkind
  obtain ⟨hending, hleft⟩ := Prod.mk.inj ((runWords_eq_runOn hread hc).trans (runOn_edit hedit hs))
  simp only [hending, hleft]
  have hfiles : c.kind ∉ [.check, .bookmark] := by
    intro hmem
    rcases List.mem_pair.mp hmem with h | h <;> simp [h] at hkind
  refine ⟨?_, paths_ne_nil hread hc hfiles, fun t y ht hy => ?_,
    fun find replace paths y hrename hy => ?_⟩
  · cases r with
    | error x => exact ⟨0, goesThrough_of_error hedit hs⟩
    | ok e => exact exists_goesThrough hedit hs
  · obtain ⟨rfl, -⟩ :=
      Prod.mk.inj (Option.some.inj (hedit.symm.trans (TagEdit.ofCommand_of_badTagList ht hy)))
    exact ⟨rfl, rfl⟩
  · subst hrename
    obtain ⟨rfl, -⟩ := Prod.mk.inj (Option.some.inj (hedit.symm.trans rfl))
    exact TagEdit.applyAll_of_fails (TagEdit.applyTo_rename_of_badPattern hy) _

/-- The third of four files has an attribute that is no text. By then the first has been tagged,
once as itself and once through a link. -/
theorem runWords_one_by_one_unreadable :
    let homes : Homes := ⟨Text.ofString "/home", []⟩
    let name := Settings.defaultAttribute
    let settings : Settings := ⟨name, [], 1, true, false, []⟩
    let f := Utf8.ofString "f"
    let g := Utf8.ofString "g"
    let v : Volume := ⟨[([f], .file []), ([g], .file []), ([Utf8.ofString "l"], .link f)],
      [(([f], name), Utf8.ofString "a"), (([g], name), [255])], [], true, []⟩
    let c : Command := .add (Text.ofString "b=1") [['f'], ['l'], ['g'], ['f']]
    let line : CommandLine := ⟨[], false, some c⟩
    let words := [Text.ofString "add", Text.ofString "b=1", ['f'], ['l'], ['g'], ['f']]
    let run := runWords homes (some settings) words v
    run.1 = .exit 1 ∧
      run.2.volume.attributes = [(([f], name), Utf8.ofString "a,b=1"), (([g], name), [255])] ∧
      ∃ k < 4, OneByOne homes (some settings) line c (c.paths.take k) v run.2.volume ∧
        ∃ path, c.paths[k]? = some path ∧
          line.runOn homes (some settings) (c.onPaths [path]) run.2.volume =
          (.exit 1, run.2.volume) := by
  intro homes name settings f g v c line words run
  have hread : ofWords words = .ok line := by rfl
  have hsettings : settingsOn homes (some settings) line v = .ok settings := by rfl
  obtain ⟨⟨k, hthrough⟩, hfiles, -⟩ := runWords_one_by_one hread rfl (by decide) hsettings
  have hending : run.1 = .exit 1 := by rfl
  have hfailed : run.1 ≠ .exit 0 := by rw [hending]; decide
  obtain ⟨x, -, -, ⟨path, hpath, halone, -⟩ | ⟨-, t, y, ht, hy, -⟩⟩ := hthrough.failure hfailed
  · exact ⟨hending, rfl, k, hthrough.lt hfailed (hfiles (by decide)), hthrough.done, path, hpath,
      halone.trans (by rw [hending])⟩
  · obtain rfl := Option.some.inj ht
    cases hy

end CommandLine

end FileTags

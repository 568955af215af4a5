import FileTags.Proofs.Filter.Evaluation
import FileTags.Proofs.Walk.Selection
import Mathlib.Logic.Relation

/-!
# Walks with a pool of workers

Files are tested by a pool of workers. The roots are listed one by one, and every listed file is
handed out to the pool; workers take the files in this order, a limited number at a time, and finish
in any order. The outcomes are taken in the order of the files, once all of them are handed out, and
only then counted; what the listing has seen is counted while it goes on. No step changes what the
walk ends with, every step brings the end nearer, and before the end there is always a step to take.
-/

set_option autoImplicit false

namespace FileTags

namespace WalkStats

theorem add_assoc (a b c : WalkStats) : a + b + c = a + (b + c) := by
  change add (add a b) c = add a (add b c)
  simp only [add, Nat.add_assoc]

end WalkStats

namespace Walk

open Relation (ReflTransGen)

inductive Task
  | waiting (p : Path)
  | running (p : Path)
  | done (o : Outcome)

namespace Task

def IsWaiting : Task → Prop
  | .waiting _ => True
  | _ => False

def isRunning : Task → Bool
  | .running _ => true
  | _ => false

def outcome (s : Settings) (v : Volume) (filter : Option Filter) : Task → Outcome
  | .waiting p | .running p => test s v filter p
  | .done o => o

def weight : Task → Nat
  | .waiting _ => 3
  | .running _ => 2
  | .done _ => 1

end Task

structure Pool where
  /-- The roots that are not yet listed. -/
  roots : List Text
  /-- Listed files that are not yet handed out. -/
  listed : List Path
  /-- Files handed out whose outcomes are not yet taken, in their order. -/
  tasks : List Task
  files : List TaggedFile
  stats : WalkStats
  fault : Option WalkFault

namespace Pool

def start (roots : List Text) (before : WalkStats) : Pool := ⟨roots, [], [], [], before, none⟩

def Finished (q : Pool) : Prop := (q.roots = [] ∧ q.listed = [] ∧ q.tasks = []) ∨ q.fault ≠ none

section steps

variable (s : Settings) (v : Volume) (filter : Option Filter)

inductive Step : Pool → Pool → Prop
  | list {root : Text} {roots : List Text} {tasks : List Task} {files : List TaggedFile}
      {stats : WalkStats} {l : Listing}
      (h : listRoot s v root = .ok l) :
      Step ⟨root :: roots, [], tasks, files, stats, none⟩ ⟨roots, l.files, tasks, files,
        stats + l.stats, none⟩
  | giveUp {root : Text} {roots : List Text} {tasks : List Task} {files : List TaggedFile}
      {stats : WalkStats} {e : VolumeFault}
      (h : listRoot s v root = .error e) :
      Step ⟨root :: roots, [], tasks, files, stats, none⟩ ⟨root :: roots, [], tasks, files, stats,
        some (.badLookup e)⟩
  | handOut {roots : List Text} {p : Path} {listed : List Path} {tasks : List Task}
      {files : List TaggedFile} {stats : WalkStats} :
      Step ⟨roots, p :: listed, tasks, files, stats, none⟩ ⟨roots, listed, tasks ++ [.waiting p],
        files, stats, none⟩
  /-- A worker that is free takes the first file that waits. -/
  | begin {roots : List Text} {p : Path} {listed : List Path} {front back : List Task}
      {files : List TaggedFile} {stats : WalkStats}
      {fault : Option WalkFault} (hfirst : ∀ t ∈ front, ¬ t.IsWaiting)
      (hfree : (front ++ .waiting p :: back).countP Task.isRunning < s.workers) :
      Step ⟨roots, listed, front ++ .waiting p :: back, files, stats, fault⟩
        ⟨roots, listed, front ++ .running p :: back, files, stats, fault⟩
  /-- Any worker may finish. -/
  | finish {roots : List Text} {p : Path} {listed : List Path} {front back : List Task}
      {files : List TaggedFile} {stats : WalkStats}
      {fault : Option WalkFault} :
      Step ⟨roots, listed, front ++ .running p :: back, files, stats, fault⟩
        ⟨roots, listed, front ++ .done (test s v filter p) :: back, files, stats, fault⟩
  | take {o : Outcome} {tasks : List Task} {files : List TaggedFile} {stats : WalkStats} :
      Step ⟨[], [], .done o :: tasks, files, stats, none⟩ ⟨[], [], tasks, files ++ o.file?.toList,
        stats + o.stats, o.fault?⟩

/-- What the walk ends with: the files found, the counts, and the fault that ends it early. -/
def ends (q : Pool) : List TaggedFile × WalkStats × Option WalkFault :=
  match q.fault, listRoots s v q.roots with
  | some e, _ => (q.files, q.stats, some e)
  | none, (listing, some e) => (q.files, q.stats + listing.stats, some (.badLookup e))
  | none, (listing, none) =>
    let rest :=
      collect (q.tasks.map (Task.outcome s v filter) ++
        (q.listed ++ listing.files).map (test s v filter))
    (q.files ++ rest.1, q.stats + listing.stats + rest.2.1, rest.2.2)

variable {s v filter} {q q' : Pool}

theorem Step.ends_eq (h : Step s v filter q q') : q'.ends s v filter = q.ends s v filter := by
  cases h with
  | @list root roots tasks files stats l h =>
    simp only [ends, listRoots, h]
    cases hrest : listRoots s v roots with
    | mk listing fault =>
      cases fault with
      | some e => simp only [Listing.stats_append, WalkStats.add_assoc]
      | none =>
        simp only [Listing.stats_append, WalkStats.add_assoc, List.nil_append, Listing.append_files]
  | giveUp h => simp only [ends, listRoots, h]; rfl
  | handOut => simp [ends, Task.outcome]
  | begin => simp [ends, Task.outcome]
  | finish => simp [ends, Task.outcome]
  | @take o tasks files stats =>
    cases ho : o.fault? with
    | some e =>
      have hfile : o.file? = none ∧ o.stats = .zero := by
        cases o <;> first | exact ⟨rfl, rfl⟩ | cases ho
      simp only [ends, listRoots, List.map_cons, List.cons_append, Task.outcome,
        collect_cons_of_fault ho, hfile]
      rfl
    | none =>
      simp only [ends, listRoots, List.map_cons, List.cons_append, Task.outcome, collect_cons ho,
        List.append_assoc]
      rw [← WalkStats.add_assoc (stats + _)]
      rfl

theorem ends_eq_of_reaches (h : ReflTransGen (Step s v filter) q q') :
    q'.ends s v filter = q.ends s v filter := by
  induction h with
  | refl => rfl
  | tail _ hstep ih => exact hstep.ends_eq.trans ih

theorem ends_start (roots : List Text) (before : WalkStats) : (start roots before).ends s v filter =
    ((run s v filter roots).files, before + (run s v filter roots).stats,
      (run s v filter roots).fault) := by
  cases h : listRoots s v roots with
  | mk listing fault =>
    cases fault with
    | some e =>
      obtain ⟨hfiles, hstats, hfault⟩ := @run_of_unlisted s v filter roots e (by rw [h])
      rw [hfiles, hstats, hfault]
      simp only [ends, start, h]
    | none =>
      obtain ⟨hfiles, hstats, hfault⟩ := @run_of_listed s v filter roots (by rw [h])
      rw [hfiles, hstats, hfault, ← WalkStats.add_assoc]
      simp only [ends, start, h, List.map_nil, List.nil_append]

theorem ends_of_finished (h : q.Finished) : q.ends s v filter = (q.files, q.stats, q.fault) := by
  obtain ⟨roots, listed, tasks, files, stats, fault⟩ := q
  cases fault with
  | some e => rfl
  | none =>
    obtain ⟨rfl, rfl, rfl⟩ := h.resolve_right (not_not_intro rfl)
    simp only [ends, listRoots, List.map_nil, List.nil_append]
    change (files ++ [], stats + .zero + .zero, none) = _
    rw [List.append_nil]
    rfl

/-! ## Coming to the end -/

variable (s v) in
/-- How many steps it takes at most to hand out the files below the roots, test them and take their
outcomes. -/
def rootWork : List Text → Nat
  | [] => 0
  | root :: roots =>
    (match listRoot s v root with
      | .ok l => 4 * l.files.length
      | .error _ => 0) + 1 + rootWork roots

def tasksWork : List Task → Nat
  | [] => 0
  | t :: tasks => t.weight + tasksWork tasks

theorem tasksWork_append (tasks tasks' : List Task) :
    tasksWork (tasks ++ tasks') = tasksWork tasks + tasksWork tasks' := by
  induction tasks with
  | nil => simp [tasksWork]
  | cons t tasks ih => simp only [List.cons_append, tasksWork, ih, Nat.add_assoc]

variable (s v) in
def work (q : Pool) : Nat :=
  rootWork s v q.roots + 4 * q.listed.length + tasksWork q.tasks + if q.fault = none then 1 else 0

theorem Step.work_lt (h : Step s v filter q q') : q'.work s v < q.work s v := by
  cases h with
  | @list root roots tasks files stats l h =>
    have hroot : rootWork s v (root :: roots) = 4 * l.files.length + 1 + rootWork s v roots := by
      rw [rootWork, h]
    simp only [work, hroot, List.length_nil]
    omega
  | giveUp h => simp [work]
  | handOut =>
    simp only [work, List.length_cons, tasksWork_append, tasksWork, Task.weight]
    omega
  | begin => simp [work, tasksWork_append, tasksWork, Task.weight]
  | finish => simp [work, tasksWork_append, tasksWork, Task.weight]
  | @take o tasks files stats =>
    simp only [work, tasksWork, Task.weight, if_true]
    split <;> omega

/-- As long as the walk is not finished there is a step to take. -/
theorem exists_step (hw : 0 < s.workers) (h : ¬ q.Finished) : ∃ q', Step s v filter q q' := by
  obtain ⟨roots, listed, tasks, files, stats, fault⟩ := q
  simp only [Finished, not_or, not_not] at h
  obtain ⟨hopen, rfl⟩ := h
  cases listed with
  | cons p listed => exact ⟨_, .handOut⟩
  | nil =>
    cases roots with
    | cons root roots =>
      cases hl : listRoot s v root with
      | ok l => exact ⟨_, .list hl⟩
      | error e => exact ⟨_, .giveUp hl⟩
    | nil =>
      cases tasks with
      | nil => exact absurd ⟨rfl, rfl, rfl⟩ hopen
      | cons t tasks =>
        cases t with
        | done o => exact ⟨_, .take⟩
        | running p =>
          have hfinish : Step s v filter ⟨[], [], [] ++ .running p :: tasks, files, stats,
              none⟩ _ := .finish
          exact ⟨_, hfinish⟩
        | waiting p =>
          -- Either some worker is busy and can finish, or all of them are free.
          by_cases hbusy : ∃ t ∈ tasks, t.isRunning = true
          · obtain ⟨t, ht, hrunning⟩ := hbusy
            obtain ⟨front, back, rfl⟩ := List.append_of_mem ht
            cases t with
            | waiting | done => cases hrunning
            | running p' =>
              have hfinish : Step s v filter ⟨[], [], (.waiting p :: front) ++ .running p' :: back,
                  files, stats, none⟩ _ := .finish
              exact ⟨_, hfinish⟩
          · have hidle : tasks.countP Task.isRunning = 0 :=
              List.countP_eq_zero.mpr fun t ht h => hbusy ⟨t, ht, h⟩
            have hbegin : Step s v filter ⟨[], [], [] ++ .waiting p :: tasks, files, stats,
                none⟩ _ :=
              .begin nofun (by simpa [Task.isRunning, hidle] using hw)
            exact ⟨_, hbegin⟩

/-- Wherever a walk has come to, it can be finished; and it is so after finitely many steps,
whichever they are. -/
theorem exists_finished (hw : 0 < s.workers) (q : Pool) :
    ∃ q', ReflTransGen (Step s v filter) q q' ∧ q'.Finished := by
  induction hk : q.work s v using Nat.strongRecOn generalizing q with
  | ind k ih =>
  subst hk
  by_cases h : q.Finished
  · exact ⟨q, .refl, h⟩
  · obtain ⟨next, hstep⟩ : ∃ q', Step s v filter q q' := exists_step hw h
    obtain ⟨q', hreach, hfinished⟩ := ih _ hstep.work_lt next rfl
    exact ⟨q', .head hstep hreach, hfinished⟩

end steps

end Pool

variable {s : Settings} {v : Volume} {filter : Option Filter} {roots : List Text}

/-- A walk over roots that are not too long, over paths that are not blank and with a filter that
can be evaluated for all tags that are read, is ended early by exactly the files that it would find
and whose path has a half in it. If there is none, the walk finds the files whose tags are read and
satisfy the filter, in the order of the listing. Every listed file is counted once, as found, unread
or rejected, and every missing root once. All of this comes out the same in whatever order the
workers finish, on top of what has been counted before; and they can always finish. -/
theorem run_eq_selection (hv : v.IsNamed)
    (hroots : ∀ root ∈ roots, ¬ v.IsTooLong (Path.ofText root).text)
    (hpaths : ∀ p ∈ (listRoots s v roots).1.files, Text.strip p.text ≠ [])
    (heval : ∀ p ∈ (listRoots s v roots).1.files, ∀ m, v.tags s.tagAttribute p.text = .ok m →
      ∀ f ∈ filter, ∃ b, f.evaluate m = .ok b) :
    let paths := (listRoots s v roots).1.files
    let found := run s v filter roots
    (found.fault = none ↔ ∀ p ∈ paths, selected s v filter p ≠ none → Text.isWhole p.text = true) ∧
    (found.fault = none →
      found.files = paths.filterMap (selected s v filter) ∧
      found.stats.scanned = paths.length ∧ found.stats.matched = found.files.length ∧
      found.stats.errors =
        roots.countP (fun root => IsMissing v root) + paths.countP (fun p => IsUnread s v p) ∧
      found.stats.scanned = found.stats.matched + paths.countP (fun p => IsUnread s v p) +
        paths.countP fun p => IsRejected s v filter p) ∧
    ∀ before q, ReflTransGen (Pool.Step s v filter) (Pool.start roots before) q →
      (q.Finished → q.files = found.files ∧ q.stats = before + found.stats ∧
        q.fault = found.fault) ∧
      (0 < s.workers → ∃ q', ReflTransGen (Pool.Step s v filter) q q' ∧ q'.Finished) := by
  have hstops : ∀ p ∈ (listRoots s v roots).1.files,
      (Stops s v filter p ↔ selected s v filter p ≠ none ∧ Text.isWhole p.text = false) :=
    fun p hp => stops_iff_of_evaluates (heval p hp) (hpaths p hp)
  have hfit : ∀ p ∈ (listRoots s v roots).1.files, Text.unfit? p.text = none :=
    fun p hp => unfit?_listRoots hv hp
  have hfault : (run s v filter roots).fault = none ↔
      ∀ p ∈ (listRoots s v roots).1.files, ¬ Stops s v filter p :=
    (fault_run_eq_none_iff hv).trans (and_iff_right hroots)
  refine ⟨hfault.trans (forall₂_congr fun p hp => ?_), fun hnone => ?_,
    fun before q hq => ⟨fun hfinished => ?_, fun hw => ?_⟩⟩
  · rw [hstops p hp, not_and, Bool.not_eq_false]
  · have hgo := hfault.mp hnone
    obtain ⟨hfiles, hstats⟩ := @run_untilStop s v filter roots hv hroots
    rw [untilStop_eq_self hgo] at hfiles hstats
    have hscanned : (run s v filter roots).stats.scanned =
        (listRoots s v roots).1.files.length := by
      rw [hstats]
      exact Nat.zero_add _
    have hmatched : (run s v filter roots).stats.matched = (run s v filter roots).files.length := by
      rw [hstats, hfiles]
      exact Nat.zero_add _
    have herrors : (run s v filter roots).stats.errors =
        roots.countP (fun root => IsMissing v root) + (listRoots s v roots).1.files.countP fun p =>
          IsUnread s v p := by
      rw [hstats, ← missing_listRoots (listRoots_fault_eq_none_iff.mpr hroots)]
      rfl
    refine ⟨hfiles, hscanned, hmatched, herrors, ?_⟩
    rw [hscanned, hmatched, hfiles]
    exact length_eq_counts hfit hgo
  · have hends := Pool.ends_eq_of_reaches hq
    rw [Pool.ends_start, Pool.ends_of_finished hfinished] at hends
    simpa only [Prod.mk.injEq] using hends
  · exact Pool.exists_finished hw q

theorem run_eq_selection_unread : ∃ tag : Pattern, Pattern.ofSource [.char 'a'] = .ok tag ∧
    let s : Settings := ⟨[.char 't'], [], 2, true, false, []⟩
    let f := [Utf8.ofString "f"]
    let g := [Utf8.ofString "g"]
    let v : Volume := ⟨[(f, .file []), (g, .file []), ([[233]], .file [])],
      [((f, [.char 't']), Utf8.ofString "a=1"), ((g, [.char 't']), [255]),
        (([[233]], [.char 't']), Utf8.ofString "b")],
      [], true, []⟩
    let roots : List Text := [[.char 'f'], [.char 'g'], [.ofByte 233], [.char 'i']]
    let filter : Option Filter := some (.leaf (.tagExists tag))
    let paths := (listRoots s v roots).1.files
    let found := run s v filter roots
    (found.fault = none ↔ ∀ p ∈ paths, selected s v filter p ≠ none → Text.isWhole p.text = true) ∧
    (found.fault = none →
      found.files = paths.filterMap (selected s v filter) ∧
      found.stats.scanned = paths.length ∧ found.stats.matched = found.files.length ∧
      found.stats.errors =
        roots.countP (fun root => IsMissing v root) + paths.countP (fun p => IsUnread s v p) ∧
      found.stats.scanned = found.stats.matched + paths.countP (fun p => IsUnread s v p) +
        paths.countP fun p => IsRejected s v filter p) ∧
    ∀ before q, ReflTransGen (Pool.Step s v filter) (Pool.start roots before) q →
      (q.Finished → q.files = found.files ∧ q.stats = before + found.stats ∧
        q.fault = found.fault) ∧
      (0 < s.workers → ∃ q', ReflTransGen (Pool.Step s v filter) q q' ∧ q'.Finished) := by
  have hok : (Pattern.ofSource [.char 'a']).isOk = true := by decide +kernel
  cases htag : Pattern.ofSource [.char 'a'] with
  | error e => rw [htag] at hok; cases hok
  | ok tag =>
    refine ⟨tag, rfl,
      run_eq_selection (by decide) (by decide +kernel) (by decide +kernel) fun p hp m hm f hf => ?_⟩
    obtain rfl := Option.some.inj hf
    exact ⟨_, Formula.evaluate_leaf _⟩

def halfVolume : Volume where
  nodes := [([[233]], .file [])]
  attributes := []
  faults := []
  hasAttributes := true
  work := []

/-- A file whose name shows as a half ends a walk that would find it. -/
theorem run_ends_at_half :
    ¬ ∀ (s : Settings) (v : Volume) (filter : Option Filter) (roots : List Text), v.IsNamed →
      (∀ root ∈ roots, ¬ v.IsTooLong (Path.ofText root).text) →
      (∀ p ∈ (listRoots s v roots).1.files, Text.strip p.text ≠ []) →
      (∀ p ∈ (listRoots s v roots).1.files, ∀ m, v.tags s.tagAttribute p.text = .ok m →
        ∀ f ∈ filter, ∃ b, f.evaluate m = .ok b) →
      (run s v filter roots).fault = none ∧
        (run s v filter roots).files =
          (listRoots s v roots).1.files.filterMap (selected s v filter) := by
  intro h
  have hnone := (h ⟨[.char 't'], [], 1, true, false, []⟩ halfVolume none [[.ofByte 233]]
    (by decide) (by decide +kernel) (by decide +kernel) (by simp)).1
  have hfault : (run ⟨[.char 't'], [], 1, true, false, []⟩ halfVolume none [[.ofByte 233]]).fault =
      some (.badPath .badText) := by decide +kernel
  cases hnone.symm.trans hfault

end Walk

end FileTags

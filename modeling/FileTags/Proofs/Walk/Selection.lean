import FileTags.Proofs.Walk.Listing

/-!
# What a walk finds

A listed file is found, rejected or unread, or it stops the walk, when the filter cannot be
evaluated for its tags or no tagged file can have its path. What is found and counted is what stands
in front of the first file that stops the walk.
-/

set_option autoImplicit false

namespace FileTags

namespace TaggedFile

/-- A tagged file can have the path: this is without halves, and shows some sign. -/
def IsPath (path : Text) : Prop := Text.isWhole path = true ∧ Text.strip path ≠ []

instance (path : Text) : Decidable (IsPath path) := inferInstanceAs (Decidable (_ ∧ _))

theorem ofPath_eq_ok_iff {work : Path} {path : Text} {m : TagMap} {file : TaggedFile} :
    ofPath work path m = .ok file ↔ IsPath path ∧
    file = ⟨((Path.ofText path).absolute work).text, m⟩ := by
  rw [ofPath, checkPath, IsPath]
  cases hwhole : Text.isWhole path with
  | false => exact iff_of_false nofun nofun
  | true =>
    by_cases hempty : path = []
    · subst hempty
      exact iff_of_false nofun fun h => h.1.2 rfl
    · by_cases hblank : Text.strip path = []
      · rw [if_neg (by simp), if_neg (by simpa using hempty), if_pos (by simp [hblank])]
        exact iff_of_false nofun fun h => h.1.2 hblank
      · rw [if_neg (by simp), if_neg (by simpa using hempty), if_neg (by simpa using hblank)]
        exact ⟨fun h => ⟨⟨rfl, hblank⟩, (Except.ok.inj h).symm⟩,
          fun h => congrArg Except.ok h.2.symm⟩

end TaggedFile

namespace Walk

/-! ## Outcomes -/

namespace Outcome

def file? : Outcome → Option TaggedFile
  | .found file => some file
  | _ => none

def fault? : Outcome → Option WalkFault
  | .stopped e => some e
  | _ => none

def stats : Outcome → WalkStats
  | .found _ => ⟨1, 1, 0, 0, 0⟩
  | .rejected => ⟨1, 0, 0, 0, 0⟩
  | .unread _ => ⟨1, 0, 0, 0, 1⟩
  | .stopped _ => .zero

end Outcome

theorem collect_cons_of_fault {o : Outcome} {e : WalkFault} (h : o.fault? = some e)
    (os : List Outcome) :
    collect (o :: os) = ([], .zero, some e) := by
  cases o <;> simp only [Outcome.fault?, reduceCtorEq, Option.some.injEq] at h
  rw [collect, h]

theorem collect_cons {o : Outcome} (h : o.fault? = none) (os : List Outcome) :
    collect (o :: os) = (o.file?.toList ++ (collect os).1, o.stats + (collect os).2.1,
      (collect os).2.2) := by
  cases o <;> first | rfl | cases h

/-! ## Files -/

section files

variable (s : Settings) (v : Volume) (filter : Option Filter)

def IsUnread (p : Path) : Prop := ∃ e, v.tags s.tagAttribute p.text = .error e ∧ e.isForeseen = true

def IsRejected (p : Path) : Prop :=
  ∃ m, v.tags s.tagAttribute p.text = .ok m ∧ ∃ f ∈ filter, f.evaluate m = .ok false

/-- The tags are read, and the filter can not be evaluated for them, or it holds but the path has a
half or is blank. -/
def Stops (p : Path) : Prop := ∃ m, v.tags s.tagAttribute p.text = .ok m ∧
  ((∃ f ∈ filter, ∃ e, f.evaluate m = .error e) ∨
    ((∀ f ∈ filter, f.evaluate m = .ok true) ∧ ¬ TaggedFile.IsPath p.text))

def selected (p : Path) : Option TaggedFile :=
  match v.tags s.tagAttribute p.text with
  | .error _ => none
  | .ok m =>
    if ∀ f ∈ filter, f.evaluate m = .ok true then
      some ⟨((Path.ofText p.text).absolute v.workPath).text, m⟩
    else none

/-- What becomes of a file: the filter holds for its tags, or not, or the tags are not read, or the
walk ends. -/
inductive Fate (p : Path) : Outcome → Prop
  | found {file : TaggedFile} (hs : ¬ Stops s v filter p) (h : selected s v filter p = some file)
      (hu : ¬ IsUnread s v p)
      (hr : ¬ IsRejected s v filter p) : Fate p (.found file)
  | rejected (hs : ¬ Stops s v filter p) (h : selected s v filter p = none) (hu : ¬ IsUnread s v p)
      (hr : IsRejected s v filter p) : Fate p .rejected
  | unread {e : TagFault} (hs : ¬ Stops s v filter p) (h : selected s v filter p = none)
      (hu : IsUnread s v p)
      (hr : ¬ IsRejected s v filter p) : Fate p (.unread e)
  | stopped {e : WalkFault} (hs : Stops s v filter p) : Fate p (.stopped e)

variable {s v filter} {p : Path}

theorem fate_of_error {e : TagFault} (h : v.tags s.tagAttribute p.text = .error e)
    (he : e.isForeseen = true) :
    Fate s v filter p (.unread e) := by
  refine .unread ?_ ?_ ⟨e, h, he⟩ ?_
  · rintro ⟨m, hm, -⟩
    cases h.symm.trans hm
  · rw [selected, h]
  · rintro ⟨m, hm, -⟩
    cases h.symm.trans hm

def verdict (filter : Option Filter) (m : TagMap) : Except Text.TooManyDigits Bool :=
  (filter.map fun f => f.evaluate m).getD (.ok true)

theorem verdict_eq_true_iff {m : TagMap} :
    verdict filter m = .ok true ↔ ∀ f ∈ filter, f.evaluate m = .ok true := by
  cases filter <;> simp [verdict]

theorem verdict_eq_false_iff {m : TagMap} :
    verdict filter m = .ok false ↔ ∃ f ∈ filter, f.evaluate m = .ok false := by
  cases filter <;> simp [verdict]

theorem verdict_eq_error_iff {m : TagMap} :
    (∃ e, verdict filter m = .error e) ↔ ∃ f ∈ filter, ∃ e, f.evaluate m = .error e := by
  cases filter <;> simp [verdict]

theorem fate_of_ok {m : TagMap} (h : v.tags s.tagAttribute p.text = .ok m) :
    Fate s v filter p (test s v filter p) := by
  have hread : ¬ IsUnread s v p := fun ⟨e, he, _⟩ => nomatch h.symm.trans he
  have hstops : Stops s v filter p ↔
      (∃ e, verdict filter m = .error e) ∨
        (verdict filter m = .ok true ∧ ¬ TaggedFile.IsPath p.text) := by
    simp only [Stops, h, Except.ok.injEq, exists_eq_left', verdict_eq_error_iff,
      verdict_eq_true_iff]
  have hrejected : IsRejected s v filter p ↔ verdict filter m = .ok false := by
    simp only [IsRejected, h, Except.ok.injEq, exists_eq_left', verdict_eq_false_iff]
  have hselected : selected s v filter p =
      if verdict filter m = .ok true then some ⟨((Path.ofText p.text).absolute v.workPath).text, m⟩
        else none := by
    simp only [selected, h, verdict_eq_true_iff]
  rcases hv : verdict filter m with e | _ | _
  · have htest : test s v filter p = .stopped (.tooManyDigits e) := by
      rw [verdict] at hv
      simp only [test, h, hv]
    rw [htest]
    exact .stopped (hstops.mpr (.inl ⟨e, hv⟩))
  · have htest : test s v filter p = .rejected := by
      rw [verdict] at hv
      simp only [test, h, hv]
    rw [htest]
    exact .rejected (by simp [hstops, hv]) (by simp [hselected, hv]) hread (hrejected.mpr hv)
  · have hvalue := hv
    rw [verdict] at hvalue
    cases hfile : TaggedFile.ofPath v.workPath p.text m with
    | ok file =>
      have htest : test s v filter p = .found file := by simp only [test, h, hvalue, hfile]
      obtain ⟨hshows, rfl⟩ := TaggedFile.ofPath_eq_ok_iff.mp hfile
      rw [htest]
      exact .found (by simp [hstops, hv, hshows]) (by rw [hselected, if_pos hv]) hread
        (by simp [hrejected, hv])
    | error e =>
      have htest : test s v filter p = .stopped (.badPath e) := by
        simp only [test, h, hvalue, hfile]
      rw [htest]
      refine .stopped (hstops.mpr (.inr ⟨hv, fun hshows => ?_⟩))
      cases hfile.symm.trans (TaggedFile.ofPath_eq_ok_iff.mpr ⟨hshows, rfl⟩)

/-- Where filters can be evaluated and the path is not blank, a file that would be found stops a
walk if its path has a half in it, and no other file does. -/
theorem stops_iff_of_evaluates
    (heval : ∀ m, v.tags s.tagAttribute p.text = .ok m → ∀ f ∈ filter, ∃ b, f.evaluate m = .ok b)
    (hpath : Text.strip p.text ≠ []) :
    Stops s v filter p ↔ selected s v filter p ≠ none ∧ Text.isWhole p.text = false := by
  cases h : v.tags s.tagAttribute p.text with
  | error e => simp [Stops, selected, h]
  | ok m =>
    have hgives : ¬ ∃ f ∈ filter, ∃ e, f.evaluate m = .error e := by
      rintro ⟨f, hf, e, he⟩
      obtain ⟨b, hb⟩ := heval m h f hf
      cases hb.symm.trans he
    have hwhole : ¬ TaggedFile.IsPath p.text ↔ Text.isWhole p.text = false := by
      simp [TaggedFile.IsPath, hpath]
    have hselected : selected s v filter p ≠ none ↔ ∀ f ∈ filter, f.evaluate m = .ok true := by
      simp [selected, h]
    simp only [Stops, h, Except.ok.injEq, exists_eq_left', or_iff_right hgives, hwhole, hselected]

theorem fate_test (hfit : Text.unfit? p.text = none) : Fate s v filter p (test s v filter p) := by
  cases h : v.tags s.tagAttribute p.text with
  | ok m => exact fate_of_ok h
  | error e =>
    have htest : test s v filter p = .unread e := by rw [test, h]
    exact htest ▸ fate_of_error h (Volume.isForeseen_of_tags hfit h)

instance (p : Path) : Decidable (IsUnread s v p) :=
  match h : v.tags s.tagAttribute p.text with
  | .ok m => .isFalse (by simp [IsUnread, h])
  | .error e => decidable_of_iff (e.isForeseen = true) (by simp [IsUnread, h])

instance (p : Path) : Decidable (IsRejected s v filter p) :=
  match h : v.tags s.tagAttribute p.text with
  | .ok m =>
    decidable_of_iff (verdict filter m = .ok false) (by simp [IsRejected, h, verdict_eq_false_iff])
  | .error e => .isFalse (by simp [IsRejected, h])

instance (p : Path) : Decidable (Stops s v filter p) :=
  match h : v.tags s.tagAttribute p.text with
  | .ok m =>
    decidable_of_iff ((verdict filter m).isOk = false ∨
      (verdict filter m = .ok true ∧ ¬ TaggedFile.IsPath p.text)) <| by
      have herror : (verdict filter m).isOk = false ↔ ∃ e, verdict filter m = .error e := by
        cases verdict filter m <;> simp [Except.isOk, Except.toBool]
      simp only [Stops, h, Except.ok.injEq, exists_eq_left', herror, verdict_eq_error_iff,
        verdict_eq_true_iff]
  | .error e => .isFalse (by simp [Stops, h])

/-! ## All files -/

variable {ps : List Path}

variable (s v filter) in
def untilStop (ps : List Path) : List Path := ps.takeWhile fun p => ¬ Stops s v filter p

variable (s v filter) in
def countsOf (ps : List Path) : WalkStats :=
  ⟨ps.length, (ps.filterMap (selected s v filter)).length, 0, 0, ps.countP fun p => IsUnread s v p⟩

theorem untilStop_cons_of_stops {p : Path} (h : Stops s v filter p) :
    untilStop s v filter (p :: ps) = [] := by
  simp [untilStop, h]

theorem untilStop_cons {p : Path} (h : ¬ Stops s v filter p) :
    untilStop s v filter (p :: ps) = p :: untilStop s v filter ps := by
  simp [untilStop, h]

theorem untilStop_eq_self (h : ∀ p ∈ ps, ¬ Stops s v filter p) : untilStop s v filter ps = ps := by
  induction ps with
  | nil => rfl
  | cons p ps ih =>
    rw [untilStop_cons (h p List.mem_cons_self), ih fun q hq => h q (List.mem_cons_of_mem _ hq)]

namespace Fate

variable {o : Outcome}

theorem fault (h : Fate s v filter p o) : o.fault? = none ↔ ¬ Stops s v filter p := by
  cases h with
  | stopped hs => exact iff_of_false nofun (not_not_intro hs)
  | found hs | rejected hs | unread hs => exact iff_of_true rfl hs

theorem file (h : Fate s v filter p o) (hs : ¬ Stops s v filter p) :
    selected s v filter p = o.file? := by
  cases h with
  | stopped hstop => exact absurd hstop hs
  | found _ h | rejected _ h | unread _ h => exact h

theorem countsOf_cons (h : Fate s v filter p o) (hs : ¬ Stops s v filter p) (ps : List Path) :
    countsOf s v filter (p :: ps) = o.stats + countsOf s v filter ps := by
  have hcounts : countsOf s v filter (p :: ps) =
      ⟨1, o.file?.toList.length, 0, 0, if IsUnread s v p then 1 else 0⟩ +
      countsOf s v filter ps := by
    rw [countsOf, List.filterMap_cons, h.file hs, List.countP_cons]
    change _ = WalkStats.add _ _
    simp only [WalkStats.add, countsOf, List.length_cons, decide_eq_true_eq, WalkStats.mk.injEq,
      Nat.add_comm, true_and, and_true]
    cases o.file? <;> simp [Nat.add_comm]
  rw [hcounts]
  cases h with
  | stopped hstop => exact absurd hstop hs
  | found _ _ hu | rejected _ _ hu => rw [if_neg hu]; rfl
  | unread _ _ hu => rw [if_pos hu]; rfl

end Fate

/-- What is found and counted are the files in front of the first one that ends the walk. By
induction on the files. -/
theorem collect_tests (hfit : ∀ p ∈ ps, Text.unfit? p.text = none) :
    (collect (ps.map (test s v filter))).1 = (untilStop s v filter ps).filterMap
    (selected s v filter) ∧
      (collect (ps.map (test s v filter))).2.1 = countsOf s v filter (untilStop s v filter ps) ∧
      ((collect (ps.map (test s v filter))).2.2 = none ↔ ∀ p ∈ ps, ¬ Stops s v filter p) := by
  induction ps with
  | nil => exact ⟨rfl, rfl, by simp [collect]⟩
  | cons p ps ih =>
    obtain ⟨hfiles, hstats, hfault⟩ := ih fun q hq => hfit q (List.mem_cons_of_mem _ hq)
    have hfate : Fate s v filter p (test s v filter p) := fate_test (hfit p List.mem_cons_self)
    rw [List.map_cons, List.forall_mem_cons]
    cases hf : (test s v filter p).fault? with
    | some e =>
      have hs : Stops s v filter p := by_contra fun hs => by simp [hfate.fault.mpr hs] at hf
      rw [collect_cons_of_fault hf, untilStop_cons_of_stops hs]
      exact ⟨rfl, rfl, iff_of_false nofun fun h => h.1 hs⟩
    | none =>
      have hs := hfate.fault.mp hf
      rw [collect_cons hf, untilStop_cons hs, hfate.countsOf_cons hs, ← hstats, hfault,
        List.filterMap_cons, hfate.file hs, hfiles]
      refine ⟨?_, rfl, (and_iff_right hs).symm⟩
      cases (test s v filter p).file? <;> rfl

/-- Every file that does not end the walk is found, unread or rejected. -/
theorem length_eq_counts (hfit : ∀ p ∈ ps, Text.unfit? p.text = none)
    (h : ∀ p ∈ ps, ¬ Stops s v filter p) :
    ps.length = (ps.filterMap (selected s v filter)).length + ps.countP (fun p => IsUnread s v p) +
      ps.countP fun p => IsRejected s v filter p := by
  induction ps with
  | nil => rfl
  | cons p ps ih =>
    have hih := ih (fun q hq => hfit q (List.mem_cons_of_mem _ hq)) fun q hq =>
      h q (List.mem_cons_of_mem _ hq)
    have hfate : Fate s v filter p (test s v filter p) := fate_test (hfit p List.mem_cons_self)
    rw [List.length_cons, List.filterMap_cons, List.countP_cons, List.countP_cons]
    generalize test s v filter p = o at hfate
    cases hfate with
    | stopped hs => exact absurd hs (h p List.mem_cons_self)
    | found _ hsel hu hr =>
      simp only [hsel, hu, hr, List.length_cons, decide_false, Bool.false_eq_true, if_false]; omega
    | rejected _ hsel hu hr =>
      simp only [hsel, hu, hr, decide_false, decide_true, Bool.false_eq_true, if_false, if_true];
      omega
    | unread _ hsel hu hr =>
      simp only [hsel, hu, hr, decide_false, decide_true, Bool.false_eq_true, if_false, if_true];
      omega

/-! ## Walks -/

variable {roots : List Text}

theorem run_of_unlisted {e : VolumeFault} (h : (listRoots s v roots).2 = some e) :
    (run s v filter roots).files = [] ∧
    (run s v filter roots).stats = (listRoots s v roots).1.stats ∧
      (run s v filter roots).fault = some (.badLookup e) := by
  simp only [run, h, and_self]

theorem run_of_listed (h : (listRoots s v roots).2 = none) :
    (run s v filter roots).files =
    (collect ((listRoots s v roots).1.files.map (test s v filter))).1 ∧
      (run s v filter roots).stats = (listRoots s v roots).1.stats +
        (collect ((listRoots s v roots).1.files.map (test s v filter))).2.1 ∧
      (run s v filter roots).fault =
        (collect ((listRoots s v roots).1.files.map (test s v filter))).2.2 := by
  have htests : (((listRoots s v roots).1.files.map fun p => (p, test s v filter p)).map Prod.snd) =
      (listRoots s v roots).1.files.map (test s v filter) := by
    rw [List.map_map]
    rfl
  simp only [run, h, htests, and_self]

/-- A walk ends early over a root that is too long, or over a file. -/
theorem fault_run_eq_none_iff (hv : v.IsNamed) : (run s v filter roots).fault = none ↔
    (∀ root ∈ roots, ¬ v.IsTooLong (Path.ofText root).text) ∧
    ∀ p ∈ (listRoots s v roots).1.files, ¬ Stops s v filter p := by
  rw [← listRoots_fault_eq_none_iff (s := s)]
  cases h : (listRoots s v roots).2 with
  | some e =>
    rw [(run_of_unlisted h).2.2]
    exact iff_of_false nofun fun hnone => nomatch hnone.1
  | none =>
    rw [(run_of_listed h).2.2, (collect_tests fun p hp => unfit?_listRoots hv hp).2.2]
    exact (and_iff_right rfl).symm

/-- If the roots are listed, what is found and counted are the files in front of the first one that
ends the walk. -/
theorem run_untilStop (hv : v.IsNamed) (h : ∀ root ∈ roots, ¬ v.IsTooLong (Path.ofText root).text) :
    (run s v filter roots).files = (untilStop s v filter (listRoots s v roots).1.files).filterMap
    (selected s v filter) ∧
      (run s v filter roots).stats =
        (listRoots s v roots).1.stats + countsOf s v filter
          (untilStop s v filter (listRoots s v roots).1.files) := by
  have hlisted : (listRoots s v roots).2 = none := listRoots_fault_eq_none_iff.mpr h
  have hfit : ∀ p ∈ (listRoots s v roots).1.files, Text.unfit? p.text = none :=
    fun p hp => unfit?_listRoots hv hp
  rw [(run_of_listed hlisted).1, (run_of_listed hlisted).2.1, (collect_tests hfit).1,
    (collect_tests hfit).2.1]
  exact ⟨rfl, rfl⟩

end files

end Walk

end FileTags

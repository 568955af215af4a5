import FileTags.Proofs.Filter.Meaning
import FileTags.Proofs.TagMap.Store
import FileTags.Proofs.Walk.Selection

/-!
# Walks that end early

A walk comes to its end unless a root is too long to be looked up, or a file ends it. Files do so
with a number that is too long to be compared, or when they are selected and their path is blank.
Whatever ends it, the files in front of that are found and counted as in any walk.
-/

set_option autoImplicit false

namespace FileTags

theorem Filter.evaluate_ok_of_short {m : TagMap} (hm : m.ShortNumerals) (f : Filter) :
    ∃ b, f.evaluate m = .ok b := by
  rw [Filter.evaluate]
  induction f with
  | leaf c =>
    rw [Formula.evaluate_leaf]
    cases c with
    | tagExists tag => exact (Condition.holds_tagExists tag).imp fun _ h => h.1
    | valueEquals tag value => exact (Condition.holds_valueEquals tag value).imp fun _ h => h.1
    | valueOrder test tag bound =>
      exact (Condition.holds_valueOrder hm test tag bound).imp fun _ h => h.1
  | not f ih =>
    obtain ⟨b, hb⟩ := ih
    exact ⟨!b, by rw [Formula.evaluate_not, hb]; rfl⟩
  | and l r ihl ihr =>
    obtain ⟨b, hb⟩ := ihl
    obtain ⟨c, hc⟩ := ihr
    exact ⟨_, Formula.evaluate_and_ok hb hc⟩
  | or l r ihl ihr =>
    obtain ⟨b, hb⟩ := ihl
    obtain ⟨c, hc⟩ := ihr
    exact ⟨_, Formula.evaluate_or_ok hb hc⟩

namespace Walk

variable {s : Settings} {v : Volume} {filter : Option Filter} {p : Path} {roots : List Text}

/-- A file that ends a walk has a number that is too long among its tags, or a path that no tagged
file can have. -/
theorem Stops.cause (h : Stops s v filter p) :
    (∃ m, v.tags s.tagAttribute p.text = .ok m ∧ ¬ m.ShortNumerals) ∨
    ¬ TaggedFile.IsPath p.text := by
  obtain ⟨m, hm, ⟨f, -, e, he⟩ | ⟨-, hpath⟩⟩ := h
  · refine .inl ⟨m, hm, fun hshort => ?_⟩
    obtain ⟨b, hb⟩ := f.evaluate_ok_of_short hshort
    cases hb.symm.trans he
  · exact .inr hpath

/-- Where nobody is denied a look at a root, exactly a root that is too long and a file that stops
it keep a walk from its end. Files stop it for one of two reasons, and do not take back what is
found in front of them. -/
theorem fault_run_eq_none_iff_unstopped (hv : v.IsNamed) :
    let paths := (listRoots s v roots).1.files
    let found := run s v filter roots
    (found.fault = none ↔
      (∀ root ∈ roots, ¬ v.IsTooLong (Path.ofText root).text) ∧ ∀ p ∈ paths, ¬ Stops s v filter p) ∧
    (∀ p, Stops s v filter p →
      (∃ m, v.tags s.tagAttribute p.text = .ok m ∧ ¬ m.ShortNumerals) ∨
        ¬ TaggedFile.IsPath p.text) ∧
    ((∀ root ∈ roots, ¬ v.IsTooLong (Path.ofText root).text) →
      let before := paths.takeWhile fun p => ¬ Stops s v filter p
      found.files = before.filterMap (selected s v filter) ∧
        found.stats.errors = roots.countP (fun root => IsMissing v root) + before.countP fun p =>
          IsUnread s v p) := by
  refine ⟨fault_run_eq_none_iff hv, fun p hp => hp.cause, fun hroots => ?_⟩
  obtain ⟨hfiles, hstats⟩ := @run_untilStop s v filter roots hv hroots
  refine ⟨hfiles, ?_⟩
  rw [hstats, ← missing_listRoots (listRoots_fault_eq_none_iff.mpr hroots)]
  rfl

/-! ## A number that is too long -/

def ones (n : Nat) : TagMap := .ofList [([.char 'a'], some (List.replicate n (.char '1')))]

theorem wellFormed_ones (n : Nat) : (ones n).WellFormed := by
  have hentries : (ones n).entries = [([.char 'a'], some (List.replicate n (.char '1')))] := rfl
  have hone : ∀ c ∈ List.replicate n (Rune.char '1'), c = .char '1' :=
    fun c hc => List.eq_of_mem_replicate hc
  refine ⟨?_, ?_, ?_⟩ <;>
    simp only [hentries, List.forall_mem_singleton, Option.mem_some_iff, forall_eq']
  · decide
  · have hblank : Text.isBlank (.char 'a') = false := by decide
    exact ⟨by simp, by simpa using hblank, by simpa using hblank⟩
  · refine ⟨fun c hc => ?_, fun c hc => ?_, fun c hc => ?_⟩
    · rw [hone c hc]
      decide
    · rw [hone c (List.mem_of_mem_head? hc)]
      decide
    · rw [hone c (List.mem_of_mem_getLast? hc)]
      decide

theorem isWhole_ones (n : Nat) : (ones n).isWhole = true := by
  have hentries : (ones n).entries = [([.char 'a'], some (List.replicate n (.char '1')))] := rfl
  simp [TagMap.isWhole_iff, hentries, Text.isWhole, Rune.isHalf]

/-- Two files, one with a number of so many ones and the other with the number two. -/
def onesVolume (n : Nat) : Volume where
  nodes := [([Utf8.ofString "f"], .file []), ([Utf8.ofString "g"], .file [])]
  attributes := [(([Utf8.ofString "f"], [.char 't']), Utf8.bytes (ones n).encode),
    (([Utf8.ofString "g"], [.char 't']), Utf8.ofString "a=2")]
  faults := []
  hasAttributes := true
  work := []

def plainSettings : Settings := ⟨[.char 't'], [], 1, true, false, []⟩

theorem tags_onesVolume (n : Nat) : (onesVolume n).tags [.char 't'] [.char 'f'] = .ok (ones n) :=
  (Volume.tags_eq_ok_iff rfl rfl).mpr
    (.inr ⟨_, rfl, (TagMap.stores_encode_iff (isWhole_ones n)).mpr (wellFormed_ones n)⟩)

theorem stops_onesVolume {n : Nat} (hn : Text.digitLimit < n) {tag : Pattern}
    (htag : tag.accepts [.char 'a'] = true) (test : OrderTest) (bound : Int) :
    Stops plainSettings (onesVolume n)
    (some (.leaf (.valueOrder test tag bound))) ⟨0, [[.char 'f']]⟩ := by
  have hread : Text.readInteger (List.replicate n (.char '1')) = .error ⟨n⟩ := by
    have hdigits : Text.IsDigits (List.replicate n (.char '1')) := by
      refine ⟨fun h => ?_, fun c hc => ?_⟩
      · obtain rfl : n = 0 := by simpa using h
        exact Nat.not_lt_zero _ hn
      · rw [List.eq_of_mem_replicate hc]
        decide
    have happend := Text.readInteger_append (.inl rfl) hdigits
    rwa [if_neg (by simpa using hn), List.length_replicate] at happend
  refine ⟨ones n, tags_onesVolume n, .inl ⟨_, rfl, ⟨n⟩, ?_⟩⟩
  rw [Filter.evaluate, Formula.evaluate_leaf]
  change Condition.anyOrdered test tag bound [([.char 'a'], some (List.replicate n (.char '1')))] =
    _
  simp only [Condition.anyOrdered, htag, hread, if_true]

theorem isNamed_onesVolume (n : Nat) : (onesVolume n).IsNamed := by
  intro e he
  simp only [onesVolume, List.mem_cons, List.not_mem_nil, or_false] at he
  rcases he with rfl | rfl <;> decide

theorem ofTerm_greater : ∃ tag : Pattern, tag.accepts [.char 'a'] = true ∧
    Filter.ofTerm none (Text.ofString "a > 1") = .ok (.leaf (.valueOrder .greater tag 1)) := by
  have hterm : Filter.ofTerm none (Text.ofString "a > 1") =
      (Filter.patternOf [.char 'a']).map fun tag => .leaf (.valueOrder .greater tag 1) := by
        decide +kernel
  have hok : (Filter.patternOf [.char 'a']).toOption.any (fun tag => tag.accepts [.char 'a']) =
      true := by decide +kernel
  cases hp : Filter.patternOf [.char 'a'] with
  | error e => simp [hp, Except.toOption] at hok
  | ok tag =>
    rw [hp] at hterm hok
    exact ⟨tag, hok, hterm⟩

theorem fault_run_eq_none_iff_unstopped_ones :
    ∃ f, Filter.ofTerm none (Text.ofString "a > 1") = .ok f ∧ (onesVolume 4301).IsNamed ∧
      let paths :=
        (listRoots plainSettings (onesVolume 4301) [[.char 'g'], [.char 'f'], [.char 'h']]).1.files
      let found :=
        run plainSettings (onesVolume 4301) (some f) [[.char 'g'], [.char 'f'], [.char 'h']]
      (found.fault = none ↔
        (∀ root ∈ [[.char 'g'], [.char 'f'], [.char 'h']],
          ¬ (onesVolume 4301).IsTooLong (Path.ofText root).text) ∧
          ∀ p ∈ paths, ¬ Stops plainSettings (onesVolume 4301) (some f) p) ∧
      (∀ p, Stops plainSettings (onesVolume 4301) (some f) p →
        (∃ m, (onesVolume 4301).tags plainSettings.tagAttribute p.text = .ok m ∧
          ¬ m.ShortNumerals) ∨ ¬ TaggedFile.IsPath p.text) ∧
      ((∀ root ∈ [[.char 'g'], [.char 'f'], [.char 'h']],
        ¬ (onesVolume 4301).IsTooLong (Path.ofText root).text) →
        let before := paths.takeWhile fun p => ¬ Stops plainSettings (onesVolume 4301) (some f) p
        found.files = before.filterMap (selected plainSettings (onesVolume 4301) (some f)) ∧
          found.stats.errors = [[.char 'g'], [.char 'f'],
            [.char 'h']].countP (fun root => IsMissing (onesVolume 4301) root) +
            before.countP fun p => IsUnread plainSettings (onesVolume 4301) p) := by
  obtain ⟨tag, -, hterm⟩ := ofTerm_greater
  have hnamed := isNamed_onesVolume 4301
  exact ⟨_, hterm, hnamed, fault_run_eq_none_iff_unstopped hnamed⟩

/-- A file with a number that is too long among its tags ends a walk for a term that compares
numbers. -/
theorem run_ends_early :
    ¬ ∀ (s : Settings) (v : Volume) (term : Text) (f : Filter) (roots : List Text), v.IsNamed →
      (∀ root ∈ roots, .char '\x00' ∉ root) → Filter.ofTerm none term = .ok f →
      (run s v (some f) roots).fault = none := by
  intro h
  obtain ⟨tag, htag, hterm⟩ := ofTerm_greater
  have hnamed := isNamed_onesVolume 4301
  have hnone :=
    h plainSettings (onesVolume 4301) _ _ [[.char 'g'], [.char 'f']] hnamed (by decide) hterm
  refine ((fault_run_eq_none_iff hnamed).mp hnone).2 ⟨0,
    [[.char 'f']]⟩ ?_ (stops_onesVolume (by decide) htag .greater 1)
  have hlist : (listRoots plainSettings (onesVolume 4301) [[.char 'g'], [.char 'f']]).1.files =
      [⟨0, [[.char 'g']]⟩, ⟨0, [[.char 'f']]⟩] := rfl
  rw [hlist]
  exact List.mem_cons_of_mem _ (List.mem_singleton_self _)

end Walk

end FileTags

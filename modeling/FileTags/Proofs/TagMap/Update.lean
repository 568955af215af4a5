import FileTags.Proofs.TagMap.RoundTrip

/-!
# Changing tag maps

Setting the entries of one map in another changes the values of the names that are there, and puts
the others behind them in their own order. What goes into a well-formed map or comes out of it
leaves it well formed, and doing the same once more changes nothing.
-/

set_option autoImplicit false

namespace FileTags.TagMap

variable {m n : TagMap} {name : Text} {value : Option Text} {es : List (Text × Option Text)}

/-! ## Entries after a change -/

/-- The entries with the values that a map has for their names, and behind them those of the map
whose names are new. -/
def mergeEntries (es : List (Text × Option Text)) (new : TagMap) : List (Text × Option Text) :=
  es.map (fun e => (e.1, (new.get? e.1).getD e.2)) ++ new.entries.filter fun e =>
    !(es.map Prod.fst).contains e.1

def withoutNames (es : List (Text × Option Text)) (gone : List Text) : List (Text × Option Text) :=
  es.filter fun e => !gone.contains e.1

theorem setEntry_of_mem (hes : (es.map Prod.fst).Nodup) (h : name ∈ es.map Prod.fst) :
    setEntry name value es = es.map fun e => (e.1, if e.1 = name then value else e.2) := by
  induction es with
  | nil => cases h
  | cons e es ih =>
    rw [List.map_cons, List.nodup_cons] at hes
    rw [setEntry, List.map_cons]
    by_cases he : e.1 = name
    · have hkeep : es.map (fun e => (e.1, if e.1 = name then value else e.2)) = es := by
        refine (List.map_congr_left fun d hd => ?_).trans (List.map_id es)
        have hne : d.1 ≠ name := fun hname => hes.1 (he.trans hname.symm ▸ List.mem_map_of_mem hd)
        rw [if_neg hne]
        rfl
      rw [if_pos he, if_pos he, hkeep, he]
    · rw [if_neg he, if_neg he, ih hes.2 ((List.mem_cons.mp h).resolve_left (Ne.symm he))]

theorem setEntry_of_fresh (h : name ∉ es.map Prod.fst) :
    setEntry name value es = es.map (fun e => (e.1, if e.1 = name then value else e.2)) ++
      [(name, value)] := by
  rw [setEntry_of_not_mem h]
  congr 1
  refine ((List.map_congr_left fun e he => ?_).trans (List.map_id es)).symm
  have hne : e.1 ≠ name := fun hname => h (hname ▸ List.mem_map_of_mem he)
  rw [if_neg hne]
  rfl

theorem lookup_eq_none (h : name ∉ es.map Prod.fst) : es.lookup name = none := by
  rw [List.lookup_eq_none_iff]
  intro e he
  simpa using fun hname : name = e.1 => h (hname ▸ List.mem_map_of_mem he)

/-- By induction on the entries that are set, of which the first one is new or not. -/
theorem foldl_insert_merged (hes : (es.map Prod.fst).Nodup) :
    (es.foldl (fun m e => m.insert e.1 e.2) m).entries =
      m.entries.map (fun e => (e.1, (es.lookup e.1).getD e.2)) ++ es.filter fun e =>
        !m.names.contains e.1 := by
  induction es generalizing m with
  | nil => simp
  | cons e es ih =>
    obtain ⟨name, value⟩ := e
    rw [List.map_cons, List.nodup_cons] at hes
    rw [List.foldl_cons, ih hes.2]
    have hlookup : es.lookup name = none := lookup_eq_none hes.1
    -- What has been set by then is not set again, since no name comes twice.
    have hset : ∀ e : Text × Option Text,
      ((es.lookup e.1).getD (if e.1 = name then value else e.2)) =
        (((name, value) :: es).lookup e.1).getD e.2 := by
      intro e
      rw [List.lookup_cons]
      by_cases he : e.1 = name
      · simp [he, hlookup]
      · simp [beq_eq_false_iff_ne.mpr he, he]
    by_cases hm : name ∈ m.names
    · have hinsert : (m.insert name value).entries = m.entries.map fun e =>
          (e.1, if e.1 = name then value else e.2) :=
        setEntry_of_mem m.nodup hm
      have hnames : (m.insert name value).names = m.names := by
        rw [names, hinsert, List.map_map]
        rfl
      rw [hinsert, hnames, List.map_map, List.filter_cons_of_neg (by simpa using hm)]
      congr 1
      exact List.map_congr_left fun e _ => by simp only [Function.comp_apply, hset]
    · have hinsert : (m.insert name value).entries =
          m.entries.map (fun e => (e.1, if e.1 = name then value else e.2)) ++ [(name, value)] :=
            setEntry_of_fresh hm
      have hnames : (m.insert name value).names = m.names ++ [name] := by
        rw [names, hinsert, List.map_append, List.map_map]
        rfl
      rw [hinsert, hnames, List.map_append, List.map_map,
        List.filter_cons_of_pos (by simpa using hm), List.append_assoc]
      congr 1
      · exact List.map_congr_left fun e _ => by simp only [Function.comp_apply, hset]
      · have hfilter : es.filter (fun e => !(m.names ++ [name]).contains e.1) = es.filter fun e =>
            !m.names.contains e.1 := by
          refine List.filter_congr fun e he => ?_
          have hne : e.1 ≠ name := fun hname => hes.1 (List.mem_map.mpr ⟨e, he, hname⟩)
          simp [hne]
        rw [hfilter, List.map_singleton, hlookup]
        rfl

/-- Names that are there keep their places and take the new values; the others come behind them in
their own order. -/
theorem update_entries (m n : TagMap) : (m.update n).entries = mergeEntries m.entries n :=
  foldl_insert_merged n.nodup

theorem eraseAll_entries (m : TagMap) (gone : List Text) :
    (m.eraseAll gone).entries = withoutNames m.entries gone := rfl

/-! ## Changing twice -/

theorem get?_of_mem {e : Text × Option Text} (h : e ∈ n.entries) : n.get? e.1 = some e.2 := by
  obtain ⟨before, behind, hsplit⟩ := List.append_of_mem h
  refine List.lookup_eq_some_iff.mpr ⟨before, behind, hsplit, fun d hd => ?_⟩
  have hnodup := n.nodup
  rw [hsplit, List.map_append, List.nodup_append] at hnodup
  have hne := hnodup.2.2 d.1 (List.mem_map_of_mem hd) e.1 (by simp)
  simpa using hne.symm

theorem mem_mergeEntries {e : Text × Option Text} (h : e ∈ n.entries) : e ∈ mergeEntries es n := by
  rw [mergeEntries, List.mem_append]
  by_cases hm : e.1 ∈ es.map Prod.fst
  · obtain ⟨d, hd, hde⟩ := List.mem_map.mp hm
    exact .inl (List.mem_map.mpr ⟨d, hd, by rw [hde, get?_of_mem h]; rfl⟩)
  · exact .inr (List.mem_filter.mpr ⟨h, by simpa using hm⟩)

theorem mergeEntries_twice (es : List (Text × Option Text)) (n : TagMap) :
    mergeEntries (mergeEntries es n) n = mergeEntries es n := by
  have hnone : n.entries.filter (fun e => !((mergeEntries es n).map Prod.fst).contains e.1) = [] :=
    List.filter_eq_nil_iff.mpr fun e he => by simpa using ⟨_, mem_mergeEntries he⟩
  have hkeep : ∀ e ∈ mergeEntries es n, (e.1, (n.get? e.1).getD e.2) = e := by
    intro e he
    rw [mergeEntries, List.mem_append] at he
    rcases he with he | he
    · obtain ⟨d, -, rfl⟩ := List.mem_map.mp he
      cases n.get? d.1 <;> simp
    · rw [get?_of_mem (List.mem_filter.mp he).1]
      rfl
  rw [mergeEntries, hnone, List.append_nil]
  exact (List.map_congr_left hkeep).trans (List.map_id _)

theorem withoutNames_twice (es : List (Text × Option Text)) (gone : List Text) :
    withoutNames (withoutNames es gone) gone = withoutNames es gone := by
  rw [withoutNames, withoutNames, List.filter_filter]
  simp

/-! ## Well-formed maps -/

theorem wellFormed_iff : m.WellFormed ↔
    ∀ e ∈ m.entries, e.1 ≠ [] ∧ Storable e.1 ∧ ∀ value ∈ e.2, Storable value :=
  ⟨fun h e he => ⟨h.name_ne_nil e he, h.names e he, h.values e he⟩,
    fun h => ⟨fun e he => (h e he).1, fun e he => (h e he).2.1, fun e he => (h e he).2.2⟩⟩

theorem wellFormed_empty : empty.WellFormed := wellFormed_iff.mpr fun e he => by cases he

/-- All that is in the map after entries of another have been set comes from one of the two. -/
theorem WellFormed.update (hm : m.WellFormed) (hn : n.WellFormed) : (m.update n).WellFormed :=
  wellFormed_iff.mpr fun e he =>
    (mem_foldl_insert he).elim (wellFormed_iff.mp hm e) (wellFormed_iff.mp hn e)

theorem WellFormed.eraseAll (hm : m.WellFormed) (gone : List Text) : (m.eraseAll gone).WellFormed :=
  wellFormed_iff.mpr fun e he => wellFormed_iff.mp hm e (List.mem_filter.mp he).1

end FileTags.TagMap

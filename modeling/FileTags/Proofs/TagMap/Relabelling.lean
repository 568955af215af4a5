import FileTags.Proofs.TagMap.Template
import FileTags.Proofs.TagMap.Update
import Mathlib.Data.List.Induction
import Mathlib.Data.List.Nodup

/-!
# Renamed maps

Renaming gives every entry the new name of its name. Where new names meet, the entry has the place
of the first of them and the value of the last.
-/

set_option autoImplicit false

namespace FileTags

open Text

namespace TagMap

variable {m : TagMap} {name key : Text} {value : Option Text} {es : List (Text × Option Text)}
  {e : Text × Option Text}

/-! ## Maps of lists with repeated names -/

theorem get?_insert : (m.insert name value).get? key = if key = name then some value
    else m.get? key := by
  change (setEntry name value m.entries).lookup key = if key = name then some value
    else m.entries.lookup key
  induction m.entries with
  | nil =>
    rw [setEntry, List.lookup_cons]
    by_cases h : key = name
    · simp [h]
    · simp [beq_eq_false_iff_ne.mpr h, h]
  | cons e es ih =>
    rw [setEntry, List.lookup_cons]
    by_cases hn : e.1 = name
    · rw [if_pos hn, List.lookup_cons, hn]
      by_cases h : key = name
      · simp [h]
      · simp [beq_eq_false_iff_ne.mpr h, h]
    · rw [if_neg hn, List.lookup_cons, ih]
      by_cases h : key = name
      · simp [h, beq_eq_false_iff_ne.mpr (Ne.symm hn)]
      · simp [h]

theorem names_insert : (m.insert name value).names = if name ∈ m.names then m.names
    else m.names ++ [name] :=
  names_setEntry name value m.entries

theorem ofList_concat (es : List (Text × Option Text)) (e : Text × Option Text) :
    ofList (es ++ [e]) = (ofList es).insert e.1 e.2 :=
  List.foldl_concat _ _ _ _

theorem names_ofList (es : List (Text × Option Text)) :
    (ofList es).names = (es.map Prod.fst).eraseDups := by
  induction es using List.reverseRecOn with
  | nil => rfl
  | append_singleton es e ih =>
    rw [ofList_concat, names_insert, ih, List.map_append, List.map_singleton, List.eraseDups_append]
    by_cases h : e.1 ∈ es.map Prod.fst
    · rw [if_pos (List.mem_eraseDups.mpr h)]
      simp [List.removeAll, h]
    · rw [if_neg (List.mem_eraseDups.not.mpr h)]
      simp [List.removeAll, h, List.eraseDups_cons]

theorem get?_foldl_insert (h : ∀ d ∈ es, d.1 ≠ name) :
    (es.foldl (fun m e => m.insert e.1 e.2) m).get? name = m.get? name := by
  induction es generalizing m with
  | nil => rfl
  | cons d es ih =>
    rw [List.forall_mem_cons] at h
    rw [List.foldl_cons, ih h.2, get?_insert, if_neg h.1.symm]

theorem get?_ofList {before behind : List (Text × Option Text)} (h : ∀ d ∈ behind, d.1 ≠ e.1) :
    (ofList (before ++ e :: behind)).get? e.1 = some e.2 := by
  rw [ofList, List.foldl_append, List.foldl_cons, get?_foldl_insert h, get?_insert, if_pos rfl]

theorem entries_ofList (h : (es.map Prod.fst).Nodup) : (ofList es).entries = es :=
  foldl_insert_entries h

/-! ## New names -/

/-- What becomes of a name: if the pattern matches all of it the expanded template, and else nothing
new. -/
def IsNewName (find : Pattern) (replace name new : Text) : Prop :=
  match find.fullMatch? name with
  | some k => Template.expand k replace = .ok new
  | none => new = name

variable {find : Pattern} {replace : Text} {f : Text → Text}

theorem exists_newName (h : Template.IsShort replace) :
    ∃ f : Text → Text, ∀ name, IsNewName find replace name (f name) := by
  have hnew : ∀ name, ∃ new, IsNewName find replace name new := by
    intro name
    cases hmatch : find.fullMatch? name with
    | some k => exact ⟨_, by rw [IsNewName, hmatch]; exact Template.expand_of_short h⟩
    | none => exact ⟨name, by rw [IsNewName, hmatch]⟩
  choose f hf using hnew
  exact ⟨f, hf⟩

theorem renamedEntries_eq_map (h : ∀ e ∈ es, IsNewName find replace e.1 (f e.1)) :
    renamedEntries find replace es = .ok (es.map fun e => (f e.1, e.2)) := by
  induction es with
  | nil => rfl
  | cons e es ih =>
    obtain ⟨hnew, hrest⟩ := List.forall_mem_cons.mp h
    rw [IsNewName] at hnew
    rw [renamedEntries, ih hrest]
    cases hmatch : find.fullMatch? e.1 with
    | some k =>
      simp only [hmatch] at hnew
      simp only [hnew]
      rfl
    | none =>
      simp only [hmatch] at hnew
      rw [List.map_cons, hnew]
      rfl

theorem rename_eq_ofList (h : ∀ name, IsNewName find replace name (f name)) (m : TagMap) :
    m.rename find replace = .ok (ofList (m.entries.map fun e => (f e.1, e.2))) := by
  rw [rename, renamedEntries_eq_map fun e _ => h e.1]
  rfl

theorem isNewName_whole (find : Pattern) (name : Text) :
    IsNewName find [.char '$', .char '0'] name name := by
  rw [IsNewName]
  cases hmatch : find.fullMatch? name with
  | none => rfl
  | some k =>
    obtain ⟨final, -, rfl⟩ := Option.map_eq_some_iff.mp hmatch
    have hpieces : Template.pieces [.char '$', .char '0'] = [.reference [.char '0']] := rfl
    have hwhole : ∀ k : Match, Template.filling k (.reference [.char '0']) = k.subject :=
      fun k => rfl
    change Template.expand _ _ = _
    rw [Template.expand_of_short (by decide), hpieces, List.flatMap_singleton, hwhole]

/-- The second map has the new names of the first. Of the names that meet, the first gives the place
and the last gives the value; if none do, there are as many entries as before, in the same order and
with the same values. -/
structure Relabels (f : Text → Text) (m n : TagMap) : Prop where
  names : n.names = (m.names.map f).eraseDups
  values : ∀ before e behind, m.entries = before ++ e :: behind → (∀ d ∈ behind, f d.1 ≠ f e.1) →
    n.get? (f e.1) = some e.2
  entries : (∀ a ∈ m.names, ∀ b ∈ m.names, f a = f b → a = b) →
    n.entries = m.entries.map fun e => (f e.1, e.2)

theorem relabels_ofList (f : Text → Text) (m : TagMap) :
    Relabels f m (ofList (m.entries.map fun e => (f e.1, e.2))) := by
  have hnames : (m.entries.map fun e => (f e.1, e.2)).map Prod.fst = m.names.map f := by
    rw [names, List.map_map, List.map_map]
    rfl
  refine ⟨by rw [names_ofList, hnames], fun before e behind hsplit hlast => ?_, fun hinj => ?_⟩
  · rw [hsplit, List.map_append, List.map_cons]
    refine @get?_ofList (f e.1, e.2) _ _ fun d hd => ?_
    obtain ⟨d', hd', rfl⟩ := List.mem_map.mp hd
    exact hlast d' hd'
  · exact entries_ofList (hnames ▸ List.Nodup.map_on hinj m.nodup)

/-- A template whose numbers can be read renames every map, and the template for the whole match
leaves the map as it is. -/
theorem rename_relabels (find : Pattern) (h : Template.IsShort replace) (m : TagMap) :
    (∃ f : Text → Text, (∀ name, IsNewName find replace name (f name)) ∧
      ∃ n, m.rename find replace = .ok n ∧ Relabels f m n) ∧
      m.rename find [.char '$', .char '0'] = .ok m := by
  obtain ⟨f, hf⟩ := exists_newName h
  have hsame : ofList (m.entries.map fun e => (id e.1, e.2)) = m :=
    (congrArg ofList (List.map_id _)).trans (ofList_entries m)
  exact ⟨⟨f, hf, _, rename_eq_ofList hf m, relabels_ofList f m⟩,
    (rename_eq_ofList (isNewName_whole find) m).trans (congrArg _ hsame)⟩

def meeting : TagMap :=
  ofList [([.char 'a', .char '1'], some [.char 'x']), ([.char 'b'], none),
    ([.char '1'], some [.char 'y']), ([.char 'a', .char '2'], some [])]

theorem rename_relabels_meeting :
    ∃ find, Pattern.ofSource [.char 'a', .char '(', .char '.', .char ')'] = .ok find ∧
    Template.IsShort [.char '$', .char '1'] ∧
    (∃ f : Text → Text, (∀ name, IsNewName find [.char '$', .char '1'] name (f name)) ∧
      ∃ n, meeting.rename find [.char '$', .char '1'] = .ok n ∧ Relabels f meeting n) ∧
    meeting.rename find [.char '$', .char '0'] = .ok meeting := by
  have hok : (Pattern.ofSource [.char 'a', .char '(', .char '.', .char ')']).isOk = true := by
    decide +kernel
  cases hfind : Pattern.ofSource [.char 'a', .char '(', .char '.', .char ')'] with
  | error e => simp [hfind, Except.isOk, Except.toBool] at hok
  | ok find => exact ⟨find, rfl, by decide, rename_relabels find (by decide) meeting⟩

end TagMap

end FileTags

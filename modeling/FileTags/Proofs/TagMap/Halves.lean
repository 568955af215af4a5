import FileTags.Proofs.TagMap.Update
import FileTags.Proofs.Text.Split
import FileTags.Proofs.Text.Utf8

/-!
# Tag maps without halves

A map can be stored if no half stands in its names and values. The map of a tag list is made of the
runes of the list, so that the map of a list without halves can be stored. When one map is added to
another that can be stored, the result can be stored just if the one that is added can.
-/

set_option autoImplicit false

namespace FileTags

open Text

namespace TagList

variable {t piece value : Text}

theorem stripOf_subset (p : Rune → Bool) (t : Text) : stripOf p t ⊆ t := by
  obtain ⟨lead, trail, hsplit, -⟩ := exists_stripOf p t
  intro c hc
  rw [hsplit]
  exact List.mem_append_right _ (List.mem_append_left _ hc)

theorem pieceName_subset (piece : Text) : pieceName piece ⊆ piece :=
  List.Subset.trans (stripOf_subset _ _) (List.takeWhile_prefix _).subset

theorem pieceValue?_subset (h : value ∈ pieceValue? piece) : value ⊆ piece := by
  rw [pieceValue?] at h
  split at h
  · cases h
  · next c behind hsign =>
    obtain rfl := Option.some.inj h
    have hbehind : behind ⊆ piece.dropWhile (· != .char '=') := hsign ▸ List.subset_cons_self _ _
    exact List.Subset.trans (stripOf_subset _ _)
      (List.Subset.trans hbehind (List.dropWhile_suffix _).subset)

end TagList

theorem Text.isWhole_expandTabsFrom {t : Text} (h : isWhole t = true) (column : Nat) :
    isWhole (expandTabsFrom column t) = true := by
  induction t generalizing column with
  | nil => rfl
  | cons c t ih =>
    obtain ⟨hc, ht⟩ := Bool.and_eq_true_iff.mp h
    rw [expandTabsFrom]
    split
    · rw [isWhole_append, ih ht, Bool.and_true, isWhole_iff_forall]
      intro d hd
      rw [List.eq_of_mem_replicate hd]
      rfl
    · split <;> exact Bool.and_eq_true_iff.mpr ⟨hc, ih ht _⟩

theorem Text.isWhole_join {sep : Text} (hsep : isWhole sep = true) (parts : List Text) :
    isWhole (join sep parts) = true ↔ ∀ part ∈ parts, isWhole part = true := by
  induction parts with
  | nil => simp [join, isWhole]
  | cons part parts ih =>
    cases parts with
    | nil => simp [join]
    | cons next parts =>
      rw [List.forall_mem_cons, ← ih]
      simp [join, hsep]

theorem Text.isWhole_subset {t u : Text} (h : t ⊆ u) (hu : isWhole u = true) : isWhole t = true :=
  isWhole_iff_forall.mpr fun c hc => isWhole_iff_forall.mp hu c (h hc)

namespace TagMap

variable {m n : TagMap}

def isWhole (m : TagMap) : Bool := Text.isWhole m.encode

theorem isWhole_iff : m.isWhole = true ↔
    ∀ e ∈ m.entries, Text.isWhole e.1 = true ∧ ∀ value ∈ e.2, Text.isWhole value = true := by
  rw [isWhole, encode, encodeEntries, Text.isWhole_join rfl, List.forall_mem_map]
  refine forall₂_congr fun e _ => ?_
  obtain ⟨name, _ | value⟩ := e <;> simp [encodeEntry, Text.isWhole, Rune.isHalf]

theorem isWhole_of_decode {t : Text} (ht : Text.isWhole t = true) (h : decode t = .ok m) :
    m.isWhole = true := by
  obtain ⟨es, hread, rfl⟩ := decode_eq_ok_iff.mp h
  refine isWhole_iff.mpr fun entry hentry => ?_
  rcases TagList.read_iff_gap_or_pieces.mp hread with ⟨-, rfl⟩ | ⟨-, rfl⟩
  · cases hentry
  · have hmem := mem_ofList hentry
    rw [TagList.map_entriesOf] at hmem
    obtain ⟨piece, hpiece, rfl⟩ := List.mem_map.mp hmem
    have hwhole : Text.isWhole piece = true :=
      Text.isWhole_subset (fun c hc => (mem_of_mem_splitOn hpiece hc).2)
        (Text.isWhole_expandTabsFrom ht 0)
    exact ⟨Text.isWhole_subset (TagList.pieceName_subset piece) hwhole,
      fun value hvalue => Text.isWhole_subset (TagList.pieceValue?_subset hvalue) hwhole⟩

theorem isWhole_empty : empty.isWhole = true := rfl

theorem isWhole_update (hm : m.isWhole = true) : (m.update n).isWhole = n.isWhole := by
  rw [Bool.eq_iff_iff, isWhole_iff, isWhole_iff]
  constructor
  · exact fun h e he => h e (by rw [update_entries]; exact mem_mergeEntries he)
  · exact fun h e he => (mem_foldl_insert he).elim (isWhole_iff.mp hm e) (h e)

theorem isWhole_eraseAll (hm : m.isWhole = true) (gone : List Text) :
    (m.eraseAll gone).isWhole = true :=
  isWhole_iff.mpr fun e he => isWhole_iff.mp hm e (List.mem_filter.mp he).1

end TagMap

end FileTags

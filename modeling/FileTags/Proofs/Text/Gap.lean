import FileTags.Text.Blank
import FileTags.Text.Place

/-!
# Gaps

A gap is what may stand between two tokens. Skipping one leaves what stands behind it. Expanding the
tabs of a text may lengthen its gaps, but turns no gap into anything else and makes none go away; a
text without tabs stays as it is, wherever it stands.
-/

set_option autoImplicit false

namespace FileTags.Text

def IsGap (g : Text) : Prop := ∀ c ∈ g, isGap c = true

instance (g : Text) : Decidable (IsGap g) := decidable_of_iff (g.all isGap = true) List.all_eq_true

theorem skipGap_append {g : Text} (hg : IsGap g) (rest : Text) :
    skipGap (g ++ rest) = skipGap rest := by
  rw [skipGap, List.dropWhile_append_of_pos hg]
  rfl

theorem skipGap_eq_self {c : Rune} (h : isGap c = false) (rest : Text) :
    skipGap (c :: rest) = c :: rest := by
  simp [skipGap, h]

theorem length_skipGap (t : Text) : t.length = (t.takeWhile isGap).length + (skipGap t).length := by
  rw [skipGap, ← List.length_append, List.takeWhile_append_dropWhile]

theorem skipGap_skipGap (t : Text) : skipGap (skipGap t) = skipGap t := by
  have hlead : IsGap (t.takeWhile isGap) := List.all_eq_true.mp List.all_takeWhile
  have h := skipGap_append hlead (skipGap t)
  rw [skipGap, skipGap, List.takeWhile_append_dropWhile] at h
  exact h.symm

/-! ## Tabs -/

theorem expandTabsFrom_append (t u : Text) (column : Nat) :
    ∃ column', expandTabsFrom column (t ++ u) =
      expandTabsFrom column t ++ expandTabsFrom column' u := by
  induction t generalizing column with
  | nil => exact ⟨column, rfl⟩
  | cons c t ih =>
    simp only [List.cons_append, expandTabsFrom]
    split
    · obtain ⟨column', h⟩ := ih 0
      exact ⟨column', by rw [h, List.append_assoc]⟩
    · split
      · obtain ⟨column', h⟩ := ih 0
        exact ⟨column', by rw [h, List.cons_append]⟩
      · obtain ⟨column', h⟩ := ih (column + 1)
        exact ⟨column', by rw [h, List.cons_append]⟩

theorem expandTabsFrom_plain_append {t : Text} (ht : .char '\t' ∉ t) (u : Text) (column : Nat) :
    ∃ column', expandTabsFrom column (t ++ u) = t ++ expandTabsFrom column' u := by
  obtain ⟨column', h⟩ := expandTabsFrom_append t u column
  exact ⟨column', by rw [h, expandTabsFrom_eq_self t ht]⟩

theorem isGap_expandTabsFrom {g : Text} (hg : IsGap g) (column : Nat) :
    IsGap (expandTabsFrom column g) := by
  induction g generalizing column with
  | nil => exact hg
  | cons c g ih =>
    have hrest : IsGap g := fun d hd => hg d (by simp [hd])
    intro d hd
    rw [expandTabsFrom] at hd
    split at hd
    · rcases List.mem_append.mp hd with hd | hd
      · rw [(List.mem_replicate.mp hd).2]
        decide
      · exact ih hrest _ d hd
    · split at hd
      · rcases List.mem_cons.mp hd with rfl | hd
        · exact hg _ (by simp)
        · exact ih hrest _ d hd
      · rcases List.mem_cons.mp hd with rfl | hd
        · exact hg _ (by simp)
        · exact ih hrest _ d hd

theorem expandTabsFrom_ne_nil {g : Text} (hne : g ≠ []) (column : Nat) :
    expandTabsFrom column g ≠ [] := by
  cases g with
  | nil => exact absurd rfl hne
  | cons c g =>
    have hstop : 8 - column % 8 ≠ 0 := by omega
    rw [expandTabsFrom]
    split
    · simp [hstop]
    · split <;> simp

theorem no_tab_expandTabsFrom (t : Text) (column : Nat) : .char '\t' ∉ expandTabsFrom column t := by
  induction t generalizing column with
  | nil => simp [expandTabsFrom]
  | cons c t ih =>
    rw [expandTabsFrom]
    split
    · simp [ih]
    · split <;> simp [eq_comm, *]

end FileTags.Text

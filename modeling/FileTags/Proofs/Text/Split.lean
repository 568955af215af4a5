import FileTags.Text.Split
import FileTags.Text.Written

/-!
# Texts put together and taken apart

Parts that are put together with separators between them come out again when the text is split, if
none of them has the separator in it.
-/

set_option autoImplicit false

namespace FileTags.Text

theorem join_eq_intercalate (sep : Text) (parts : List Text) :
    join sep parts = sep.intercalate parts := by
  induction parts with
  | nil => rfl
  | cons t ts ih =>
    cases ts with
    | nil => simp [join]
    | cons u ts => simp [join, ih]

theorem mem_join {sep : Text} {parts : List Text} {c : Rune} (h : c ∈ join sep parts) :
    c ∈ sep ∨ ∃ part ∈ parts, c ∈ part := by
  induction parts with
  | nil => simp [join] at h
  | cons t ts ih =>
    cases ts with
    | nil => exact .inr ⟨t, List.mem_cons_self, h⟩
    | cons u ts =>
      rw [join] at h
      rcases List.mem_append.mp h with h | h
      · rcases List.mem_append.mp h with h | h
        · exact .inr ⟨t, List.mem_cons_self, h⟩
        · exact .inl h
      · exact (ih h).imp id fun ⟨part, hp, hc⟩ => ⟨part, List.mem_cons_of_mem t hp, hc⟩
      · simp

theorem mem_join_of_mem {sep part : Text} {parts : List Text} {c : Rune} (hpart : part ∈ parts)
    (hc : c ∈ part) : c ∈ join sep parts := by
  induction parts with
  | nil => cases hpart
  | cons t ts ih =>
    cases ts with
    | nil => exact List.mem_singleton.mp hpart ▸ hc
    | cons u ts =>
      rw [join]
      · rcases List.mem_cons.mp hpart with rfl | hpart
        · exact List.mem_append_left _ (List.mem_append_left _ hc)
        · exact List.mem_append_right _ (ih hpart)
      · simp

variable {α : Type} [DecidableEq α] {sep c : α} {t u part : List α}

theorem mem_of_mem_splitOn (h : part ∈ t.splitOn sep) (hc : c ∈ part) : c ≠ sep ∧ c ∈ t := by
  induction t generalizing part with
  | nil =>
    obtain rfl : part = [] := by simpa using h
    simp at hc
  | cons d t ih =>
    rw [List.splitOn_cons_eq_if_modifyHead] at h
    split at h
    · rcases List.mem_cons.mp h with rfl | h
      · simp at hc
      · exact ⟨(ih h hc).1, List.mem_cons_of_mem _ (ih h hc).2⟩
    · next hd =>
      cases hs : t.splitOn sep with
      | nil => exact absurd hs (List.splitOn_ne_nil sep t)
      | cons first parts =>
        rw [hs] at h ih
        rcases List.mem_cons.mp h with rfl | h
        · rcases List.mem_cons.mp hc with rfl | hc
          · exact ⟨by simpa using hd, List.mem_cons_self⟩
          · have := ih List.mem_cons_self hc
            exact ⟨this.1, List.mem_cons_of_mem _ this.2⟩
        · have := ih (List.mem_cons_of_mem _ h) hc
          exact ⟨this.1, List.mem_cons_of_mem _ this.2⟩

theorem split_eq_splitOn (sep : α) (t : List α) : split sep t = t.splitOn sep := by
  induction t with
  | nil => rfl
  | cons c t ih =>
    rw [split, ih, List.splitOn_cons_eq_if_modifyHead]
    by_cases hc : c = sep
    · simp [hc]
    · cases hs : t.splitOn sep with
      | nil => exact absurd hs (List.splitOn_ne_nil sep t)
      | cons first parts => simp [hc]

theorem split_ne_nil (sep : α) (t : List α) : split sep t ≠ [] := by
  cases t with
  | nil => exact List.cons_ne_nil _ _
  | cons c t =>
    rw [split]
    split
    · exact List.cons_ne_nil _ _
    · split <;> exact List.cons_ne_nil _ _

theorem split_append_cons (sep : α) (t u : List α) :
    split sep (t ++ sep :: u) = split sep t ++ split sep u := by
  induction t with
  | nil => exact if_pos rfl
  | cons c t ih =>
    rw [List.cons_append, split, split, ih]
    by_cases hc : c = sep
    · rw [if_pos hc, if_pos hc, List.cons_append]
    · rw [if_neg hc, if_neg hc]
      cases hs : split sep t with
      | nil => exact absurd hs (split_ne_nil sep t)
      | cons part parts => rfl

theorem split_of_not_mem (h : sep ∉ t) : split sep t = [t] := by
  induction t with
  | nil => rfl
  | cons c t ih =>
    have hc : c ≠ sep := fun hc => h (hc ▸ List.mem_cons_self)
    rw [split, if_neg hc, ih fun hm => h (.tail _ hm)]

end FileTags.Text

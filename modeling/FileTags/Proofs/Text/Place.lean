import FileTags.Proofs.Text.Gap
import FileTags.Proofs.Text.Strip

/-!
# Lines and tabs

The line of a place begins behind the last line feed in front of it. Expanding tabs keeps the line
feeds and moves what stands behind a tab to the right, so a place has one line and column in both
texts exactly when no tab in front of its line takes more than one column.
-/

set_option autoImplicit false

namespace FileTags.Text

def lineStart (t : Text) (offset : Nat) : Nat :=
  (dropTrailing (· != .char '\n') (t.take offset)).length

def EndsLine (t : Text) : Prop := ∀ c ∈ t.getLast?, c = .char '\n'

variable {t a b : Text} {offset p : Nat}

theorem lineStart_eq (h : t.take offset = a ++ b) (ha : EndsLine a) (hb : .char '\n' ∉ b) :
    lineStart t offset = a.length := by
  rw [lineStart, h, dropTrailing_append]
  · intro c hc
    simpa using ha c hc
  · intro c hc
    simpa using fun hn : c = .char '\n' => hb (hn ▸ hc)

/-- What stands in front of a place, and of it what stands in its line. -/
theorem exists_line (t : Text) (offset : Nat) :
    ∃ a b, t.take offset = a ++ b ∧ EndsLine a ∧ .char '\n' ∉ b ∧
    a.length = lineStart t offset := by
  obtain ⟨b, hsplit, hb, ha⟩ := exists_dropTrailing (· != .char '\n') (t.take offset)
  refine ⟨_, b, hsplit, fun c hc => by simpa using ha c hc, fun hn => ?_, rfl⟩
  simpa using hb _ hn

theorem lineStart_le (t : Text) (offset : Nat) : lineStart t offset ≤ min offset t.length := by
  obtain ⟨a, b, hsplit, -, -, hstart⟩ := exists_line t offset
  rw [← hstart, ← List.length_take, hsplit, List.length_append]
  exact Nat.le_add_right _ _

theorem EndsLine.eq_nil_or (h : EndsLine a) : a = [] ∨ ∃ u, a = u ++ [.char '\n'] := by
  rcases List.eq_nil_or_concat a with rfl | ⟨u, c, rfl⟩
  · exact .inl rfl
  · obtain rfl := h c (by simp)
    exact .inr ⟨u, by simp⟩

/-- A text that ends a line is the only beginning of it with as many line feeds. -/
theorem EndsLine.eq_of_count (h : EndsLine b) (hbegins : a <+: b)
    (hcount : a.count (.char '\n') = b.count (.char '\n')) : a = b := by
  obtain ⟨d, rfl⟩ := hbegins
  rw [List.count_append] at hcount
  have hnone : .char '\n' ∉ d := List.count_eq_zero.mp (by omega)
  rcases List.eq_nil_or_concat d with rfl | ⟨u, c, rfl⟩
  · simp
  · obtain rfl := h c (by simp)
    simp at hnone

theorem column_add_lineStart (h : offset ≤ t.length) :
    column t offset + lineStart t offset = offset + 1 := by
  obtain ⟨a, b, hsplit, ha, hb, hstart⟩ := exists_line t offset
  have hlength : offset = a.length + b.length := by
    rw [← List.length_append, ← hsplit, List.length_take, Nat.min_eq_left h]
  have hnone : b.reverse.findIdx? (· == .char '\n') = none := by
    rw [List.findIdx?_eq_none_iff]
    intro c hc
    simpa using fun hn : c = .char '\n' => hb (hn ▸ List.mem_reverse.mp hc)
  rw [column, hsplit, List.reverse_append, ← hstart]
  rcases ha.eq_nil_or with rfl | ⟨u, rfl⟩
  · simp [hnone]
  · simp [List.findIdx?_append, hnone, List.findIdx?_cons]
    simp at hlength
    omega

/-! ## Tabs -/

theorem count_expandTabsFrom (t : Text) (column : Nat) :
    (expandTabsFrom column t).count (.char '\n') = t.count (.char '\n') := by
  induction t generalizing column with
  | nil => rfl
  | cons c t ih =>
    rw [expandTabsFrom]
    by_cases hc : c = .char '\t'
    · subst hc
      simp [ih, List.count_eq_zero]
    · rw [if_neg hc]
      split <;> rw [List.count_cons, List.count_cons, ih]

theorem length_le_expandTabsFrom (t : Text) (column : Nat) :
    t.length ≤ (expandTabsFrom column t).length := by
  induction t generalizing column with
  | nil => exact Nat.le_refl 0
  | cons c t ih =>
    rw [expandTabsFrom]
    by_cases hc : c = .char '\t'
    · rw [if_pos hc, List.length_append, List.length_replicate]
      have := ih 0
      simp only [List.length_cons]
      omega
    · rw [if_neg hc]
      split <;> exact Nat.succ_le_succ (ih _)

theorem EndsLine.expandTabsFrom (h : EndsLine a) (column : Nat) :
    EndsLine (expandTabsFrom column a) := by
  rcases h.eq_nil_or with rfl | ⟨u, rfl⟩
  · exact h
  · obtain ⟨column', hu⟩ := expandTabsFrom_append u [.char '\n'] column
    rw [hu]
    intro c hc
    simpa [Text.expandTabsFrom, eq_comm] using hc

/-- So many characters of the expanded text come from no more than so many of the text. -/
theorem prefix_take_expandTabsFrom (t : Text) (column n : Nat) :
    (expandTabsFrom column t).take n <+: expandTabsFrom column (t.take n) := by
  rcases Nat.lt_or_ge t.length n with hn | hn
  · rw [List.take_of_length_le (Nat.le_of_lt hn)]
    exact List.take_prefix _ _
  · obtain ⟨column', hsplit⟩ := expandTabsFrom_append (t.take n) (t.drop n) column
    rw [List.take_append_drop] at hsplit
    have hlength := length_le_expandTabsFrom (t.take n) column
    rw [List.length_take, Nat.min_eq_left hn] at hlength
    rw [hsplit, List.take_append_of_le_length hlength]
    exact List.take_prefix _ _

theorem not_mem_take_expandTabsFrom {n : Nat} (h : .char '\n' ∉ t.take n) (column : Nat) :
    .char '\n' ∉ (expandTabsFrom column t).take n := by
  intro hmem
  have hpos : 0 < (expandTabsFrom column (t.take n)).count (.char '\n') :=
    List.count_pos_iff.mpr ((prefix_take_expandTabsFrom t column n).subset hmem)
  rw [count_expandTabsFrom] at hpos
  exact h (List.count_pos_iff.mp hpos)

/-- A place has the same line and column in both texts exactly when expanding tabs leaves its line
where it begins. -/
theorem place_expandTabs_iff (h : p ≤ t.length) :
    line (expandTabs t) p = line t p ∧ column (expandTabs t) p = column t p ↔
      (expandTabs (t.take (lineStart t p))).length = lineStart t p := by
  obtain ⟨a, b, hsplit, ha, hb, hstart⟩ := exists_line t p
  have hp : a.length + b.length = p := by
    rw [← List.length_append, ← hsplit, List.length_take, Nat.min_eq_left h]
  have htext : t = a ++ (b ++ t.drop p) := by
    rw [← List.append_assoc, ← hsplit, List.take_append_drop]
  have htake : t.take (lineStart t p) = a := by
    rw [← hstart, htext, List.take_left]
  obtain ⟨column', hexpand⟩ := expandTabsFrom_append a (b ++ t.drop p) 0
  rw [← htext] at hexpand
  have hcolumn := column_add_lineStart h
  have hcolumn' := column_add_lineStart (t :=
    expandTabs t) (Nat.le_trans h (length_le_expandTabsFrom t 0))
  have hlonger : a.length ≤ (expandTabs a).length := length_le_expandTabsFrom a 0
  have hbreaks : (expandTabs a).count (.char '\n') = a.count (.char '\n') :=
    count_expandTabsFrom a 0
  have hfront : (t.take p).count (.char '\n') = a.count (.char '\n') := by
    rw [hsplit, List.count_append, List.count_eq_zero.mpr hb, Nat.add_zero]
  rw [htake, ← hstart]
  constructor
  · rintro ⟨hline, hsame⟩
    rw [line, line, hfront, Nat.add_right_cancel_iff] at hline
    obtain ⟨a', b', hsplit', -, hb', hstart'⟩ := exists_line (expandTabs t) p
    have hlength : a'.length = a.length := by omega
    have hcount : a'.count (.char '\n') = a.count (.char '\n') := by
      rw [← hline, hsplit', List.count_append, List.count_eq_zero.mpr hb', Nat.add_zero]
    -- A tab that takes more would leave the last line feed of the front behind the line of the
    -- place.
    have hshort : a' <+: expandTabs t :=
      (List.prefix_append a' b').trans (hsplit' ▸ List.take_prefix p _)
    have hlong : expandTabs a <+: expandTabs t := by
      rw [expandTabs, expandTabs, hexpand]
      exact List.prefix_append _ _
    have hbegins : a' <+: expandTabs a := List.prefix_of_prefix_length_le hshort hlong (by omega)
    rw [← hlength, (ha.expandTabsFrom 0).eq_of_count hbegins (by rw [hcount, ← hbreaks]; rfl)]
    rfl
  · intro hlength
    have hplace : (expandTabs t).take p =
        expandTabs a ++ (expandTabsFrom column' (b ++ t.drop p)).take b.length := by
      rw [expandTabs, hexpand, ← expandTabs, List.take_append, List.take_of_length_le (by omega)]
      congr 2
      omega
    have hrest : .char '\n' ∉ (expandTabsFrom column' (b ++ t.drop p)).take b.length :=
      not_mem_take_expandTabsFrom (by rwa [List.take_left]) column'
    have hstart' : lineStart (expandTabs t) p = (expandTabs a).length :=
      lineStart_eq hplace (ha.expandTabsFrom 0) hrest
    refine ⟨?_, by omega⟩
    rw [line, line, hplace, hfront, List.count_append, List.count_eq_zero.mpr hrest, hbreaks,
      Nat.add_zero]

end FileTags.Text

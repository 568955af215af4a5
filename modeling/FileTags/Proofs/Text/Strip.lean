import FileTags.Text.Blank
import Mathlib.Data.List.TakeWhile

/-!
# Stripping

Stripping takes off the characters of a set at the two ends of a text, and nothing else: the text is
what is left with such characters around it, and what is left neither begins nor ends with one.
-/

set_option autoImplicit false

namespace FileTags.Text

variable {p : Rune → Bool} {t lead trail : Text}

theorem dropTrailing_append (ht : ∀ c ∈ t.getLast?, p c = false)
    (htrail : ∀ c ∈ trail, p c = true) :
    dropTrailing p (t ++ trail) = t := by
  have hrev : ∀ c ∈ trail.reverse, p c = true := fun c hc => htrail c (List.mem_reverse.mp hc)
  rw [dropTrailing, List.reverse_append, List.dropWhile_append_of_pos hrev, List.reverse_eq_iff]
  cases h : t.reverse with
  | nil => rfl
  | cons c s =>
    have hc := ht c (by rw [List.getLast?_eq_head?_reverse, h]; rfl)
    simp [hc]

theorem exists_dropTrailing (p : Rune → Bool) (t : Text) :
    ∃ trail, t = dropTrailing p t ++ trail ∧ (∀ c ∈ trail, p c = true) ∧
    ∀ c ∈ (dropTrailing p t).getLast?, p c = false := by
  refine ⟨(t.reverse.takeWhile p).reverse, ?_, fun c hc => ?_, fun c hc => ?_⟩
  · rw [dropTrailing, ← List.reverse_append, List.takeWhile_append_dropWhile, List.reverse_reverse]
  · exact List.mem_takeWhile_imp (List.mem_reverse.mp hc)
  · have hhead := List.head?_dropWhile_not p t.reverse
    rw [dropTrailing, List.getLast?_reverse] at hc
    rw [Option.mem_def.mp hc] at hhead
    simpa using hhead

theorem stripOf_append (hlead : ∀ c ∈ lead, p c = true) (htrail : ∀ c ∈ trail, p c = true)
    (hh : ∀ c ∈ t.head?, p c = false)
    (hl : ∀ c ∈ t.getLast?, p c = false) : stripOf p (lead ++ (t ++ trail)) = t := by
  rw [stripOf, List.dropWhile_append_of_pos hlead]
  cases t with
  | nil =>
    rw [List.nil_append, List.dropWhile_eq_nil_iff.mpr htrail]
    rfl
  | cons c s =>
    rw [List.cons_append, List.dropWhile_cons_of_neg (by simp [hh c rfl]), ← List.cons_append]
    exact dropTrailing_append hl htrail

theorem exists_stripOf (p : Rune → Bool) (t : Text) :
    ∃ lead trail, t = lead ++ (stripOf p t ++ trail) ∧ (∀ c ∈ lead, p c = true) ∧
    (∀ c ∈ trail, p c = true) ∧
      (∀ c ∈ (stripOf p t).head?, p c = false) ∧ ∀ c ∈ (stripOf p t).getLast?, p c = false := by
  obtain ⟨trail, hsplit, htrail, hlast⟩ := exists_dropTrailing p (t.dropWhile p)
  refine ⟨t.takeWhile p, trail, ?_, fun c hc => List.mem_takeWhile_imp hc, htrail,
    fun c hc => ?_, hlast⟩
  · rw [stripOf, ← hsplit, List.takeWhile_append_dropWhile]
  · have hhead := List.head?_dropWhile_not p t
    rw [hsplit, List.head?_append, ← stripOf, Option.mem_def.mp hc] at hhead
    simpa using hhead

end FileTags.Text

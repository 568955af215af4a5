import FileTags.Proofs.Term.Closing
import FileTags.Proofs.Text.Gap
import FileTags.Term.Token

/-!
# Tokens in their places

Tokens are read one after the other, and a gap between two of them adds none. An operator is read in
any of its spellings where a word may end behind it. Behind an operand stands the end of the term, a
closing parenthesis or a connective, and a gap in front of a connective.
-/

set_option autoImplicit false

namespace FileTags.Term

open Text

/-! ## Tokens one after the other -/

theorem tokensFrom_skip (behind offset n : Nat) (u rest : Text) :
    tokensFrom behind offset (u.length + n) (u ++ rest) =
      tokensFrom behind (offset + u.length) n rest := by
  induction u generalizing offset with
  | nil => simp
  | cons c u ih =>
    rw [List.length_cons, List.cons_append, show u.length + 1 + n = (u.length + n) + 1 by omega,
      tokensFrom, ih]
    congr 1
    omega

theorem tokensFrom_gap {g : Text} (hg : IsGap g) (behind offset : Nat) (rest : Text) :
    tokensFrom behind offset 0 (g ++ rest) = tokensFrom behind (offset + g.length) 0 rest := by
  induction g generalizing offset with
  | nil => rfl
  | cons c g ih =>
    rw [List.cons_append, tokensFrom, if_pos (hg c (by simp)), ih fun d hd => hg d (by simp [hd])]
    congr 1
    simp only [List.length_cons]
    omega

/-- A token that takes some of the gap behind it along leaves the same tokens behind. -/
theorem tokensFrom_pending {n : Nat} {rest : Text} (h : n ≤ (rest.takeWhile isGap).length)
    (behind offset : Nat) :
    tokensFrom behind offset n rest = tokensFrom behind offset 0 rest := by
  induction rest generalizing n offset with
  | nil => cases n <;> rfl
  | cons c rest ih =>
    cases n with
    | zero => rfl
    | succ n =>
      cases hc : isGap c with
      | false => simp [hc] at h
      | true =>
        simp only [List.takeWhile_cons, hc, if_true, List.length_cons] at h
        rw [tokensFrom, tokensFrom, if_pos hc, ih (by omega)]

/-- A token at the head of a text comes first; some of the gap behind it may belong to it. -/
theorem tokensFrom_token {behind offset k : Nat} {c : Rune} {s rest : Text} {token : Token}
    (hc : isGap c = false)
    (ht : token? behind offset (c :: (s ++ rest)) = some (token, s.length + 1 + k))
    (hk : k ≤ (rest.takeWhile isGap).length) :
    tokensFrom behind offset 0 (c :: (s ++ rest)) =
      (tokensFrom (offset + (s.length + 1 + k)) (offset + (s.length + 1)) 0 rest).map
        (token :: ·) := by
  rw [tokensFrom, if_neg (by simp [hc]), ht]
  simp only [show s.length + 1 + k - 1 = s.length + k by omega, tokensFrom_skip,
    tokensFrom_pending hk]
  congr 2
  omega

/-! ## Gaps and operators -/

theorem plain_gap {g : Text} (hg : IsGap g) : ∀ c ∈ g, c ∉ .char '\x7b' :: special := by
  intro c hc hm
  have hgap := hg c hc
  simp only [special, List.mem_cons, List.not_mem_nil, or_false] at hm
  rcases hm with rfl | rfl | rfl | rfl | rfl <;> revert hgap <;> decide

theorem passed_gap {g : Text} (hg : IsGap g) : Passed g := passed_of_plain (plain_gap hg)

def Symbol.spellings : Symbol → List Text
  | .not => [[.char 'N', .char 'O', .char 'T'], [.char 'n', .char 'o', .char 't'], [.char '!']]
  | .and => [[.char 'A', .char 'N', .char 'D'], [.char 'a', .char 'n', .char 'd'],
      [.char '&', .char '&']]
  | .or => [[.char 'O', .char 'R'], [.char 'o', .char 'r'], [.char '|', .char '|']]
  | .opening | .closing => []

theorem token?_operator {k : Symbol} {s rest : Text} (hs : s ∈ k.spellings)
    (hr : endsWord rest = true) (behind offset : Nat) :
    token? behind offset (s ++ rest) = some (.symbol k behind, s.length) := by
  cases rest with
  | nil => cases hr
  | cons c rest =>
    have heq : c ≠ .char '=' := by rintro rfl; revert hr; simp [endsWord]; decide
    cases k with
    | opening | closing => simp [Symbol.spellings] at hs
    | not =>
      simp only [Symbol.spellings, List.mem_cons, List.not_mem_nil, or_false] at hs
      rcases hs with rfl | rfl | rfl <;>
        simp [token?, opensGroup, notLength?, isWordOperator, startsWith, hr, heq]
    | and =>
      simp only [Symbol.spellings, List.mem_cons, List.not_mem_nil, or_false] at hs
      rcases hs with rfl | rfl | rfl <;>
        simp [token?, opensGroup, notLength?, andLength?, isWordOperator, startsWith, hr]
    | or =>
      simp only [Symbol.spellings, List.mem_cons, List.not_mem_nil, or_false] at hs
      rcases hs with rfl | rfl | rfl <;>
        simp [token?, opensGroup, notLength?, andLength?, orLength?, isWordOperator, startsWith, hr]

theorem spelling_head {k : Symbol} {s : Text} (hs : s ∈ k.spellings) :
    ∃ c u, s = c :: u ∧ isGap c = false ∧ c ∉ [.char '=', .char '<', .char '>', .char ')'] := by
  cases k <;> simp only [Symbol.spellings, List.mem_cons, List.not_mem_nil, or_false] at hs
  all_goals
    rcases hs with rfl | rfl | rfl <;> exact ⟨_, _, rfl, by decide, by decide⟩

theorem plain_spelling {k : Symbol} {s : Text} (hs : s ∈ k.spellings) :
    ∀ c ∈ s, c ∉ .char '\x7b' :: special := by
  cases k <;> simp only [Symbol.spellings, List.mem_cons, List.not_mem_nil, or_false] at hs
  all_goals
    rcases hs with rfl | rfl | rfl <;> simp [special]

theorem passed_spelling {k : Symbol} {s : Text} (hs : s ∈ k.spellings) : Passed s :=
  passed_of_plain (plain_spelling hs)

/-! ## What stands behind an operand -/

/-- The text may follow an operand: the end, a closing parenthesis or a connective, and a gap in
front of a connective. -/
structure AfterOperand (rest : Text) : Prop where
  head : ∀ c ∈ rest.head?, isGap c = true ∨ c = .char ')'
  follows : mayFollowGroup rest = true

theorem afterOperand_gap {g : Text} (hg : IsGap g) : AfterOperand g := by
  constructor
  · intro c hc
    exact .inl (hg c (List.mem_of_mem_head? hc))
  · rw [mayFollowGroup, ← List.append_nil g, skipGap_append hg]
    rfl

theorem afterOperand_closing {g : Text} (hg : IsGap g) (rest : Text) :
    AfterOperand (g ++ .char ')' :: rest) := by
  constructor
  · intro c hc
    cases g with
    | nil => exact .inr (by simpa using hc.symm)
    | cons d g => exact .inl (hg c (by simp_all))
  · rw [mayFollowGroup, skipGap_append hg]
    rfl

theorem afterOperand_connective {k : Symbol} {g s rest : Text} (hg : IsGap g) (hne : g ≠ [])
    (hk : k = .and ∨ k = .or)
    (hs : s ∈ k.spellings) (hr : endsWord rest = true) : AfterOperand (g ++ (s ++ rest)) := by
  constructor
  · intro c hc
    cases g with
    | nil => exact absurd rfl hne
    | cons d g => exact .inl (hg c (by simp_all))
  · rw [mayFollowGroup, skipGap_append hg]
    rcases hk with rfl | rfl <;>
      simp only [Symbol.spellings, List.mem_cons, List.not_mem_nil, or_false] at hs <;>
      rcases hs with rfl | rfl | rfl <;>
      simp [skipGap, isGap, andLength?, orLength?, isWordOperator, startsWith, hr]

theorem AfterOperand.stops {rest : Text} (h : AfterOperand rest) : Stops rest := by
  intro c hc
  rcases h.head c hc with hg | hp
  · exact .inl (isBlank_of_isGap hg)
  · exact .inr hp

theorem comparatorAt?_eq_none {t : Text}
    (h : ∀ c ∈ t.head?, c ∉ [.char '=', .char '!', .char '<', .char '>']) : comparatorAt? t =
    none := by
  cases t with
  | nil => rfl
  | cons c t =>
    have hc := h c rfl
    simp only [List.mem_cons, List.not_mem_nil, or_false, not_or] at hc
    simp [comparatorAt?, Comparator.all, Comparator.symbol, startsWith, hc]

theorem AfterOperand.comparatorAt? {rest : Text} (h : AfterOperand rest) :
    comparatorAt? (skipGap rest) = none := by
  apply comparatorAt?_eq_none
  intro c hc hm
  have hf := h.follows
  rw [mayFollowGroup] at hf
  cases ht : skipGap rest with
  | nil => simp [ht] at hc
  | cons d t =>
    obtain rfl : d = c := by simpa [ht] using hc
    simp only [List.mem_cons, List.not_mem_nil, or_false] at hm
    rcases hm with rfl | rfl | rfl | rfl <;>
      simp [ht, andLength?, orLength?, isWordOperator, startsWith] at hf

end FileTags.Term

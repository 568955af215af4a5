import FileTags.Proofs.Term.Context
import FileTags.Proofs.Term.Rendering

/-!
# Texts and their tokens

A text is cut into tokens from left to right: what stands at its head is a token or belongs to a
gap. The offsets of the tokens do not depend on each other, so a text that is cut into some tokens
anywhere is cut into the same tokens everywhere, but for their offsets.
-/

set_option autoImplicit false

namespace FileTags.Term

open Text

inductive Cut : Nat → Nat → Text → List Token → Prop
  | nil (behind offset : Nat) : Cut behind offset [] []
  | gap {behind offset : Nat} {c : Rune} {t : Text} {ts : List Token} (hc : isGap c = true)
      (h : Cut behind (offset + 1) t ts) :
      Cut behind offset (c :: t) ts
  | token {behind offset : Nat} {x t : Text} {token : Token} {ts : List Token}
      (hx : TokenAt behind offset (x ++ t) token x.length)
        (h : Cut (offset + x.length) (offset + x.length) t ts) :
      Cut behind offset (x ++ t) (token :: ts)

inductive Lexed : Text → List Token → Prop
  | nil : Lexed [] []
  | gap {c : Rune} {t : Text} {ts : List Token} (hc : isGap c = true) (h : Lexed t ts) :
      Lexed (c :: t) ts
  | token {behind offset : Nat} {x t : Text} {token : Token} {ts : List Token}
      (hx : TokenAt behind offset (x ++ t) token x.length) (h : Lexed t ts) :
        Lexed (x ++ t) (token :: ts)

theorem Cut.lexed {behind offset : Nat} {t : Text} {ts : List Token} (h : Cut behind offset t ts) :
    Lexed t ts := by
  induction h with
  | nil => exact .nil
  | gap hc h ih => exact .gap hc ih
  | token hx h ih => exact .token hx ih

/-- The tokens of a text make a cut of it. By induction on the length, since a token is taken at
once. -/
theorem cut_of_tokensFrom {n : Nat} :
    ∀ {behind offset : Nat} {t : Text} {ts : List Token}, t.length ≤ n →
      tokensFrom behind offset 0 t = .ok ts → Cut behind offset t ts := by
  induction n with
  | zero =>
    intro behind offset t ts ht h
    obtain rfl := List.length_eq_zero_iff.mp (Nat.le_zero.mp ht)
    cases h
    exact .nil _ _
  | succ n ih =>
    intro behind offset t ts ht h
    cases t with
    | nil =>
      cases h
      exact .nil _ _
    | cons c t =>
      cases hc : isGap c with
      | true =>
        rw [tokensFrom, if_pos hc] at h
        exact .gap hc (ih (by simpa using ht) h)
      | false =>
        cases htoken : token? behind offset (c :: t) with
        | none => simp [tokensFrom, hc, htoken] at h
        | some p =>
          obtain ⟨token, k⟩ := p
          have hat := token?_eq_some_iff.mp htoken
          obtain ⟨x, s, hsplit, rfl, htext⟩ := hat.split
          obtain ⟨d, y, rfl, -⟩ := htext.head_not_gap
          rw [List.cons_append] at hsplit
          obtain ⟨rfl, rfl⟩ := List.cons_eq_cons.mp hsplit
          rw [tokensFrom_token (k := 0) hc htoken (Nat.zero_le _)] at h
          cases hts : tokensFrom (offset + (y.length + 1 + 0)) (offset + (y.length + 1)) 0 s with
          | error e => simp [hts, Except.map] at h
          | ok us =>
            obtain rfl : token :: us = ts := by simpa [hts, Except.map] using h
            simp only [List.length_cons, List.length_append] at ht
            have hcut := Cut.token (x := c :: y) (t := s) hat (ih (by omega) hts)
            simpa using hcut

def Token.unplaced : Token → Token
  | .symbol k _ => .symbol k 0
  | .operand e => .operand e.unplaced

theorem TokenAt.moved {behind offset n : Nat} {t : Text} {token : Token}
    (h : TokenAt behind offset t token n)
    (behind' offset' : Nat) : ∃ token', TokenAt behind' offset' t token' n ∧
    token'.unplaced = token.unplaced := by
  cases h with
  | opening h => exact ⟨_, .opening h, rfl⟩
  | closing ho h => exact ⟨_, .closing ho h, rfl⟩
  | not ho hc h => exact ⟨_, .not ho hc h, rfl⟩
  | and ho hc hn h => exact ⟨_, .and ho hc hn h, rfl⟩
  | or ho hc hn ha h => exact ⟨_, .or ho hc hn ha h, rfl⟩
  | bookmark ho hc hn ha hr h => exact ⟨_, .bookmark ho hc hn ha hr h, rfl⟩
  | comparison ho hc hn ha hr hb h =>
    obtain ⟨x, s, rfl, rfl, hbefore⟩ := comparison?_split h
    cases hbefore with
    | tag hp hg hs hn' =>
      exact ⟨_, .comparison ho hc hn ha hr hb (ComparisonBefore.tag hp hg hs hn').eq_some, rfl⟩
    | pair hp hg hop hg' hv =>
      exact ⟨_, .comparison ho hc hn ha hr hb (ComparisonBefore.pair hp hg hop hg' hv).eq_some, rfl⟩

theorem Lexed.tokensFrom {t : Text} {ts : List Token} (h : Lexed t ts) (behind offset : Nat) :
    ∃ us, tokensFrom behind offset 0 t = .ok us ∧
    us.map Token.unplaced = ts.map Token.unplaced := by
  induction h generalizing behind offset with
  | nil => exact ⟨[], rfl, rfl⟩
  | gap hc h ih =>
    obtain ⟨us, hus, heq⟩ := ih behind (offset + 1)
    exact ⟨us, by rw [FileTags.Term.tokensFrom, if_pos hc, hus], heq⟩
  | @token _ _ x t token ts hx h ih =>
    obtain ⟨token', hx', htoken⟩ := hx.moved behind offset
    obtain ⟨c, y, rfl, hc⟩ := hx'.text.head_not_gap
    obtain ⟨us, hus, heq⟩ := ih (offset + (y.length + 1)) (offset + (y.length + 1))
    have hfirst := tokensFrom_token (k := 0) hc (token?_eq_some_iff.mpr hx') (Nat.zero_le _)
    refine ⟨token' :: us, ?_, by simp [htoken, heq]⟩
    rw [List.cons_append, hfirst, Nat.add_zero, hus]
    rfl

theorem Lexed.tokens {t : Text} {ts : List Token} (h : Lexed t ts) :
    ∃ us, Term.tokens t = .ok us ∧ us.map Token.unplaced = ts.map Token.unplaced := by
  rw [tokens_eq_tokensFrom]
  exact h.tokensFrom _ _

end FileTags.Term

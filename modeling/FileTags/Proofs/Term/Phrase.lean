import FileTags.Proofs.Term.Operand

/-!
# Texts that read as phrases

A text reads as a phrase when it becomes tokens of that phrase wherever it stands in front of
something that may follow an operand, and when a group in front of it passes over it. Such texts are
put together as the grammar puts its phrases together: by parentheses, by a negation in front, and
by a connective between two of them.
-/

set_option autoImplicit false

namespace FileTags.Term

open Text

/-- Reading on from a text in front of another adds some tokens to those of the other. -/
def Yields (behind offset : Nat) (t rest : Text) (ts : List Token) (behind' : Nat) : Prop :=
  tokensFrom behind offset 0 (t ++ rest) =
    (tokensFrom behind' (offset + t.length) 0 rest).map (ts ++ ·)

theorem Yields.append {behind behind' behind'' offset : Nat} {t u rest : Text} {ts us : List Token}
    (ht : Yields behind offset t (u ++ rest) ts behind')
    (hu : Yields behind' (offset + t.length) u rest us behind'') :
    Yields behind offset (t ++ u) rest (ts ++ us) behind'' := by
  rw [Yields] at ht hu
  rw [Yields, List.append_assoc, ht, hu, List.length_append, Nat.add_assoc]
  cases tokensFrom behind'' (offset + (t.length + u.length)) 0 rest <;> simp [Except.map]

theorem yields_gap {g : Text} (hg : IsGap g) (behind offset : Nat) (rest : Text) :
    Yields behind offset g rest [] behind := by
  rw [Yields, tokensFrom_gap hg]
  cases tokensFrom behind (offset + g.length) 0 rest <;> rfl

theorem yields_token {behind offset k : Nat} {c : Rune} {s rest : Text} {token : Token}
    (hc : isGap c = false)
    (ht : token? behind offset (c :: (s ++ rest)) = some (token, s.length + 1 + k))
    (hk : k ≤ (rest.takeWhile isGap).length) :
    Yields behind offset (c :: s) rest [token] (offset + (s.length + 1 + k)) :=
  tokensFrom_token hc ht hk

theorem yields_operator {k : Symbol} {s rest : Text} (hs : s ∈ k.spellings)
    (hr : endsWord rest = true)
    (behind offset : Nat) : Yields behind offset s rest [.symbol k behind] (offset + s.length) := by
  obtain ⟨c, u, rfl, hc, -⟩ := spelling_head hs
  exact yields_token (k := 0) hc (token?_operator hs hr behind offset) (Nat.zero_le _)

structure Phrase (P : List Token → Prop) (t : Text) : Prop where
  passed : Passed t
  yields : ∀ {rest : Text}, AfterOperand rest →
    ∀ behind offset, ∃ ts behind', P ts ∧ Yields behind offset t rest ts behind'

variable {P Q : List Token → Prop} {t u g g' s : Text}

theorem Phrase.mono (h : Phrase P t) (hPQ : ∀ ts, P ts → Q ts) : Phrase Q t := by
  refine ⟨h.passed, fun hr behind offset => ?_⟩
  obtain ⟨ts, behind', hts, hy⟩ := h.yields hr behind offset
  exact ⟨ts, behind', hPQ ts hts, hy⟩

theorem endsWord_gap (hg : IsGap g) (hne : g ≠ []) (rest : Text) : endsWord (g ++ rest) = true := by
  cases g with
  | nil => exact absurd rfl hne
  | cons c g => simp [endsWord, isBlank_of_isGap (hg c (by simp))]

theorem phrase_tag (h : IsTag t) : Phrase (fun ts => ∃ n, ts = [.operand (.tag n t)]) t := by
  refine ⟨h.pattern.passed h.braces, fun {rest} hr behind offset => ?_⟩
  have htoken := h.token? hr.stops behind offset
  rw [h.pattern.comparison?_tag hr] at htoken
  obtain ⟨c, s, rfl, hc⟩ := h.pattern.eq_cons
  exact ⟨_, _, ⟨offset, rfl⟩, yields_token hc htoken (Nat.le_refl _)⟩

theorem phrase_comparison (ht : IsTag t) (hu : Verbatim u) (op : Comparator) (hg : IsGap g)
    (hne : g ≠ []) (hg' : IsGap g') (hne' : g' ≠ []) :
    Phrase (fun ts => ∃ n, ts = [.operand (.comparison n t op u)])
      (t ++ (g ++ (op.symbol ++ (g' ++ u)))) := by
  have hop : Passed op.symbol := passed_of_plain (by cases op <;> simp [Comparator.symbol, special])
  refine ⟨(ht.pattern.passed ht.braces).append ((passed_gap hg).append (hop.append
    ((passed_gap hg').append (hu.pattern.passed hu.braces)))), fun {rest} hr behind offset => ?_⟩
  have htoken := ht.token? (stops_gap hg hne (op.symbol ++ (g' ++ (u ++ rest)))) behind offset
  rw [ht.pattern.comparison?_pair hu.pattern op hg hne hg' hne' hr.stops] at htoken
  obtain ⟨c, s, rfl, hc⟩ := ht.pattern.eq_cons
  refine ⟨_, _, ⟨offset, rfl⟩, yields_token (k := 0) (s :=
    s ++ (g ++ (op.symbol ++ (g' ++ u)))) hc ?_ (Nat.zero_le _)⟩
  simpa using htoken

theorem phrase_bookmark {inside : Text} (hne : inside ≠ [])
    (h : ∀ c ∈ inside, c ≠ .char '\x7b' ∧ c ≠ .char '\x7d') :
    Phrase (fun ts => ∃ n, ts = [.operand (.bookmark n (strip inside))])
      (.char '\x7b' :: (inside ++ [.char '\x7d'])) := by
  refine ⟨passed_braces fun hm => (h _ hm).2 rfl, fun {rest} hr behind offset => ?_⟩
  have htoken := token?_bookmark hne h behind offset rest
  refine ⟨_, _, ⟨offset, rfl⟩, yields_token (k := 0) (s :=
    inside ++ [.char '\x7d']) (by decide) ?_ (Nat.zero_le _)⟩
  simpa using htoken

theorem Phrase.negated (h : Phrase P t) (hs : s ∈ Symbol.not.spellings) (hg : IsGap g)
    (hne : g ≠ []) :
    Phrase (fun us => ∃ n ts, us = .symbol .not n :: ts ∧ P ts) (s ++ (g ++ t)) := by
  refine ⟨(passed_spelling hs).append ((passed_gap hg).append h.passed),
    fun {rest} hr behind offset => ?_⟩
  have hend : endsWord ((g ++ t) ++ rest) = true := by
    rw [List.append_assoc]
    exact endsWord_gap hg hne _
  obtain ⟨ts, behind', hts, hy⟩ := h.yields hr (offset + s.length) (offset + s.length + g.length)
  exact ⟨_, behind', ⟨behind, ts, rfl, hts⟩,
    (yields_operator hs hend behind offset).append ((yields_gap hg _ _ (t ++ rest)).append hy)⟩

theorem Phrase.joined {k : Symbol} (h : Phrase P t) (hu : Phrase Q u) (hk : k = .and ∨ k = .or)
    (hs : s ∈ k.spellings) (hg : IsGap g) (hne : g ≠ []) (hg' : IsGap g') (hne' : g' ≠ []) :
    Phrase (fun vs => ∃ ts n us, vs = ts ++ .symbol k n :: us ∧ P ts ∧
      Q us) (t ++ (g ++ (s ++ (g' ++ u)))) := by
  constructor
  · exact h.passed.append
      ((passed_gap hg).append ((passed_spelling hs).append ((passed_gap hg').append hu.passed)))
  intro rest hr behind offset
  have hend : endsWord ((g' ++ u) ++ rest) = true := by
    rw [List.append_assoc]
    exact endsWord_gap hg' hne' _
  have hafter : AfterOperand ((g ++ (s ++ (g' ++ u))) ++ rest) := by
    simpa using afterOperand_connective hg hne hk hs hend
  obtain ⟨ts, b₁, hts, hy₁⟩ := h.yields hafter behind offset
  have hgap := yields_gap hg b₁ (offset + t.length) ((s ++ (g' ++ u)) ++ rest)
  have hop := yields_operator hs hend b₁ (offset + t.length + g.length)
  have hgap' :=
    yields_gap hg' (offset + t.length + g.length + s.length)
      (offset + t.length + g.length + s.length) (u ++ rest)
  obtain ⟨us, b₂, hus, hy₂⟩ := hu.yields hr (offset + t.length + g.length + s.length)
    (offset + t.length + g.length + s.length + g'.length)
  exact ⟨_, b₂, ⟨ts, b₁, us, rfl, hts, hus⟩,
    hy₁.append (hgap.append (hop.append (hgap'.append hy₂)))⟩

theorem Phrase.group (h : Phrase P t) (hg : IsGap g) (hg' : IsGap g') :
    Phrase (fun us => ∃ m ts n, us = .symbol .opening m :: ts ++ [.symbol .closing n] ∧ P ts)
      (.char '(' :: (g ++ (t ++ (g' ++ [.char ')'])))) := by
  have hinside : Passed (g ++ (t ++ g')) :=
    (passed_gap hg).append (h.passed.append (passed_gap hg'))
  constructor
  · simpa using hinside.group
  intro rest hr behind offset
  have hopen : Yields behind offset [.char '('] ((g ++ (t ++ (g' ++ [.char ')']))) ++ rest)
      [.symbol .opening offset] (offset + 1) := by
    refine yields_token (k := 0) (s := []) (by decide) ?_ (Nat.zero_le _)
    simpa using token?_opening hinside hr.follows behind offset
  have hafter : AfterOperand ((g' ++ [.char ')']) ++ rest) := by
    simpa using afterOperand_closing hg' rest
  have hgap := yields_gap hg (offset + 1) (offset + 1) ((t ++ (g' ++ [.char ')'])) ++ rest)
  obtain ⟨ts, b, hts, hy⟩ := h.yields hafter (offset + 1) (offset + 1 + g.length)
  have hgap' := yields_gap hg' b (offset + 1 + g.length + t.length) ([.char ')'] ++ rest)
  have hclose : Yields b (offset + 1 + g.length + t.length + g'.length) [.char ')'] rest
      [.symbol .closing (offset + 1 + g.length + t.length + g'.length)] _ :=
    yields_token (k := 0) (s := []) (by decide) (token?_closing _ _ _) (Nat.zero_le _)
  exact ⟨_, _, ⟨offset, ts, _, rfl, hts⟩,
    hopen.append (hgap.append (hy.append (hgap'.append hclose)))⟩

/-! ## Whole terms -/

theorem tokens_eq_tokensFrom (t : Text) :
    tokens t = tokensFrom (t.takeWhile isGap).length 0 0 t := by
  have hlead : IsGap (t.takeWhile isGap) := List.all_eq_true.mp List.all_takeWhile
  have hskip := tokensFrom_gap hlead (t.takeWhile isGap).length 0 (t.dropWhile isGap)
  have hdrop := @List.drop_left _ (t.takeWhile isGap) (t.dropWhile isGap)
  rw [List.takeWhile_append_dropWhile] at hskip hdrop
  rw [hskip, tokens, hdrop, Nat.zero_add]

/-- A term that is a phrase but for the gaps at its two ends becomes tokens of the phrase. -/
theorem Phrase.tokens {lead trail : Text} (h : Phrase P t) (hl : IsGap lead) (ht : IsGap trail) :
    ∃ ts, P ts ∧ tokens (lead ++ (t ++ trail)) = .ok ts := by
  rw [tokens_eq_tokensFrom]
  generalize (List.takeWhile isGap (lead ++ (t ++ trail))).length = behind
  have hafter : AfterOperand (trail ++ []) := by simpa using afterOperand_gap ht
  have hlead := yields_gap hl behind 0 ((t ++ trail) ++ [])
  obtain ⟨ts, behind', hts, hy⟩ := h.yields hafter behind (0 + lead.length)
  have htrail := yields_gap ht behind' (0 + lead.length + t.length) []
  have hall := hlead.append (hy.append htrail)
  rw [Yields] at hall
  refine ⟨ts, hts, ?_⟩
  simpa [tokensFrom, Except.map] using hall

end FileTags.Term

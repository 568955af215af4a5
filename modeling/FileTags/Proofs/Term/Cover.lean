import FileTags.Proofs.Term.Leaf
import FileTags.Proofs.Term.Lexed

/-!
# Tokens cover a term

A term is a gap and then pieces, each of them the text of a token and the gap behind it. Operands
and parentheses have the offsets where their texts begin, but an operator has that of the end of the
token before it, so that the gap between the two counts for the operator. As tokens come one behind
the other, their offsets increase, and a negation has a lower offset than whatever it negates.
-/

set_option autoImplicit false

namespace FileTags

inductive Expr.Part (f : Expr) : Expr → Prop
  | self : Part f f
  | not {n : Nat} {e : Expr} (h : Part f e) : Part f (.not n e)
  | and {n : Nat} {es : List Expr} {e : Expr} (he : e ∈ es) (h : Part f e) : Part f (.and n es)
  | or {n : Nat} {es : List Expr} {e : Expr} (he : e ∈ es) (h : Part f e) : Part f (.or n es)

namespace Term

open Text FileTags.Expr

/-! ## Pieces -/

inductive Token.IsWritten : Token → Text → Prop
  | opening (n : Nat) : IsWritten (.symbol .opening n) [.char '(']
  | closing (n : Nat) : IsWritten (.symbol .closing n) [.char ')']
  | operator {k : Symbol} {x : Text} (n : Nat) (hx : x ∈ k.spellings) : IsWritten (.symbol k n) x
  | tag {p : Text} (n : Nat) (hp : IsPattern p) : IsWritten (.operand (.tag n p)) p
  | comparison {p g g' v : Text} (n : Nat) (op : Comparator) (hp : IsPattern p) (hg : IsGap g)
      (hg' : IsGap g') (hv : IsPattern v) :
      IsWritten (.operand (.comparison n p op v)) (p ++ (g ++ (op.symbol ++ (g' ++ v))))
  | bookmark {inside : Text} (n : Nat) (h : IsInside inside) :
      IsWritten (.operand (.bookmark n (strip inside))) (.char '\x7b' :: (inside ++ [.char '\x7d']))

structure Piece where
  token : Token
  text : Text
  gap : Text

def written (ps : List Piece) : Text := ps.flatMap fun p => p.text ++ p.gap

@[simp] theorem written_nil : written [] = [] := rfl

@[simp] theorem written_cons (p : Piece) (ps : List Piece) :
    written (p :: ps) = p.text ++ p.gap ++ written ps := rfl

@[simp] theorem written_append (ps qs : List Piece) :
    written (ps ++ qs) = written ps ++ written qs := List.flatMap_append

def Token.operand? : Token → Option Expr
  | .symbol _ _ => none
  | .operand e => some e

def operandsOf (ps : List Piece) : List Expr := ps.filterMap fun p => p.token.operand?

theorem leavesOf_pieces {ps : List Piece} (h : ∀ token ∈ ps.map Piece.token, token.Bare) :
    leavesOf (ps.map Piece.token) = operandsOf ps := by
  induction ps with
  | nil => rfl
  | cons p ps ih =>
    obtain ⟨token, x, g⟩ := p
    rw [List.map_cons, List.forall_mem_cons] at h
    have hrest := ih h.2
    cases token with
    | symbol k n => exact hrest
    | operand e =>
      have hleaf : Expr.leaves e = [e] := IsLeaf.leaves h.1
      rw [List.map_cons, leavesOf, List.flatMap_cons, Token.leaves, hleaf, ← leavesOf, hrest]
      rfl

/-! ## Offsets -/

/-- The offset of a token that begins at an offset, where the token before it ends at `behind`. -/
def Token.placed (behind offset : Nat) : Token → Nat
  | .symbol .opening _ | .symbol .closing _ | .operand _ => offset
  | .symbol _ _ => behind

/-- How far the token of a piece reaches: a pattern alone takes the gap behind it along. -/
def Piece.reach (p : Piece) : Nat :=
  match p.token with
  | .operand (.tag _ _) => (p.text ++ p.gap).length
  | _ => p.text.length

theorem Piece.reach_le (p : Piece) : p.reach ≤ (p.text ++ p.gap).length := by
  have hle : p.text.length ≤ (p.text ++ p.gap).length := by simp
  rw [reach]
  split
  · exact Nat.le_refl _
  · exact hle

theorem Piece.reach_pos {p : Piece} (h : p.text ≠ []) : 0 < p.reach := by
  have hpos := List.length_pos_iff.mpr h
  rw [reach]
  split
  · exact Nat.lt_of_lt_of_le hpos (by simp)
  · exact hpos

/-- Pieces one behind the other from an offset on, where the token in front of them ends at the
first number. -/
inductive Laid : Nat → Nat → List Piece → Prop
  | nil (behind offset : Nat) : Laid behind offset []
  | cons {behind offset : Nat} {p : Piece} {ps : List Piece} (hw : p.token.IsWritten p.text)
      (hg : IsGap p.gap)
      (hp : p.token.start = p.token.placed behind offset)
      (h : Laid (offset + p.reach) (offset + (p.text ++ p.gap).length) ps) :
        Laid behind offset (p :: ps)

theorem TokenAt.start_eq {behind offset n : Nat} {t : Text} {token : Token}
    (h : TokenAt behind offset t token n) :
    token.start = token.placed behind offset := by
  cases h with
  | opening | closing | not | and | or | bookmark => rfl
  | comparison ho hc hn ha hr hb h =>
    obtain ⟨x, s, -, -, hbefore⟩ := comparison?_split h
    cases hbefore <;> rfl

theorem eq_nil_of_skipGap {g u : Text} (hg : IsGap g) (h : skipGap (g ++ u) = g ++ u) : g = [] := by
  rw [skipGap_append hg] at h
  have hlen := length_skipGap u
  rw [h, List.length_append] at hlen
  exact List.length_eq_zero_iff.mp (by omega)

theorem TokenText.exists_piece {offset : Nat} {g u x : Text} {token : Token}
    (h : TokenText offset (g ++ u) token x) (hg : IsGap g) :
    ∃ p : Piece, p.token = token ∧ p.text ++ p.gap = x ++ g ∧ token.IsWritten p.text ∧ IsGap p.gap ∧
    p.reach = x.length := by
  cases h with
  | opening n => exact ⟨⟨_, _, g⟩, rfl, rfl, .opening n, hg, rfl⟩
  | closing n => exact ⟨⟨_, _, g⟩, rfl, rfl, .closing n, hg, rfl⟩
  | operator n hx => exact ⟨⟨_, _, g⟩, rfl, rfl, .operator n hx, hg, rfl⟩
  | bookmark h => exact ⟨⟨_, _, g⟩, rfl, rfl, .bookmark offset h, hg, rfl⟩
  | comparison h =>
    cases h with
    | @tag p g' hp hg' hs hn =>
      -- The gap has been taken along already.
      obtain rfl := eq_nil_of_skipGap hg hs
      exact ⟨⟨_, p, g'⟩, rfl, (List.append_nil _).symm, .tag offset hp.isPattern, hg', rfl⟩
    | @pair p g₁ g₂ v op hp hg₁ hop hg₂ hv =>
      exact ⟨⟨_, _, g⟩, rfl, rfl, .comparison offset op hp.isPattern hg₁ hg₂ hv.isPattern, hg, rfl⟩

/-- A text that is cut into tokens is a gap and then pieces. -/
theorem Cut.laid {behind offset : Nat} {t : Text} {ts : List Token} (h : Cut behind offset t ts) :
    ∃ lead ps, t = lead ++ written ps ∧ IsGap lead ∧ ps.map Piece.token = ts ∧
    Laid behind (offset + lead.length) ps := by
  induction h with
  | nil behind offset => exact ⟨[], [], rfl, by simp [IsGap], rfl, .nil _ _⟩
  | @gap behind offset c t ts hc h ih =>
    obtain ⟨lead, ps, rfl, hlead, hps, hlaid⟩ := ih
    refine ⟨c :: lead, ps, rfl, List.forall_mem_cons.mpr ⟨hc, hlead⟩, hps, ?_⟩
    rwa [List.length_cons, Nat.add_comm lead.length, ← Nat.add_assoc]
  | @token behind offset x t token ts hx h ih =>
    obtain ⟨g, ps, rfl, hg, rfl, hlaid⟩ := ih
    obtain ⟨p, rfl, htext, hw, hgap, hreach⟩ := hx.text.exists_piece hg
    refine ⟨[], p :: ps, ?_, by simp [IsGap], rfl, .cons hw hgap hx.start_eq ?_⟩
    · rw [List.nil_append, written_cons, htext, List.append_assoc]
    · rwa [htext, hreach, List.length_append, List.length_nil, Nat.add_zero, ← Nat.add_assoc]

theorem Token.IsWritten.ne_nil {token : Token} {x : Text} (h : token.IsWritten x) : x ≠ [] := by
  cases h with
  | opening | closing | bookmark => simp
  | operator n hx =>
    obtain ⟨c, u, rfl, -, -⟩ := spelling_head hx
    simp
  | tag n hp => exact (isPattern_iff.mp hp).2.1
  | comparison n op hp => simp [(isPattern_iff.mp hp).2.1]

theorem Token.placed_bounds {behind offset : Nat} (h : behind ≤ offset) (token : Token) :
    behind ≤ token.placed behind offset ∧ token.placed behind offset ≤ offset := by
  match token with
  | .symbol .opening _ | .symbol .closing _ | .operand _ => exact ⟨h, Nat.le_refl _⟩
  | .symbol .not _ | .symbol .and _ | .symbol .or _ => exact ⟨Nat.le_refl _, h⟩

namespace Laid

variable {behind offset : Nat} {p : Piece} {before after ps : List Piece}

theorem isWritten (h : Laid behind offset ps) :
    ∀ p ∈ ps, p.token.IsWritten p.text ∧ IsGap p.gap := by
  induction h with
  | nil => exact fun _ hm => nomatch hm
  | cons hw hg hp h ih => exact List.forall_mem_cons.mpr ⟨⟨hw, hg⟩, ih⟩

theorem drop (h : Laid behind offset (before ++ ps)) :
    ∃ behind', Laid behind' (offset + (written before).length) ps := by
  induction before generalizing behind offset with
  | nil => exact ⟨behind, h⟩
  | cons p before ih =>
    cases h with
    | cons hw hg hp h =>
      obtain ⟨behind', hrest⟩ := ih h
      rw [Nat.add_assoc, ← List.length_append] at hrest
      exact ⟨behind', hrest⟩

/-- No token is placed in front of the end of the one before. -/
theorem le_start (h : Laid behind offset ps) (hle : behind ≤ offset) :
    ∀ p ∈ ps, behind ≤ p.token.start := by
  induction h with
  | nil => exact fun _ hm => nomatch hm
  | @cons behind offset p ps hw hg hp h ih =>
    refine List.forall_mem_cons.mpr ⟨hp ▸ (p.token.placed_bounds hle).1, fun q hq => ?_⟩
    have hq := ih (Nat.add_le_add_left p.reach_le offset) q hq
    omega

/-- What comes behind a piece is placed behind the head of its text. -/
theorem lt_start (h : Laid behind offset (p :: ps)) : ∀ q ∈ ps, offset < q.token.start := by
  cases h with
  | cons hw hg hp h =>
    intro q hq
    have hq := h.le_start (Nat.add_le_add_left p.reach_le offset) q hq
    have hpos := Piece.reach_pos hw.ne_nil
    omega

theorem increasing (h : Laid behind offset ps) (hle : behind ≤ offset) :
    ps.Pairwise fun p q => p.token.start < q.token.start := by
  induction h with
  | nil => exact .nil
  | @cons behind offset p ps hw hg hp h ih =>
    refine List.pairwise_cons.mpr ⟨fun q hq => ?_, ih (Nat.add_le_add_left p.reach_le offset)⟩
    have hfirst := (p.token.placed_bounds hle).2
    rw [← hp] at hfirst
    exact Nat.lt_of_le_of_lt hfirst (lt_start (.cons hw hg hp h) q hq)

theorem start_eq (h : Laid behind offset (before ++ p :: after)) {e : Expr}
    (hp : p.token = .operand e) :
    e.start = offset + (written before).length := by
  obtain ⟨behind', h⟩ := h.drop
  cases h with
  | cons hw hg hstart =>
    rw [hp] at hstart
    exact hstart

end Laid

def lastGap (ps : List Piece) : Text := (ps.getLast?.map Piece.gap).getD []

/-- A negation behind a token that is no operand is placed where that token ends. -/
theorem Laid.not_start {offset n : Nat} {p : Piece} {before after : List Piece}
    (h : Laid offset offset (before ++ p :: after)) (hp : p.token = .symbol .not n)
    (hlast : ∀ e, (before.map Piece.token).getLast? ≠ some (.operand e)) :
    n + (lastGap before).length = offset + (written before).length := by
  rcases List.eq_nil_or_concat before with rfl | ⟨before, q, rfl⟩
  · cases h with
    | cons hw hg hstart =>
      rw [hp] at hstart
      exact hstart
  · rw [List.concat_eq_append, List.append_assoc] at h
    obtain ⟨behind, h⟩ := h.drop
    cases h with
    | cons _ _ _ h =>
      cases h with
      | cons hw hg hstart =>
        rw [hp] at hstart
        have hreach : q.reach = q.text.length := by
          rw [Piece.reach]
          split
          · next m pattern heq => exact absurd (by simp [heq]) (hlast (.tag m pattern))
          · rfl
        have hn : n = offset + (written before).length + q.text.length := hreach ▸ hstart
        simp [lastGap, hn]
        omega

/-! ## Negations -/

/-- Among tokens is one that negates an expression: it follows no operand, and the tokens of the
expression follow it. -/
def Negates (n : Nat) (f : Expr) (ts : List Token) : Prop :=
  ∃ before us after, ts = before ++ .symbol .not n :: (us ++ after) ∧ Unary us f ∧
    ∀ e, before.getLast? ≠ some (.operand e)

section

variable {n : Nat} {f : Expr}

theorem Negates.append {ts : List Token} (h : Negates n f ts) (us : List Token) :
    Negates n f (ts ++ us) := by
  obtain ⟨before, vs, after, rfl, hu, hlast⟩ := h
  exact ⟨before, vs, after ++ us, by simp, hu, hlast⟩

theorem Negates.behind {ts : List Token} (h : Negates n f ts) (us : List Token) (k : Symbol)
    (m : Nat) :
    Negates n f (us ++ .symbol k m :: ts) := by
  obtain ⟨before, vs, after, rfl, hu, hlast⟩ := h
  refine ⟨us ++ .symbol k m :: before, vs, after, by simp, hu, fun e => ?_⟩
  rw [List.getLast?_append, List.getLast?_cons, Option.some_or]
  cases hbefore : before.getLast? with
  | none => simp
  | some t =>
    rw [hbefore] at hlast
    exact hlast e

theorem not_part_leaf {e : Expr} (he : e.IsLeaf) : ¬ Part (.not n f) e := by
  rintro (_ | _ | _ | _) <;> exact he

mutual

theorem Primary.negates {ts : List Token} {e : Expr} :
    Primary ts e → (∀ t ∈ ts, t.Bare) → Part (.not n f) e → Negates n f ts
  | .leaf e, hb, hp => absurd hp (not_part_leaf (hb (.operand e) (by simp)))
  | .group m k h, hb, hp =>
    ((h.negates (fun t ht => hb t (by simp [ht])) hp).behind [] .opening m).append
    [.symbol .closing k]

theorem Unary.negates {ts : List Token} {e : Expr} :
    Unary ts e → (∀ t ∈ ts, t.Bare) → Part (.not n f) e → Negates n f ts
  | .primary h, hb, hp => h.negates hb hp
  | .not _ h, _, .self => ⟨[], _, [], by simp, h, by simp⟩
  | .not m h, hb, .not hp => (h.negates (fun t ht => hb t (by simp [ht])) hp).behind [] .not m

theorem Conjuncts.negates {ts : List Token} {es : List Expr} :
    Conjuncts ts es → (∀ t ∈ ts, t.Bare) → ∀ e ∈ es, Part (.not n f) e → Negates n f ts
  | .one h, hb, e, he, hp => h.negates hb (List.mem_singleton.mp he ▸ hp)
  | .more m h hu, hb, e, he, hp => by
    rcases List.mem_append.mp he with he | he
    · exact (h.negates (fun t ht => hb t (by simp [ht])) e he hp).append _
    · exact (hu.negates (fun t ht => hb t (by simp [ht])) (List.mem_singleton.mp he ▸ hp)).behind
        _ .and m

theorem Conjunction.negates {ts : List Token} {e : Expr} :
    Conjunction ts e → (∀ t ∈ ts, t.Bare) → Part (.not n f) e → Negates n f ts
  | .single h, hb, hp => h.negates hb _ (by simp) hp
  | .chain h, hb, .and he hp => h.negates hb _ he hp

theorem Disjuncts.negates {ts : List Token} {es : List Expr} :
    Disjuncts ts es → (∀ t ∈ ts, t.Bare) → ∀ e ∈ es, Part (.not n f) e → Negates n f ts
  | .one h, hb, e, he, hp => h.negates hb (List.mem_singleton.mp he ▸ hp)
  | .more m h hu, hb, e, he, hp => by
    rcases List.mem_append.mp he with he | he
    · exact (h.negates (fun t ht => hb t (by simp [ht])) e he hp).append _
    · exact (hu.negates (fun t ht => hb t (by simp [ht])) (List.mem_singleton.mp he ▸ hp)).behind _
        .or m

theorem Disjunction.negates {ts : List Token} {e : Expr} :
    Disjunction ts e → (∀ t ∈ ts, t.Bare) → Part (.not n f) e → Negates n f ts
  | .single h, hb, hp => h.negates hb _ (by simp) hp
  | .chain h, hb, .or he hp => h.negates hb _ he hp

end

end

/-! ## Terms -/

/-- A negation at an offset, between some pieces in front of it and the pieces of what it negates.
It starts where the token before its word ends; the word itself stands in front of every leaf and of
every negation that comes next. -/
structure NegatedAt (lead : Text) (before : List Piece) (p : Piece) (inner : List Piece) (n : Nat)
    (f : Expr) : Prop where
  word : p.token = .symbol .not n
  start : n + (lastGap before).length = (lead ++ written before).length
  leaves : f.leaves = operandsOf inner
  lt_leaf : ∀ leaf ∈ f.leaves, (lead ++ written before).length < leaf.start
  lt_not : ∀ m g, f = .not m g → (lead ++ written before).length < m

/-- The pieces of a term and the gap in front of them, and how they make the expression that the
term is read as. -/
structure Cover (term : Text) (e : Expr) (lead : Text) (ps : List Piece) : Prop where
  no_tab : .char '\t' ∉ expandTabs term
  text : expandTabs term = lead ++ written ps
  lead_gap : IsGap lead
  is_written : ∀ p ∈ ps, p.token.IsWritten p.text ∧ IsGap p.gap
  tokens_eq : tokens (expandTabs term) = .ok (ps.map Piece.token)
  leaves : e.leaves = operandsOf ps
  start : ∀ before p after leaf, ps = before ++ p :: after → p.token = .operand leaf →
    leaf.start = (lead ++ written before).length
  increasing : (e.leaves.map Expr.start).Pairwise (· < ·)
  negation : ∀ n f, Part (.not n f) e →
    ∃ before p inner after, ps = before ++ p :: (inner ++ after) ∧ NegatedAt lead before p inner n f

theorem exists_laid {t : Text} {ts : List Token} (h : tokens t = .ok ts) :
    ∃ lead ps, t = lead ++ written ps ∧ IsGap lead ∧ ps.map Piece.token = ts ∧
    Laid lead.length lead.length ps := by
  have hlead : IsGap (t.takeWhile isGap) := List.all_eq_true.mp List.all_takeWhile
  have ht : t.takeWhile isGap ++ skipGap t = t := List.takeWhile_append_dropWhile
  have hdrop := @List.drop_left _ (t.takeWhile isGap) (skipGap t)
  rw [ht] at hdrop
  have hcut : tokensFrom (t.takeWhile isGap).length (t.takeWhile isGap).length 0
      (t.drop (t.takeWhile isGap).length) = .ok ts := h
  rw [hdrop] at hcut
  obtain ⟨g, ps, hskip, hg, hps, hlaid⟩ := (cut_of_tokensFrom (Nat.le_refl _) hcut).laid
  -- No gap is left behind the one in front.
  obtain rfl : g = [] := eq_nil_of_skipGap hg (hskip ▸ skipGap_skipGap t)
  exact ⟨t.takeWhile isGap, ps, ht.symm.trans (congrArg _ hskip), hlead, hps, hlaid⟩

theorem mem_operandsOf {ps : List Piece} {leaf : Expr} :
    leaf ∈ operandsOf ps ↔ ∃ p ∈ ps, p.token = .operand leaf := by
  have hoperand : ∀ token : Token, token.operand? = some leaf ↔ token = .operand leaf := by
    intro token
    cases token <;> simp [Token.operand?]
  simp [operandsOf, hoperand]

theorem Laid.increasing_operands {behind offset : Nat} {ps : List Piece} (h : Laid behind offset ps)
    (hle : behind ≤ offset) :
    ((operandsOf ps).map Expr.start).Pairwise (· < ·) := by
  have hstart : ∀ (p : Piece) (e : Expr), p.token.operand? = some e → p.token.start = e.start := by
    rintro ⟨token, x, g⟩ e he
    cases token with
    | symbol => cases he
    | operand f => exact congrArg Expr.start (Option.some.inj he)
  rw [List.pairwise_map]
  refine (h.increasing hle).filterMap _ fun p q hpq e he f hf => ?_
  rwa [← hstart p e he, ← hstart q f hf]

theorem Negates.negatedAt {lead : Text} {ps : List Piece} {n : Nat} {f : Expr}
    (h : Negates n f (ps.map Piece.token))
    (hlaid : Laid lead.length lead.length ps) (hb : ∀ token ∈ ps.map Piece.token, token.Bare) :
    ∃ before p inner after, ps = before ++ p :: (inner ++ after) ∧
    NegatedAt lead before p inner n f := by
  obtain ⟨ts, us, vs, hts, hu, hlast⟩ := h
  obtain ⟨before, rest, rfl, rfl, hrest⟩ := List.map_eq_append_iff.mp hts
  obtain ⟨p, rest, rfl, hp, hrest⟩ := List.map_eq_cons_iff.mp hrest
  obtain ⟨inner, after, rfl, rfl, rfl⟩ := List.map_eq_append_iff.mp hrest
  have hbare : ∀ token ∈ inner.map Piece.token, token.Bare :=
    fun token ht => hb token (by simp [List.mem_map.mp ht])
  have hleaves : f.leaves = operandsOf inner := hu.leaves.trans (leavesOf_pieces hbare)
  have hbehind : ∀ q ∈ inner, (lead ++ written before).length < q.token.start := by
    obtain ⟨behind, hrest⟩ := hlaid.drop
    rw [List.length_append]
    exact fun q hq => hrest.lt_start q (List.mem_append_left _ hq)
  refine ⟨before, p, inner, after, rfl, hp, ?_, hleaves, fun leaf hleaf => ?_, ?_⟩
  · rw [List.length_append]
    exact hlaid.not_start hp hlast
  · obtain ⟨q, hq, hoperand⟩ := mem_operandsOf.mp (hleaves ▸ hleaf)
    simpa [hoperand, Token.start] using hbehind q hq
  · rintro m g rfl
    obtain ⟨ws, xs, ys, hinner, -⟩ := hu.negates hbare .self
    have hmem : Token.symbol .not m ∈ inner.map Piece.token := hinner ▸ by simp
    obtain ⟨q, hq, hword⟩ := List.mem_map.mp hmem
    simpa [hword, Token.start] using hbehind q hq

/-- The tokens of a term cover it, and the expression has their offsets: each leaf that of its text,
and each negation that of the end of the token before its word. -/
theorem ofTerm_cover {term : Text} {e : Expr} (h : Expr.ofTerm term = .ok e) :
    ∃ lead ps, Cover term e lead ps := by
  obtain ⟨ts, hts, hd⟩ := ofTerm_eq_ok_iff.mp h
  have hb := bare_tokensFrom hts
  obtain ⟨lead, ps, htext, hlead, rfl, hlaid⟩ := exists_laid hts
  have hleaves : e.leaves = operandsOf ps := hd.leaves.trans (leavesOf_pieces hb)
  refine ⟨lead, ps, no_tab_expandTabsFrom term 0, htext, hlead, hlaid.isWritten, hts, hleaves, ?_,
    ?_, ?_⟩
  · rintro before p after leaf rfl hp
    rw [List.length_append]
    exact hlaid.start_eq hp
  · rw [hleaves]
    exact hlaid.increasing_operands (Nat.le_refl _)
  · exact fun n f hp => (hd.negates hb hp).negatedAt hlaid hb

theorem ofTerm_cover_negations :
    let term := Text.ofString "\n!(\t p <\r(a|b)) AND  not ! \x7b m \x7d "
    let e : Expr :=
      .and 1 [.not 1 (.comparison 10 [.char 'p'] .less (Text.ofString "(a|b)")),
        .not 24 (.not 29 (.bookmark 32 [.char 'm']))]
    Expr.ofTerm term = .ok e ∧ ∃ lead ps, Cover term e lead ps := by
  intro term e
  have h : Expr.ofTerm term = .ok e := by rfl
  exact ⟨h, ofTerm_cover h⟩

/-- A negation need not start at its word. -/
theorem not_offset_of_word : ¬ ∀ term e n f, Expr.ofTerm term = .ok e → Part (.not n f) e →
    ∃ w ∈ Symbol.not.spellings, startsWith ((expandTabs term).drop n) w = true := by
  intro h
  have hread : Expr.ofTerm (Text.ofString "a AND NOT b") =
      .ok (.and 0 [.tag 0 [.char 'a'], .not 5 (.tag 10 [.char 'b'])]) := by rfl
  obtain ⟨w, hw, hstarts⟩ := h _ _ 5 (.tag 10 [.char 'b']) hread (.and (by simp) .self)
  revert w
  decide

end Term

end FileTags

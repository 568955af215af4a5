import FileTags.Proofs.Term.Levels
import FileTags.Proofs.Term.Lexed

/-!
# Parentheses in pairs

Two scans pair the parentheses of a term. The look-ahead of a group counts characters and knows
nothing of tokens; the stack of levels takes tokens and knows nothing of the text. Where a term has
an expression and the braces in its patterns close, both pair each opening token with the same
closing one, and what the look-ahead counts inside of a pattern is paired in the pattern.
-/

set_option autoImplicit false

namespace FileTags

namespace Term

open Text

/-! ## Pairs in the text -/

/-- A token of a text stands behind the text of the ones in front of it. -/
theorem Cut.token_at {behind offset : Nat} {t : Text} {us ts : List Token} {token : Token}
    (h : Cut behind offset t (us ++ token :: ts)) :
    ∃ a x s behind' n, t = a ++ (x ++ s) ∧ n = offset + a.length ∧
      TokenAt behind' n (x ++ s) token x.length ∧ Cut (n + x.length) (n + x.length) s ts := by
  generalize hts : us ++ token :: ts = vs at h
  induction h generalizing us with
  | nil => simp at hts
  | @gap behind offset c t vs hc h ih =>
    obtain ⟨a, x, s, behind', n, rfl, hn, hx⟩ := ih hts
    exact ⟨c :: a, x, s, behind', n, rfl, by rw [List.length_cons]; omega, hx⟩
  | @token behind offset y t first vs hy h ih =>
    cases us with
    | nil =>
      obtain ⟨rfl, rfl⟩ := List.cons_eq_cons.mp hts
      exact ⟨[], y, t, behind, offset, rfl, rfl, hy, h⟩
    | cons u us =>
      obtain ⟨-, hvs⟩ := List.cons_eq_cons.mp hts
      obtain ⟨a, x, s, behind', n, rfl, hn, hx⟩ := ih hvs
      exact ⟨y ++ a, x, s, behind', n, by simp, by rw [List.length_append]; omega, hx⟩

/-- Over tokens that do not end the group the look-ahead comes to the closing one that does. -/
theorem Cut.closeDistance {behind offset n : Nat} {t : Text} {vs ws : List Token}
    (h : Cut behind offset t (vs ++ .symbol .closing n :: ws))
    (hb : ∀ token ∈ vs, token.BracesClose) {depth : Int}
    (hd : ∀ ps qs, vs = ps ++ qs → 1 ≤ depth + height ps) (hlast : depth + height vs = 1) :
    ∃ a s, t = a ++ .char ')' :: s ∧ offset + a.length = n ∧
    closeDistance? depth 0 t = some a.length := by
  generalize hts : vs ++ .symbol .closing n :: ws = ts at h
  induction h generalizing vs depth with
  | nil => simp at hts
  | @gap behind offset c t ts hc h ih =>
    obtain ⟨a, s, rfl, hn, hclose⟩ := ih hb hd hlast hts
    have hgap :=
      passed_gap (g :=
        [c]) (by simpa [IsGap] using hc) depth (a ++ .char ')' :: s) (by simpa using hd [] vs rfl)
    refine ⟨c :: a, s, rfl, by rw [List.length_cons]; omega, ?_⟩
    simpa [hclose] using hgap
  | @token behind offset x t token ts hx h ih =>
    cases vs with
    | nil =>
      obtain ⟨rfl, rfl⟩ := List.cons_eq_cons.mp hts
      rw [height_nil, Int.add_zero] at hlast
      subst hlast
      have htext := hx.text
      generalize x.length = k at hx
      cases hx
      cases htext with
      | operator _ hx => cases hx
      | closing => exact ⟨[], t, rfl, rfl, rfl⟩
    | cons v vs =>
      obtain ⟨rfl, hvs⟩ := List.cons_eq_cons.mp hts
      have hnext : ∀ ps qs, vs = ps ++ qs → 1 ≤ depth + v.rise + height ps := by
        intro ps qs hps
        have := hd (v :: ps) qs (by rw [hps, List.cons_append])
        rw [height_cons] at this
        omega
      rw [height_cons] at hlast
      obtain ⟨a, s, rfl, hn, hclose⟩ :=
        ih (fun token hm => hb token (List.mem_cons_of_mem v hm)) hnext (by omega) hvs
      have hfirst :=
        hx.text.closeDistance (hb v List.mem_cons_self) (by simpa using hd [] (v :: vs) rfl)
        (by simpa using hnext [] vs rfl) (a ++ .char ')' :: s)
      refine ⟨x ++ a, s, by simp, by rw [List.length_append]; omega, ?_⟩
      rw [hfirst, hclose, Option.map_some, List.length_append, Nat.add_comm]

theorem groupClose?_zero (t : Text) : groupClose? t 0 = closeDistance? 0 0 t := by
  rw [groupClose?, List.drop_zero]
  cases closeDistance? 0 0 t <;> rfl

theorem mayFollowGroup_iff {t : Text} : mayFollowGroup t = true ↔
    skipGap t = [] ∨ (skipGap t).head? = some (.char ')') ∨ (andLength? (skipGap t)).isSome ∨
    (orLength? (skipGap t)).isSome := by
  rw [mayFollowGroup]
  cases h : skipGap t with
  | nil => simp
  | cons c u =>
    by_cases hc : c = .char ')'
    · simp [hc]
    · simp [hc]

/-- The look-ahead from the text of an opening token ends at the text of the closing one, and the
text behind may follow a group. -/
theorem Cut.groupClose {behind o n : Nat} {t : Text} {us vs ws : List Token}
    (h : Cut behind 0 t (us ++ .symbol .opening o :: (vs ++ .symbol .closing n :: ws)))
    (hb : ∀ token ∈ vs, token.BracesClose)
    (hvs : Balanced vs) : groupClose? t o = some n ∧ t[o]? = some (.char '(') ∧
    t[n]? = some (.char ')') ∧ mayFollowGroup (t.drop (n + 1)) = true := by
  obtain ⟨a, x, s, behind', m, rfl, hm, hx, hs⟩ := h.token_at
  rw [Nat.zero_add] at hm
  have htext := hx.text
  generalize x.length = k at hx hs
  cases hx with
  | opening hopens =>
    cases htext with
    | operator _ hx => cases hx
    | opening =>
      have hdepth : ∀ ps qs, vs = ps ++ qs → (1 : Int) ≤ 1 + height ps := fun ps qs hps => by
        have := hvs.2 ps qs hps
        omega
      obtain ⟨b, s, rfl, rfl, hclose⟩ := hs.closeDistance hb hdepth (by rw [hvs.1]; rfl)
      have hfound : closeDistance? 0 0 (.char '(' :: (b ++ .char ')' :: s)) =
          some (b.length + 1) := by
        rw [closeDistance?_opening, show (0 : Int) + 1 = 1 from rfl, hclose, Option.map_some]
      have hfollow : mayFollowGroup s = true := by
        simpa [opensGroup, startsWith, groupClose?, hfound] using hopens
      have hsplit : a ++ ([.char '('] ++ (b ++ .char ')' :: s)) =
          (a ++ .char '(' :: b) ++ .char ')' :: s := by simp
      have hlen : o + 1 + b.length = (a ++ .char '(' :: b).length := by
        rw [List.length_append, List.length_cons]
        omega
      refine ⟨?_, ?_, ?_, ?_⟩
      · rw [groupClose?, hm, List.drop_left, List.singleton_append, hfound, Option.map_some]
        congr 1
        omega
      · rw [hm, List.getElem?_append_right le_rfl, Nat.sub_self]
        rfl
      · rw [hlen, hsplit, List.getElem?_append_right le_rfl, Nat.sub_self]
        rfl
      · rw [hlen, hsplit, ← List.drop_drop, List.drop_left]
        exact hfollow

/-! ## Parentheses that the look-ahead counts -/

/-- The offsets of the opening parentheses that the look-ahead of a group counts on its way over a
text. The second number says how many characters belong to what has been read already. -/
def countedFrom : Nat → Nat → Text → List Nat
  | _, _, [] => []
  | offset, pending + 1, _ :: rest => countedFrom (offset + 1) pending rest
  | offset, 0, c :: rest =>
    if c = .char '\\' then countedFrom (offset + 1) 1 rest
    else if c = .char '[' then countedFrom (offset + 1) (((classLength? rest).getD 1) - 1) rest
    else if c = .char '\x7b'
      then countedFrom (offset + 1) (((rest.findIdx? (· == .char '\x7d')).map (· + 1)).getD 0) rest
    else if c = .char '(' then offset :: countedFrom (offset + 1) 0 rest
    else countedFrom (offset + 1) 0 rest

theorem countedFrom_skip (offset : Nat) (u rest : Text) :
    countedFrom offset u.length (u ++ rest) = countedFrom (offset + u.length) 0 rest := by
  induction u generalizing offset with
  | nil => rfl
  | cons c u ih =>
    rw [List.length_cons, List.cons_append, countedFrom, ih, Nat.add_assoc, Nat.add_comm 1]

def Bare (u : Text) : Prop :=
  ∀ offset rest, countedFrom offset 0 (u ++ rest) = countedFrom (offset + u.length) 0 rest

theorem bare_escape (c : Rune) : Bare [.char '\\', c] := by
  intro offset rest
  rw [List.cons_append, countedFrom, if_pos rfl]
  exact countedFrom_skip (offset + 1) [c] rest

theorem bare_class {b : Text} (hb : IsClassRest b) : Bare (.char '[' :: b) := by
  intro offset rest
  rw [List.cons_append, countedFrom, if_neg (by decide), if_pos rfl, hb rest, Option.getD_some,
    Nat.add_sub_cancel, countedFrom_skip,
    List.length_cons, Nat.add_assoc, Nat.add_comm 1]

theorem bare_braces {inside : Text} (h : .char '\x7d' ∉ inside) :
    Bare (.char '\x7b' :: (inside ++ [.char '\x7d'])) := by
  intro offset rest
  have hskip := countedFrom_skip (offset + 1) (inside ++ [.char '\x7d']) rest
  simp only [List.length_append, List.length_singleton, List.append_assoc, List.singleton_append]
    at hskip
  rw [List.cons_append, List.append_assoc, List.singleton_append, countedFrom, if_neg (by decide),
    if_neg (by decide), if_pos rfl,
    findIdx?_close h, Option.map_some, Option.getD_some, hskip, List.length_cons,
      List.length_append, List.length_singleton,
    Nat.add_assoc, Nat.add_comm 1]

theorem bare_of_plain {u : Text} (h : ∀ c ∈ u, c ∉ .char '\x7b' :: special) : Bare u := by
  intro offset rest
  induction u generalizing offset with
  | nil => rfl
  | cons c u ih =>
    have hc := h c (by simp)
    simp only [special, List.mem_cons, List.not_mem_nil, or_false, not_or] at hc
    rw [List.cons_append, countedFrom, if_neg hc.2.1, if_neg hc.2.2.1, if_neg hc.1,
      if_neg hc.2.2.2.1,
      ih fun d hd => h d (by simp [hd]), List.length_cons, Nat.add_assoc, Nat.add_comm 1]

/-- The look-ahead from a place of a text that begins at an offset finds a closing parenthesis
before `stop`. -/
def ClosesBefore (offset : Nat) (t : Text) (stop place : Nat) : Prop :=
  ∃ u v k, t = u ++ v ∧ place = offset + u.length ∧ closeDistance? 0 0 v = some k ∧ place + k < stop

section closes

variable {offset stop place : Nat} {t x y : Text}

theorem ClosesBefore.le (h : ClosesBefore offset t stop place) : offset ≤ place := by
  obtain ⟨u, v, k, -, rfl, -⟩ := h
  exact Nat.le_add_right _ _

theorem ClosesBefore.behind (h : ClosesBefore (offset + x.length) t stop place) :
    ClosesBefore offset (x ++ t) stop place := by
  obtain ⟨u, v, k, rfl, hplace, hclose, hstop⟩ := h
  exact ⟨x ++ u, v, k, by simp, by rw [hplace, List.length_append, Nat.add_assoc], hclose, hstop⟩

theorem ClosesBefore.mono {stop' : Nat} (h : ClosesBefore offset t stop place)
    (hle : stop ≤ stop') : ClosesBefore offset t stop' place := by
  obtain ⟨u, v, k, ht, hplace, hclose, hstop⟩ := h
  exact ⟨u, v, k, ht, hplace, hclose, Nat.lt_of_lt_of_le hstop hle⟩

def Paired (x : Text) : Prop :=
  ∀ offset rest, ∃ ps, countedFrom offset 0 (x ++ rest) =
    ps ++ countedFrom (offset + x.length) 0 rest ∧
  ∀ p ∈ ps, ClosesBefore offset (x ++ rest) (offset + x.length) p

theorem Bare.append {u : Text} (hu : Bare u) (hx : Paired x) : Paired (u ++ x) := by
  intro offset rest
  obtain ⟨ps, hps, hclose⟩ := hx (offset + u.length) rest
  rw [List.append_assoc, hu, List.length_append, ← Nat.add_assoc]
  exact ⟨ps, hps, fun p hp => (hclose p hp).behind⟩

theorem Paired.append (hx : Paired x) (hy : Paired y) : Paired (x ++ y) := by
  intro offset rest
  obtain ⟨ps, hps, hx⟩ := hx offset (y ++ rest)
  obtain ⟨qs, hqs, hy⟩ := hy (offset + x.length) rest
  rw [List.append_assoc, hps, hqs, List.length_append, ← Nat.add_assoc]
  refine ⟨ps ++ qs, by simp, fun p hp => ?_⟩
  rcases List.mem_append.mp hp with hp | hp
  · exact (hx p hp).mono (Nat.le_add_right _ _)
  · exact (hy p hp).behind

/-- What is counted in a part of a text is closed in the part. -/
theorem Paired.inside (hy : Paired y) (offset : Nat) (front back : Text) : ∃ ps,
    countedFrom (offset + front.length) 0 (y ++ back) =
      ps ++ countedFrom (offset + front.length + y.length) 0 back ∧
      ∀ p ∈ ps, offset + front.length ≤ p ∧
      ClosesBefore offset (front ++ (y ++ back)) (offset + front.length + y.length) p := by
  obtain ⟨ps, hps, hclose⟩ := hy (offset + front.length) back
  exact ⟨ps, hps, fun p hp => ⟨(hclose p hp).le, (hclose p hp).behind⟩⟩

theorem Paired.group (hx : Paired x) (hpass : Passed x) :
    Paired (.char '(' :: (x ++ [.char ')'])) := by
  intro offset rest
  obtain ⟨ps, hps, hx⟩ := hx (offset + 1) (.char ')' :: rest)
  have hcounted : countedFrom offset 0 (.char '(' :: (x ++ .char ')' :: rest)) =
      (offset :: ps) ++ countedFrom (offset + (x.length + 2)) 0 rest := by
    have hopening : countedFrom offset 0 (.char '(' :: (x ++ .char ')' :: rest)) =
        offset :: countedFrom (offset + 1) 0 (x ++ .char ')' :: rest) := rfl
    have hclosing : countedFrom (offset + 1 + x.length) 0 (.char ')' :: rest) =
        countedFrom (offset + (x.length + 2)) 0 rest := by
      rw [show offset + (x.length + 2) = offset + 1 + x.length + 1 by omega]
      rfl
    rw [hopening, hps, hclosing, List.cons_append]
  have hsplit : .char '(' :: (x ++ [.char ')']) ++ rest = [.char '('] ++ (x ++ .char ')' :: rest) :=
    by simp
  have hlen : (.char '(' :: (x ++ [.char ')'])).length = x.length + 2 := by simp
  rw [hlen, hsplit]
  refine ⟨offset :: ps, hcounted, fun p hp => ?_⟩
  rcases List.mem_cons.mp hp with rfl | hp
  · refine ⟨[], _, x.length + 1, rfl, rfl, ?_, by omega⟩
    have hclose := hpass.groupClose rest
    rwa [groupClose?_zero] at hclose
  · exact ((hx p hp).mono (by omega)).behind

theorem Nested.paired (h : Nested x) : Paired x := by
  induction h with
  | nil => exact fun offset rest => ⟨[], rfl, by simp⟩
  | escape c _ ih => exact (bare_escape c).append ih
  | cls hb _ ih => exact (bare_class hb).append ih
  | braces hi _ ih => simpa using (bare_braces hi).append ih
  | group ht _ iht ihu => simpa using (iht.group ht.passed).append ihu
  | @plain c t hc _ ih => exact (bare_of_plain (u := [c]) (by simpa using hc)).append ih

end closes

/-! ## Patterns in the text -/

end Term

/-- Between two texts, the text of an operand has one of its patterns: that of the tag at its front,
or that of the value at its end. -/
def Expr.HasPattern (front y back : Text) : Expr → Prop
  | .tag _ p => front = [] ∧ y = p
  | .comparison _ p _ v => front = [] ∧ y = p ∨ back = [] ∧ y = v
  | _ => False

namespace Term

open Text

/-- In a text that begins at an offset, a pattern of one of the operands among the tokens stands at
a place. -/
def PatternAt (offset : Nat) (t : Text) (ts : List Token) (place : Nat) (y : Text) : Prop :=
  ∃ e behind n a front back s, .operand e ∈ ts ∧ t = a ++ (front ++ (y ++ back) ++ s) ∧
    n = offset + a.length ∧
    token? behind n (front ++ (y ++ back) ++ s) = some (.operand e, (front ++ (y ++ back)).length) ∧
    e.HasPattern front y back ∧ place = n + front.length

variable {offset place : Nat} {t x y : Text} {ts : List Token} {token : Token}

theorem PatternAt.behind (h : PatternAt (offset + x.length) t ts place y) (us : List Token) :
    PatternAt offset (x ++ t) (us ++ ts) place y := by
  obtain ⟨e, behind, n, a, front, back, s, he, rfl, hn, htoken⟩ := h
  refine ⟨e, behind, n, x ++ a, front, back, s, List.mem_append_right us he, by simp, ?_, htoken⟩
  rw [hn, List.length_append, Nat.add_assoc]

/-- What is counted in the text of a token is closed in one of its patterns. -/
theorem TokenText.counted {s : Text} (h : TokenText offset s token x) (hb : token.BracesClose)
    (hrise : token.rise = 0) :
    ∃ ps, countedFrom offset 0 (x ++ s) = ps ++ countedFrom (offset + x.length) 0 s ∧
      ∀ p ∈ ps, ∃ e front y back, token = .operand e ∧ x = front ++ (y ++ back) ∧
      e.HasPattern front y back ∧
        offset + front.length ≤ p ∧
        ClosesBefore offset (x ++ s) (offset + front.length + y.length) p := by
  have hbare : Bare x → countedFrom offset 0 (x ++ s) = [] ++ countedFrom (offset + x.length) 0 s :=
    fun hx => hx offset s
  cases h with
  | opening | closing => cases hrise
  | operator n hx => exact ⟨[], hbare (bare_of_plain (plain_spelling hx)), by simp⟩
  | bookmark h => exact ⟨[], hbare (bare_braces fun hm => (h.2 _ hm).2 rfl), by simp⟩
  | comparison h =>
    cases h with
    | @tag p g hp hg =>
      obtain ⟨ps, hps, hclose⟩ := (hp.isPattern.nested hb).paired.inside offset [] (g ++ s)
      rw [bare_of_plain (plain_gap hg)] at hps
      refine ⟨ps, by simpa [Nat.add_assoc] using hps,
        fun q hq => ⟨_, [], p, g, rfl, rfl, ⟨rfl, rfl⟩, ?_⟩⟩
      simpa using hclose q hq
    | @pair p g g' v op hp hg hop hg' hv =>
      have hbetween : Bare (g ++ (op.symbol ++ g')) := bare_of_plain (by
        simp only [List.forall_mem_append]
        exact ⟨plain_gap hg, plain_comparator op, plain_gap hg'⟩)
      generalize hmiddle : g ++ (op.symbol ++ g') = middle at hbetween
      have hx : p ++ (g ++ (op.symbol ++ (g' ++ v))) = p ++ (middle ++ v) := by simp [← hmiddle]
      rw [hx]
      obtain ⟨ps, hps, hclose⟩ :=
        (hp.isPattern.nested hb.1).paired.inside offset [] (middle ++ (v ++ s))
      obtain ⟨qs, hqs, hclose'⟩ := (hv.isPattern.nested hb.2).paired.inside offset (p ++ middle) s
      rw [hbetween] at hps
      refine ⟨ps ++ qs, ?_, fun q hq => ?_⟩
      · simp only [List.length_append, List.append_assoc, ← Nat.add_assoc, List.length_nil,
          Nat.add_zero] at hps hqs ⊢
        rw [hps, hqs]
      · rcases List.mem_append.mp hq with hq | hq
        · refine ⟨_, [], p, middle ++ v, rfl, rfl, .inl ⟨rfl, rfl⟩, ?_⟩
          simpa using hclose q hq
        · refine ⟨_, p ++ middle, v, [], rfl, by simp, .inr ⟨rfl, rfl⟩, ?_⟩
          simpa using hclose' q hq

/-- Every parenthesis that is counted is that of an opening token, or stands in a pattern and is
closed there. -/
theorem Cut.counted {behind : Nat} (h : Cut behind offset t ts)
    (hb : ∀ token ∈ ts, token.BracesClose) :
    ∀ p ∈ countedFrom offset 0 t, .symbol .opening p ∈ ts ∨
      ∃ place y, PatternAt offset t ts place y ∧ place ≤ p ∧
      ClosesBefore offset t (place + y.length) p := by
  induction h with
  | nil => exact fun p hp => nomatch hp
  | @gap behind offset c t ts hc h ih =>
    intro p hp
    have hgap : Bare [c] := bare_of_plain (plain_gap (by simpa [IsGap] using hc))
    rw [← List.singleton_append, hgap] at hp
    apply (ih hb p hp).imp_right
    rintro ⟨place, y, hpattern, hle, hclose⟩
    exact ⟨place, y, hpattern.behind (x := [c]) [], hle, hclose.behind (x := [c])⟩
  | @token behind offset x t token ts hx h ih =>
    intro p hp
    have hrest : p ∈ countedFrom (offset + x.length) 0 t → .symbol .opening p ∈ token :: ts ∨
        ∃ place y, PatternAt offset (x ++ t) (token :: ts) place y ∧ place ≤ p ∧
          ClosesBefore offset (x ++ t) (place + y.length) p := by
      intro hp
      apply (ih (fun u hu => hb u (List.mem_cons_of_mem _ hu)) p hp).imp (List.mem_cons_of_mem _)
      rintro ⟨place, y, hpattern, hle, hclose⟩
      exact ⟨place, y, hpattern.behind [token], hle, hclose.behind⟩
    by_cases hrise : token.rise = 0
    · obtain ⟨ps, hps, hclose⟩ := hx.text.counted (hb token List.mem_cons_self) hrise
      rw [hps] at hp
      rcases List.mem_append.mp hp with hp | hp
      · obtain ⟨e, front, y, back, rfl, rfl, hpattern, hle, hclose⟩ := hclose p hp
        exact .inr ⟨_, y,
          ⟨e, behind, offset, [], front, back, t, List.mem_cons_self, rfl, rfl,
          token?_eq_some_iff.mpr hx, hpattern, rfl⟩,
          hle, hclose⟩
      · exact hrest hp
    · have htext := hx.text
      cases htext with
      | opening n =>
        obtain rfl : n = offset := by
          generalize [Rune.char '('].length = k at hx
          cases hx
          rfl
        rcases List.mem_cons.mp hp with rfl | hp
        · exact .inl List.mem_cons_self
        · exact hrest hp
      | closing => exact hrest hp
      | @operator k x n hx => cases k <;> simp [Token.rise, Symbol.spellings] at hrise hx
      | bookmark | comparison => exact absurd rfl hrise

/-- In a term that has an expression, and patterns whose braces close, the look-ahead of a group and
the stack of levels agree. Every opening token is closed on the stack by the token at the offset
that the look-ahead gives for it; both are parentheses of the text, and behind the second one comes
what may follow a group. Every parenthesis that the look-ahead counts anywhere is either paired by
it as an opening token is, with a closing token, or stands in a pattern and is paired in that
pattern. -/
theorem parentheses_agree {term : Text} {e : Expr} (h : Expr.ofTerm term = .ok e)
    (hts : tokens (expandTabs term) = .ok ts) (hb : ∀ token ∈ ts, token.BracesClose) :
    let t := expandTabs term
    (∀ us o rest, ts = us ++ .symbol .opening o :: rest →
      ∃ vs n ws, rest = vs ++ .symbol .closing n :: ws ∧
      ClosedBy us o vs n ∧ groupClose? t o = some n ∧ t[o]? = some (.char '(') ∧
        t[n]? = some (.char ')') ∧
      (skipGap (t.drop (n + 1)) = [] ∨ (skipGap (t.drop (n + 1))).head? = some (.char ')') ∨
        (andLength? (skipGap (t.drop (n + 1)))).isSome ∨
          (orLength? (skipGap (t.drop (n + 1)))).isSome)) ∧
    (∀ p ∈ countedFrom 0 0 t, ∃ q, groupClose? t p = some q ∧
      (.symbol .opening p ∈ ts ∧ .symbol .closing q ∈ ts ∨
        ∃ place y, PatternAt 0 t ts place y ∧ place ≤ p ∧ q < place + y.length)) := by
  obtain ⟨ts', hts', hderives⟩ := ofTerm_eq_ok_iff.mp h
  obtain rfl : ts' = ts := by simpa [hts] using hts'.symm
  obtain ⟨l, -, -, hrun⟩ := hderives.run 0 [] []
  rw [List.append_nil] at hrun
  rw [tokens_eq_tokensFrom] at hts
  have hcut := cut_of_tokensFrom (Nat.le_refl _) hts
  intro t
  have hpairs : ∀ us o rest, ts' = us ++ .symbol .opening o :: rest →
    ∃ vs n ws, rest = vs ++ .symbol .closing n :: ws ∧
      ClosedBy us o vs n ∧ groupClose? t o = some n ∧ t[o]? = some (.char '(') ∧
        t[n]? = some (.char ')') ∧ mayFollowGroup (t.drop (n + 1)) = true := by
    rintro us o rest rfl
    obtain ⟨vs, n, ws, rfl, hvs⟩ := hderives.balanced.closing
    exact ⟨vs, n, ws, rfl, hvs.closedBy hrun,
      hcut.groupClose (fun token hm => hb token (by simp [hm])) hvs⟩
  refine ⟨fun us o rest hsplit => ?_, fun p hp => ?_⟩
  · simpa only [mayFollowGroup_iff] using hpairs us o rest hsplit
  · rcases hcut.counted hb p hp with hopen
      | ⟨place, y, hpattern, hle, u, v, k, ht, hplace, hclose, hlt⟩
    · obtain ⟨us, rest, hsplit⟩ := List.append_of_mem hopen
      obtain ⟨vs, n, ws, rfl, -, hgroup, -⟩ := hpairs us p rest hsplit
      exact ⟨n, hgroup, .inl ⟨hopen, by simp [hsplit]⟩⟩
    · refine ⟨p + k, ?_, .inr ⟨place, y, hpattern, hle, hlt⟩⟩
      rw [Nat.zero_add] at hplace
      rw [groupClose?, show t = u ++ v from ht, hplace, List.drop_left, hclose, Option.map_some,
        Nat.add_comm]

/-- A group in a group, with parentheses in an escape, a class, a bookmark and a pattern. -/
theorem parentheses_agree_nested :
    let term := Text.ofString "(a(b|[)]) == x\\)y AND (\x7bm(n\x7d OR c\x7b2\x7d)) OR d"
    let ts : List Token :=
      [.symbol .opening 0,
        .operand (.comparison 1 (Text.ofString "a(b|[)])") .equal (Text.ofString "x\\)y")),
        .symbol .and 17,
      .symbol .opening 22, .operand (.bookmark 23 (Text.ofString "m(n")), .symbol .or 28,
        .operand (.tag 32 (Text.ofString "c\x7b2\x7d")),
      .symbol .closing 36, .symbol .closing 37, .symbol .or 38, .operand (.tag 42 [.char 'd'])]
    (∃ e, Expr.ofTerm term = .ok e) ∧ tokens (expandTabs term) = .ok ts ∧
      (∀ token ∈ ts, token.BracesClose) ∧
      (∃ vs, ClosedBy [] 0 vs 37) ∧ (∃ vs, ClosedBy (ts.take 3) 22 vs 36) ∧
        countedFrom 0 0 term = [0, 2, 22] ∧
      ∃ place y, PatternAt 0 term ts place y ∧ place ≤ 2 ∧ 8 < place + y.length := by
  intro term ts
  have htab : expandTabs term = term := by rfl
  have hts : tokens (expandTabs term) = .ok ts := by rfl
  obtain ⟨e, he⟩ : ∃ e, Expr.ofTerm term = .ok e := ⟨_, by rfl⟩
  have hb : ∀ token ∈ ts, token.BracesClose := by
    simp only [ts, List.forall_mem_cons]
    exact ⟨trivial, ⟨rfl, rfl⟩, trivial, trivial, trivial, trivial, rfl, trivial, trivial, trivial,
      rfl, by simp⟩
  obtain ⟨hgroups, hcounted⟩ := parentheses_agree he hts hb
  rw [htab] at hgroups hcounted
  have houter : groupClose? term 0 = some 37 := by rfl
  have hinner : groupClose? term 22 = some 36 := by rfl
  have hpattern : groupClose? term 2 = some 8 := by rfl
  refine ⟨⟨e, he⟩, hts, hb, ?_, ?_, by rfl, ?_⟩
  · obtain ⟨vs, n, ws, -, hclosed, hn, -⟩ := hgroups [] 0 _ rfl
    obtain rfl : n = 37 := by simpa [houter] using hn.symm
    exact ⟨vs, hclosed⟩
  · obtain ⟨vs, n, ws, -, hclosed, hn, -⟩ := hgroups (ts.take 3) 22 _ rfl
    obtain rfl : n = 36 := by simpa [hinner] using hn.symm
    exact ⟨vs, hclosed⟩
  · obtain ⟨q, hq, ⟨hopen, -⟩ | ⟨place, y, hat, hle, hlt⟩⟩ :=
      hcounted 2 (by rw [show countedFrom 0 0 term = [0, 2, 22] by rfl]; decide)
    · simp [ts] at hopen
    · obtain rfl : q = 8 := by simpa [hpattern] using hq.symm
      exact ⟨place, y, hat, hle, hlt⟩

end Term

end FileTags

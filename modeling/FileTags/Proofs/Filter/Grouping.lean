import FileTags.Proofs.Filter.Origin

/-!
# Reading canonical terms again

The canonical term of a filter has parentheses around every operand of a connective. Read again, a
parenthesis opens a group only if the look-ahead finds its partner, and a brace that is literal to a
pattern may make the look-ahead pass the partner by: the brace closes in another operand, or
nowhere. Around a tag such parentheses become part of the pattern; around anything else they make
the term unreadable, since a pattern cannot hold a blank.
-/

set_option autoImplicit false

namespace FileTags

open Term Text

namespace Term

/-! ## Parentheses that open no group -/

theorem Run.inside {j : Nat} {t : Text} (h : Run j t) (k : Nat) {rest : Text} (hr : Detached rest) :
    runLength? (k + 1 + j) 0 (t ++ rest) = (runLength? (k + 1) 0 rest).map (· + t.length) := by
  induction h with
  | nil => simp
  | escape h ih =>
    rw [List.cons_append, List.cons_append, runLength?_escape, ih, Option.map_map]
    rfl
  | @cls j b t hb h ih =>
    rw [List.cons_append, List.append_assoc, runLength?_class hb, ih, Option.map_map]
    congr 1
    funext n
    simp only [Function.comp_apply, List.length_cons, List.length_append]
    omega
  | opening h ih =>
    rw [List.cons_append, runLength?_opening, ← Nat.add_assoc] at *
    rw [ih, Option.map_map]
    rfl
  | closing h ih =>
    rw [List.cons_append, ← Nat.add_assoc, runLength?_closing, ih, Option.map_map]
    rfl
  | @plain j c t hc hb hs ho h ih =>
    have hdepth : (decide (k + 1 + j = 0)) = false := by simp
    rw [List.cons_append, runLength?_plain hc, hb, startsConnective_append hs hr, hdepth, ih]
    simp [Function.comp_def, Nat.add_assoc]

theorem Run.closed {k : Nat} {t : Text} (h : Run k t) : Run (k + 1) (t ++ [.char ')']) := by
  have hdetached : Detached [.char ')'] := by simp [Detached]
  induction h with
  | nil => exact .closing .nil
  | escape h ih => exact .escape ih
  | cls hb h ih =>
    rw [List.cons_append, List.append_assoc]
    exact .cls hb ih
  | opening h ih => exact .opening ih
  | closing h ih => exact .closing ih
  | plain hc hb hs ho h ih =>
    exact .plain hc hb (startsConnective_append hs hdetached) (fun hk =>
    absurd hk (Nat.succ_ne_zero _)) ih

theorem IsPattern.parenthesized {t : Text} (h : IsPattern t) :
    IsPattern (.char '(' :: (t ++ [.char ')'])) :=
  isPattern_iff.mpr ⟨.opening (isPattern_iff.mp h).1.closed, by simp, by simp [keywords, ofString]⟩

/-- Behind a parenthesis that opens no group, and behind an anchor, there is nothing but an
operand. -/
theorem token?_of_head {c : Rune} {t : Text} (hc : c = .char '(' ∨ c = .char '^')
    (ho : opensGroup (c :: t) = false) (behind offset : Nat) :
    token? behind offset (c :: t) = (comparison? offset (c :: t)).map fun p =>
      (.operand p.1, p.2) := by
  rcases hc with rfl | rfl <;>
    simp [token?, ho, startsWith, notLength?, andLength?, orLength?, isWordOperator, bookmark?]

theorem Yields.error {behind behind' offset n : Nat} {t u rest : Text} {ts : List Token}
    (ht : Yields behind offset t (u ++ rest) ts behind')
    (hu : tokensFrom behind' (offset + t.length) 0 (u ++ rest) = .error n) :
    tokensFrom behind offset 0 ((t ++ u) ++ rest) = .error n := by
  rw [List.append_assoc, ht, hu]
  rfl

end Term

namespace Filter

/-! ## How a canonical term is read -/

def behindLeft (word : Text) (r : Filter) (rest : Text) : Text :=
  [.char ' '] ++ (word ++ ([.char ' '] ++ (.char '(' :: (text r ++ .char ')' :: rest))))

/-- In front of a text, every parenthesis of the canonical term that is not part of a pattern opens
a group. -/
def Grouped : Filter → Text → Prop
  | .leaf _, _ => True
  | .not f, rest => opensGroup (.char '(' :: (text f ++ .char ')' :: rest)) = true ∧
      Grouped f (.char ')' :: rest)
  | .and l r, rest =>
    (opensGroup
      (.char '(' :: (text l ++ .char ')' :: behindLeft [.char 'A', .char 'N', .char 'D'] r rest)) =
      true ∧
      Grouped l (.char ')' :: behindLeft [.char 'A', .char 'N', .char 'D'] r rest)) ∧
    opensGroup (.char '(' :: (text r ++ .char ')' :: rest)) = true ∧ Grouped r (.char ')' :: rest)
  | .or l r, rest =>
    (opensGroup (.char '(' :: (text l ++ .char ')' :: behindLeft [.char 'O', .char 'R'] r rest)) =
      true ∧
      Grouped l (.char ')' :: behindLeft [.char 'O', .char 'R'] r rest)) ∧
    opensGroup (.char '(' :: (text r ++ .char ')' :: rest)) = true ∧ Grouped r (.char ')' :: rest)

instance decidableGrouped : (f : Filter) → (rest : Text) → Decidable (Grouped f rest)
  | .leaf _, _ => .isTrue trivial
  | .not f, rest =>
    have := decidableGrouped f (.char ')' :: rest)
    inferInstanceAs (Decidable (_ ∧ _))
  | .and l r, rest =>
    have := decidableGrouped l (.char ')' :: behindLeft [.char 'A', .char 'N', .char 'D'] r rest)
    have := decidableGrouped r (.char ')' :: rest)
    inferInstanceAs (Decidable ((_ ∧ _) ∧ _ ∧ _))
  | .or l r, rest =>
    have := decidableGrouped l (.char ')' :: behindLeft [.char 'O', .char 'R'] r rest)
    have := decidableGrouped r (.char ')' :: rest)
    inferInstanceAs (Decidable ((_ ∧ _) ∧ _ ∧ _))

def tag? : Filter → Option Pattern
  | .leaf (.tagExists tag) => some tag
  | _ => none

/-- How a part in parentheses is read: as that part if they open a group, and otherwise as one
pattern if the part is a tag. -/
def readGroup (f : Filter) (inside : Option Expr) (rest : Text) : Option Expr :=
  if opensGroup (.char '(' :: (text f ++ .char ')' :: rest)) then inside
  else (tag? f).map fun tag => .tag 0 (.char '(' :: (tag.source ++ [.char ')']))

/-- How the canonical term is read in front of a text, if it can be read there. -/
def readAgain : Filter → Text → Option Expr
  | .leaf c, _ => some c.toExpr
  | .not f, rest => (readGroup f (readAgain f (.char ')' :: rest)) rest).map (.not 0)
  | .and l r, rest =>
    let behind := behindLeft [.char 'A', .char 'N', .char 'D'] r rest
    (readGroup l (readAgain l (.char ')' :: behind)) behind).bind fun x =>
      (readGroup r (readAgain r (.char ')' :: rest)) rest).map fun y => .and 0 [x, y]
  | .or l r, rest =>
    let behind := behindLeft [.char 'O', .char 'R'] r rest
    (readGroup l (readAgain l (.char ')' :: behind)) behind).bind fun x =>
      (readGroup r (readAgain r (.char ')' :: rest)) rest).map fun y => .or 0 [x, y]

/-- At every offset, the text in front of the rest becomes tokens that derive the expression, or
cannot be cut into tokens. -/
def ReadsAs (D : List Token → Expr → Prop) (t rest : Text) (o : Option Expr) : Prop :=
  ∀ behind offset, match o with
    | some e => ∃ ts behind', Derive D e ts ∧ Yields behind offset t rest ts behind'
    | none => ∃ n, tokensFrom behind offset 0 (t ++ rest) = .error n

theorem yields_anchored {behind offset k : Nat} {t rest : Text} {e : Expr}
    (h : comparison? offset (.char '^' :: t ++ rest) = some (e, t.length + 1 + k))
    (hk : k ≤ (rest.takeWhile isGap).length) :
    Yields behind offset (.char '^' :: t) rest [.operand e] (offset + (t.length + 1 + k)) := by
  refine yields_token (by decide) ?_ hk
  rw [List.cons_append] at h
  rw [token?_of_head (.inr rfl) (opensGroup_of_head (by decide) _), h]
  rfl

theorem readsAs_leaf {e : Expr} {t rest : Text}
    (h : ∀ behind offset, ∃ f b, f.unplaced = e.unplaced ∧
      Yields behind offset t rest [.operand f] b) :
    ReadsAs Disjunction t rest (some e) := by
  intro behind offset
  obtain ⟨f, b, hf, hy⟩ := h behind offset
  exact ⟨_, b, ⟨f, .of_conjunction (.of_unary (.primary (.leaf f))), hf⟩, hy⟩

theorem readsAs_condition {c : Condition} {rest : Text} (h : c.FromTerm) (hr : AfterOperand rest) :
    ReadsAs Disjunction c.text rest (some c.toExpr) := by
  have hgap : IsGap [.char ' '] := by decide
  have hne : ([.char ' '] : Text) ≠ [] := by decide
  have hpair : ∀ {tag : Pattern} {v : Text} (op : Comparator), tag.FromTerm → IsPattern v →
      ReadsAs Disjunction (Condition.spaced tag.source op v) rest
        (some (.comparison 0 tag.source op v)) := by
    intro tag v op ht hv
    obtain ⟨t, hs⟩ := ht.source_eq_cons
    refine readsAs_leaf fun behind offset => ?_
    have hcomparison := ht.isPattern.comparison?_pair hv op hgap hne hgap hne hr.stops offset
    have hy : Yields behind offset (.char '^' :: (t ++ .char ' ' :: op.symbol ++ .char ' ' :: v))
        rest [.operand (.comparison offset (.char '^' :: t) op v)] _ :=
      yields_anchored (k := 0) (by simpa [hs] using hcomparison) (Nat.zero_le _)
    rw [Condition.spaced, hs]
    exact ⟨.comparison offset (.char '^' :: t) op v, _, rfl, hy⟩
  cases c with
  | tagExists tag =>
    obtain ⟨t, hs⟩ := h.source_eq_cons
    refine readsAs_leaf fun behind offset => ?_
    have hcomparison := h.isPattern.comparison?_tag hr offset
    rw [hs] at hcomparison
    rw [Condition.text, hs]
    exact ⟨.tag offset (.char '^' :: t), _, by rw [Condition.toExpr, hs]; rfl,
      yields_anchored hcomparison (Nat.le_refl _)⟩
  | valueEquals tag value => exact hpair .equal h.1 h.2.isPattern
  | valueOrder test tag bound => exact hpair test.comparator h.1 (verbatim_ofInt bound).pattern

theorem tag?_eq_some_iff {f : Filter} {tag : Pattern} :
    tag? f = some tag ↔ f = .leaf (.tagExists tag) := by
  unfold tag?
  split <;> simp_all

theorem inside_of_fromTerm {tag : Pattern} (h : tag.FromTerm) (k : Nat) {t : Text}
    (hd : Detached t) :
    runLength? (k + 1) 0 (tag.source ++ t) = (runLength? (k + 1) 0 t).map (· + tag.source.length) :=
  (isPattern_iff.mp h.isPattern).1.inside k hd

/-- The left operand of a connective closes its own parenthesis at most, and a blank stands behind
that. -/
theorem runLength?_leftGroup {l : Filter} (h : l.All Condition.FromTerm)
    (hl : tag? l = none → ∀ k rest, runLength? (k + 1) 0 (text l ++ rest) = none) (k : Nat)
    (rest : Text) :
    runLength? (k + 1) 0 (.char '(' :: (text l ++ .char ')' :: .char ' ' :: rest)) = none := by
  rw [runLength?_opening]
  cases ht : tag? l with
  | none =>
    rw [hl ht]
    rfl
  | some tag =>
    obtain rfl := tag?_eq_some_iff.mp ht
    have hd : Detached (.char ')' :: .char ' ' :: rest) := by simp [Detached]
    rw [text_leaf, Condition.text, inside_of_fromTerm h _ hd, runLength?_closing]
    rfl

/-- Inside parentheses that open no group a canonical term breaks off at its first blank. Only a tag
has none. -/
theorem runLength?_text {f : Filter} (h : f.All Condition.FromTerm) (ht : tag? f = none) (k : Nat)
    (rest : Text) :
    runLength? (k + 1) 0 (text f ++ rest) = none := by
  induction f generalizing k rest with
  | leaf c =>
    have hspaced : ∀ {tag : Pattern} (op : Comparator) (v : Text), tag.FromTerm →
        runLength? (k + 1) 0 (Condition.spaced tag.source op v ++ rest) = none := by
      intro tag op v htag
      have hd : Detached (.char ' ' :: (op.symbol ++ .char ' ' :: v ++ rest)) := by simp [Detached]
      have hblank : runLength? (k + 1) 0 (.char ' ' :: (op.symbol ++ .char ' ' :: v ++ rest)) =
          none := rfl
      have hrun := inside_of_fromTerm htag k hd
      rw [hblank] at hrun
      simpa [Condition.spaced] using hrun
    rw [text_leaf]
    cases c with
    | tagExists tag => cases ht
    | valueEquals tag value => exact hspaced _ _ h.1
    | valueOrder test tag bound => exact hspaced _ _ h.1
  | not f ih =>
    rw [text_not]
    rfl
  | and l r ihl ihr =>
    rw [text_and]
    simpa using runLength?_leftGroup h.1 (fun hl => ihl h.1 hl) k _
  | or l r ihl ihr =>
    rw [text_or]
    simpa using runLength?_leftGroup h.1 (fun hl => ihl h.1 hl) k _

theorem readsAs_group {f : Filter} {rest : Text} {inside : Option Expr}
    (h : f.All Condition.FromTerm) (hr : AfterOperand rest)
    (hi : ReadsAs Disjunction (text f) (.char ')' :: rest) inside) :
    ReadsAs Primary (.char '(' :: (text f ++ [.char ')'])) rest (readGroup f inside rest) := by
  intro behind offset
  cases ho : opensGroup (.char '(' :: (text f ++ .char ')' :: rest)) with
  | true =>
    have hopen : Yields behind offset [.char '('] ((text f ++ [.char ')']) ++ rest)
        [.symbol .opening offset] (offset + 1) :=
      yields_token (k := 0) (s := []) (by decide) (by simp [token?, ho]) (Nat.zero_le _)
    have hread := hi (offset + 1) (offset + 1)
    rw [readGroup, if_pos ho]
    cases inside with
    | none =>
      obtain ⟨n, hn⟩ := hread
      exact ⟨n, hopen.error (by simpa using hn)⟩
    | some e =>
      obtain ⟨ts, b, ⟨x, hd, hx⟩, hy⟩ := hread
      have hclose : Yields b (offset + 1 + (text f).length) [.char ')'] rest
          [.symbol .closing (offset + 1 + (text f).length)] _ :=
        yields_token (k := 0) (s := []) (by decide) (token?_closing _ _ _) (Nat.zero_le _)
      exact ⟨_, _, ⟨x, .group _ _ hd, hx⟩, hopen.append (hy.append hclose)⟩
  | false =>
    rw [readGroup, if_neg (by simp [ho])]
    cases ht : tag? f with
    | some tag =>
      obtain rfl := tag?_eq_some_iff.mp ht
      rw [text_leaf, Condition.text] at ho ⊢
      have hcomparison :=
        (IsPattern.parenthesized (Pattern.FromTerm.isPattern h)).comparison?_tag hr offset
      have htoken := token?_of_head (.inl rfl) ho behind offset
      have hy : Yields behind offset (.char '(' :: (tag.source ++ [.char ')'])) rest
          [.operand (.tag offset (.char '(' :: (tag.source ++ [.char ')'])))] _ :=
        yields_token (by decide) (by simp_all) (Nat.le_refl _)
      exact ⟨_, _, ⟨.tag offset _, .leaf _, rfl⟩, hy⟩
    | none =>
      have hrun : runLength? 0 0 (.char '(' :: (text f ++ .char ')' :: rest)) = none := by
        rw [runLength?_opening, runLength?_text h ht]
        rfl
      have htoken := token?_of_head (.inl rfl) ho behind offset
      refine ⟨offset, ?_⟩
      simp [tokensFrom, htoken, comparison?, patternLength?, hrun, isGap]

theorem readsAs_negated {t rest : Text} {o : Option Expr} (h : ReadsAs Primary t rest o) :
    ReadsAs Disjunction ([.char 'N', .char 'O', .char 'T'] ++ ([.char ' '] ++ t)) rest
      (o.map (.not 0)) := by
  intro behind offset
  have hop : Yields behind offset [.char 'N', .char 'O',
      .char 'T'] (([.char ' '] ++ t) ++ rest) [.symbol .not behind] (offset + 3) :=
    yields_operator (by decide) rfl behind offset
  have hgap := yields_gap (g := [.char ' ']) (by decide) (offset + 3) (offset + 3) (t ++ rest)
  have hread := h (offset + 3) (offset + 3 + 1)
  cases o with
  | none =>
    obtain ⟨n, hn⟩ := hread
    exact ⟨n, hop.error (hgap.error hn)⟩
  | some e =>
    obtain ⟨ts, b, ⟨x, hd, hx⟩, hy⟩ := hread
    refine ⟨_, b, ⟨.not behind x, ?_, by simp [Expr.unplaced, hx]⟩, hop.append (hgap.append hy)⟩
    exact .of_conjunction (.of_unary (.not behind (.primary hd)))

theorem readsAs_joined {k : Symbol} {c : Nat → List Expr → Expr} {s t u rest : Text}
    {o o' : Option Expr} (hs : s ∈ k.spellings)
    (hk : ∀ {ts us : List Token} {x y : Expr} (n : Nat), Primary ts x → Primary us y →
      ∃ m, Disjunction (ts ++ .symbol k n :: us) (c m [x, y]))
    (hc : ∀ m es, (c m es).unplaced = c 0 (Expr.unplacedAll es))
    (ht : ReadsAs Primary t (([.char ' '] ++ (s ++ ([.char ' '] ++ u))) ++ rest) o)
    (hu : ReadsAs Primary u rest o') :
    ReadsAs Disjunction (t ++ ([.char ' '] ++ (s ++ ([.char ' '] ++ u)))) rest (o.bind fun x =>
      o'.map fun y => c 0 [x, y]) := by
  intro behind offset
  have hread := ht behind offset
  cases o with
  | none => simpa using hread
  | some e =>
    obtain ⟨ts, b, ⟨x, hx, hxe⟩, hy⟩ := hread
    have hgap :=
      yields_gap (g :=
        [.char ' ']) (by decide) b (offset + t.length) ((s ++ ([.char ' '] ++ u)) ++ rest)
    have hop : Yields b (offset + t.length + 1) s (([.char ' '] ++ u) ++ rest) [.symbol k b]
        (offset + t.length + 1 + s.length) :=
      yields_operator hs rfl b (offset + t.length + 1)
    have hgap' :=
      yields_gap (g :=
        [.char ' ']) (by decide) (offset + t.length + 1 + s.length)
        (offset + t.length + 1 + s.length) (u ++ rest)
    have hread' := hu (offset + t.length + 1 + s.length) (offset + t.length + 1 + s.length + 1)
    cases o' with
    | none =>
      obtain ⟨n, hn⟩ := hread'
      exact ⟨n, hy.error (hgap.error (hop.error (hgap'.error hn)))⟩
    | some e' =>
      obtain ⟨us, b', ⟨y, hy', hye⟩, hyu⟩ := hread'
      obtain ⟨m, hd⟩ := hk b hx hy'
      refine ⟨_, b', ⟨_, hd, ?_⟩, hy.append (hgap.append (hop.append (hgap'.append hyu)))⟩
      simp [hc, Expr.unplacedAll, hxe, hye]

theorem text_behindLeft (word : Text) (r : Filter) (rest : Text) :
    ([.char ' '] ++ (word ++ ([.char ' '] ++ (.char '(' :: (text r ++ [.char ')']))))) ++ rest =
    behindLeft word r rest := by
  simp [behindLeft]

theorem afterOperand_behindLeft {k : Symbol} {word : Text} (hk : k = .and ∨ k = .or)
    (hw : word ∈ k.spellings) (r : Filter) (rest : Text) : AfterOperand (behindLeft word r rest) :=
  afterOperand_connective (by decide) (by decide) hk hw rfl

/-- The canonical term is read the way that was said. By induction on the filter, with the text
behind it going into the parentheses. -/
theorem readsAs_text {f : Filter} (h : f.All Condition.FromTerm) {rest : Text}
    (hr : AfterOperand rest) :
    ReadsAs Disjunction (text f) rest (readAgain f rest) := by
  induction f generalizing rest with
  | leaf c =>
    rw [text_leaf]
    exact readsAs_condition h hr
  | not f ih =>
    rw [text_not]
    exact readsAs_negated
      (readsAs_group h hr (ih h (afterOperand_closing (g := []) (by decide) rest)))
  | and l r ihl ihr =>
    have hbehind : AfterOperand (behindLeft [.char 'A', .char 'N', .char 'D'] r rest) :=
      afterOperand_behindLeft (.inl rfl) (by decide) r rest
    rw [text_and]
    refine readsAs_joined (k := .and) (c := .and) (by decide)
      (fun n hx hy => ⟨_, .of_conjunction (.chain (.more n (.one (.primary hx)) (.primary hy)))⟩)
        (fun _ _ => rfl) ?_
      (readsAs_group h.2 hr (ihr h.2 (afterOperand_closing (g := []) (by decide) rest)))
    rw [text_behindLeft]
    exact readsAs_group h.1 hbehind (ihl h.1 (afterOperand_closing (g := []) (by decide) _))
  | or l r ihl ihr =>
    have hbehind : AfterOperand (behindLeft [.char 'O', .char 'R'] r rest) :=
      afterOperand_behindLeft (.inr rfl) (by decide) r rest
    rw [text_or]
    refine readsAs_joined (k := .or) (c := .or) (by decide)
      (fun n hx hy =>
        ⟨_, .chain (.more n (.one (.of_unary (.primary hx))) (.of_unary (.primary hy)))⟩)
        (fun _ _ => rfl) ?_
      (readsAs_group h.2 hr (ihr h.2 (afterOperand_closing (g := []) (by decide) rest)))
    rw [text_behindLeft]
    exact readsAs_group h.1 hbehind (ihl h.1 (afterOperand_closing (g := []) (by decide) _))

theorem no_tab_text {f : Filter} (h : f.All Condition.FromTerm) : .char '\t' ∉ text f := by
  induction f with
  | leaf c =>
    rw [text_leaf]
    have hspaced : ∀ {tag : Pattern} {v : Text} (op : Comparator), tag.FromTerm → .char '\t' ∉ v →
        .char '\t' ∉ Condition.spaced tag.source op v := by
      intro tag v op ht hv
      have hop : .char '\t' ∉ op.symbol := by cases op <;> decide
      simp [Condition.spaced, ht.noTab, hop, hv]
    cases c with
    | tagExists tag => exact Pattern.FromTerm.noTab h
    | valueEquals tag value => exact hspaced _ h.1 h.2.noTab
    | valueOrder test tag bound => exact hspaced _ h.1 (verbatim_ofInt bound).noTab
  | not f ih => simp [text_not, ih h]
  | and l r ihl ihr => simp [text_and, ihl h.1, ihr h.2]
  | or l r ihl ihr => simp [text_or, ihl h.1, ihr h.2]

theorem tokens_text {f : Filter} (h : f.All Condition.FromTerm) : ∃ behind,
    tokens (expandTabs (text f)) = tokensFrom behind 0 0 (text f ++ []) := by
  rw [expandTabs, expandTabsFrom_eq_self _ (no_tab_text h), tokens_eq_tokensFrom, List.append_nil]
  exact ⟨_, rfl⟩

theorem ofTerm_of_readAgain {f : Filter} {x : Expr} (h : f.All Condition.FromTerm)
    (hx : readAgain f [] = some x) :
    ∃ e, Expr.ofTerm (text f) = .ok e ∧ e.unplaced = x.unplaced := by
  obtain ⟨behind, htokens⟩ := tokens_text h
  have hread := readsAs_text h (afterOperand_gap (g := []) (by decide)) behind 0
  rw [hx] at hread
  obtain ⟨ts, b, ⟨e, hd, he⟩, hy⟩ := hread
  refine ⟨e, ofTerm_eq_ok_iff.mpr ⟨ts, ?_, hd⟩, he⟩
  rw [htokens, hy]
  simp [tokensFrom, Except.map]

theorem readAgain_of_ofTerm {f : Filter} {e : Expr} (h : f.All Condition.FromTerm)
    (he : Expr.ofTerm (text f) = .ok e) :
    ∃ x, readAgain f [] = some x ∧ e.unplaced = x.unplaced := by
  cases hx : readAgain f [] with
  | some x =>
    obtain ⟨e', he', hunplaced⟩ := ofTerm_of_readAgain h hx
    obtain rfl := Except.ok.inj (he.symm.trans he')
    exact ⟨x, rfl, hunplaced⟩
  | none =>
    obtain ⟨behind, htokens⟩ := tokens_text h
    have hread := readsAs_text h (afterOperand_gap (g := []) (by decide)) behind 0
    rw [hx] at hread
    obtain ⟨n, hn⟩ := hread
    obtain ⟨ts, hts, -⟩ := ofTerm_eq_ok_iff.mp he
    rw [htokens, hn] at hts
    cases hts

end Filter

end FileTags

import FileTags.Proofs.Filter.Grouping

/-!
# Fixed points of canonical terms

Every parenthesis that becomes part of a pattern makes the canonical term longer. So the canonical
term of a compiled filter has itself as its canonical term exactly when all its parentheses open
groups, and this is so when the braces of all its patterns close.
-/

set_option autoImplicit false

namespace FileTags

open Term Text

namespace Filter

/-! ## What a canonical term compiles to -/

theorem readAgain_of_grouped {f : Filter} {rest : Text} (h : Grouped f rest) :
    readAgain f rest = some (toExpr f) := by
  induction f generalizing rest with
  | leaf c => rfl
  | not f ih => simp [readAgain, readGroup, h.1, ih h.2, toExpr]
  | and l r ihl ihr => simp [readAgain, readGroup, h.1.1, h.2.1, ihl h.1.2, ihr h.2.2, toExpr]
  | or l r ihl ihr => simp [readAgain, readGroup, h.1.1, h.2.1, ihl h.1.2, ihr h.2.2, toExpr]

theorem length_text_not (f : Filter) : (text (.not f)).length = (text f).length + 6 := by
  rw [text_not]
  simp

theorem length_text_and (l r : Filter) :
    (text (.and l r)).length = (text l).length + (text r).length + 9 := by
  rw [text_and]
  simp
  omega

theorem length_text_or (l r : Filter) :
    (text (.or l r)).length = (text l).length + (text r).length + 8 := by
  rw [text_or]
  simp
  omega

section compiled

variable {bookmark : Tree → Except CompileError Filter}

/-- Reading a part in parentheses gives the part back, or a pattern that has parentheses in it. -/
theorem group_or_longer {f g : Filter} {x : Expr} {rest : Text} {inside : Option Expr}
    (hi : ∀ {y : Expr}, inside = some y → joinTree bookmark y.toTree = .ok g →
      (Grouped f (.char ')' :: rest) ∧ g = f) ∨ (text f).length < (text g).length)
    (hx : readGroup f inside rest = some x) (hg : joinTree bookmark x.toTree = .ok g) :
    ((opensGroup (.char '(' :: (text f ++ .char ')' :: rest)) = true ∧
      Grouped f (.char ')' :: rest)) ∧ g = f) ∨ (text f).length < (text g).length := by
  rw [readGroup] at hx
  split at hx
  · next ho => exact (hi hx hg).imp_left fun h => ⟨⟨ho, h.1⟩, h.2⟩
  · obtain ⟨tag, htag, rfl⟩ := Option.map_eq_some_iff.mp hx
    obtain rfl := tag?_eq_some_iff.mp htag
    obtain ⟨q, hq, rfl⟩ := joinTree_tag_iff.mp hg
    refine .inr ?_
    rw [text_leaf, text_leaf, Condition.text, Condition.text, Pattern.source_of_ofSource hq]
    simp only [anchored, List.head?_cons, Option.some.injEq, Rune.char.injEq, Char.reduceEq,
      false_and, if_false, List.length_cons, List.length_append]
    omega

theorem of_forall₂_pair {R : Expr → Filter → Prop} {join : Filter → Filter → Filter} {x y : Expr}
    {f g : Filter}
    {gs : List Filter} (h : List.Forall₂ R [x, y] (g :: gs)) (hf : f = gs.foldl join g) :
    ∃ a b, R x a ∧ R y b ∧ f = join a b := by
  cases h with
  | cons ha h =>
    cases h with
    | cons hb h =>
      cases h
      exact ⟨_, _, ha, hb, hf⟩

theorem pair_or_longer {l r a b : Filter} {L R : Prop}
    (hl : (L ∧ a = l) ∨ (text l).length < (text a).length)
    (hr : (R ∧ b = r) ∨ (text r).length < (text b).length) :
    ((L ∧ R) ∧ a = l ∧ b = r) ∨
    (text l).length + (text r).length < (text a).length + (text b).length := by
  rcases hl with ⟨hL, rfl⟩ | hl
  · rcases hr with ⟨hR, rfl⟩ | hr
    · exact .inl ⟨⟨hL, hR⟩, rfl, rfl⟩
    · exact .inr (by omega)
  · rcases hr with ⟨-, rfl⟩ | hr
    · exact .inr (by omega)
    · exact .inr (by omega)

/-- Reading the canonical term again gives the filter back, or one with a longer canonical term. -/
theorem grouped_or_longer {f g : Filter} {x : Expr} {rest : Text} (h : f.All Condition.FromTerm)
    (hx : readAgain f rest = some x) (hg : joinTree bookmark x.toTree = .ok g) :
    (Grouped f rest ∧ g = f) ∨ (text f).length < (text g).length := by
  induction f generalizing g x rest with
  | leaf c =>
    obtain rfl := Option.some.inj hx
    rw [Condition.joinTree_toExpr h] at hg
    exact .inl ⟨trivial, (Except.ok.inj hg).symm⟩
  | not f ih =>
    obtain ⟨y, hy, rfl⟩ := Option.map_eq_some_iff.mp hx
    obtain ⟨a, ha, rfl⟩ := joinTree_not_iff.mp hg
    rw [length_text_not, length_text_not]
    rcases group_or_longer (ih h) hy ha with ⟨hgroup, rfl⟩ | hl
    · exact .inl ⟨hgroup, rfl⟩
    · exact .inr (by omega)
  | and l r ihl ihr =>
    obtain ⟨y, hy, hx⟩ := Option.bind_eq_some_iff.mp hx
    obtain ⟨z, hz, rfl⟩ := Option.map_eq_some_iff.mp hx
    obtain ⟨-, _, _, hpair, hfold⟩ := joinTree_and_iff.mp hg
    obtain ⟨a, b, ha, hb, rfl⟩ := of_forall₂_pair hpair hfold
    rw [length_text_and, length_text_and]
    rcases pair_or_longer (group_or_longer (ihl h.1) hy ha) (group_or_longer (ihr h.2) hz hb)
      with ⟨hgroup, rfl, rfl⟩ | hl
    · exact .inl ⟨hgroup, rfl⟩
    · exact .inr (by omega)
  | or l r ihl ihr =>
    obtain ⟨y, hy, hx⟩ := Option.bind_eq_some_iff.mp hx
    obtain ⟨z, hz, rfl⟩ := Option.map_eq_some_iff.mp hx
    obtain ⟨-, _, _, hpair, hfold⟩ := joinTree_or_iff.mp hg
    obtain ⟨a, b, ha, hb, rfl⟩ := of_forall₂_pair hpair hfold
    rw [length_text_or, length_text_or]
    rcases pair_or_longer (group_or_longer (ihl h.1) hy ha) (group_or_longer (ihr h.2) hz hb)
      with ⟨hgroup, rfl, rfl⟩ | hl
    · exact .inl ⟨hgroup, rfl⟩
    · exact .inr (by omega)

end compiled

theorem ofTerm_text_of_grouped {f : Filter} (h : f.All Condition.FromTerm) (hg : Grouped f []) :
    ofTerm none (text f) = .ok f := by
  obtain ⟨e, he, hunplaced⟩ := ofTerm_of_readAgain h (readAgain_of_grouped hg)
  refine ofTerm_eq_ok_of_joinTree he fun bookmark => ?_
  rw [← joinTree_unplaced, hunplaced, joinTree_unplaced, joinTree_toExpr_of_fromTerm h]

theorem grouped_of_ofTerm_text {f g : Filter} (h : f.All Condition.FromTerm)
    (hg : ofTerm none (text f) = .ok g) (ht : text g = text f) : Grouped f [] := by
  obtain ⟨e, he, hjoin⟩ := ofTermAt_eq_ok_iff.mp (ofTerm_iff_ofTermAt.mp hg)
  obtain ⟨x, hx, hunplaced⟩ := readAgain_of_ofTerm h he
  rw [← joinTree_unplaced, hunplaced, joinTree_unplaced] at hjoin
  rcases grouped_or_longer h hx hjoin with ⟨hgrouped, -⟩ | hl
  · exact hgrouped
  · rw [ht] at hl
    exact absurd hl (Nat.lt_irrefl _)

end Filter

/-! ## Braces that close -/

/-- The braces of all patterns of the condition close. -/
def Condition.BracesClose : Condition → Prop
  | .tagExists tag | .valueOrder _ tag _ => bracesClose 0 tag.source = true
  | .valueEquals tag value => bracesClose 0 tag.source = true ∧ bracesClose 0 value.source = true

theorem Condition.FromTerm.writable {c : Condition} (h : c.FromTerm) (hb : c.BracesClose) :
    c.Writable := by
  cases c with
  | tagExists tag => exact ⟨h, hb⟩
  | valueEquals tag value => exact ⟨⟨h.1, hb.1⟩, h.2, hb.2⟩
  | valueOrder test tag bound => exact ⟨⟨h.1, hb⟩, h.2⟩

namespace Filter

theorem writable_of_fromTerm {f : Filter} (h : f.All Condition.FromTerm)
    (hb : f.All Condition.BracesClose) :
    f.All Condition.Writable := by
  induction f with
  | leaf c => exact Condition.FromTerm.writable h hb
  | not f ih => exact ih h hb
  | and l r ihl ihr | or l r ihl ihr => exact ⟨ihl h.1 hb.1, ihr h.2 hb.2⟩

theorem passed_text {f : Filter} (h : f.All Condition.Writable) : Passed (text f) :=
  ((rendering h).phrase .opening (by simp [Symbol.wraps])).passed

/-- The look-ahead passes over a canonical term whose braces close, so it finds all partners. -/
theorem grouped_of_writable {f : Filter} {rest : Text} (h : f.All Condition.Writable)
    (hr : AfterOperand rest) : Grouped f rest := by
  have hopens : ∀ {g : Filter} {after : Text}, g.All Condition.Writable → AfterOperand after →
      opensGroup (.char '(' :: (text g ++ .char ')' :: after)) = true := fun hg ha => by
    rw [opensGroup_passed (passed_text hg), ha.follows]
  have hclosing : ∀ after, AfterOperand (.char ')' :: after) :=
    afterOperand_closing (g := []) (by decide)
  induction f generalizing rest with
  | leaf c => trivial
  | not f ih => exact ⟨hopens h hr, ih h (hclosing rest)⟩
  | and l r ihl ihr =>
    have hbehind : AfterOperand (behindLeft [.char 'A', .char 'N', .char 'D'] r rest) :=
      afterOperand_behindLeft (.inl rfl) (by decide) r rest
    exact ⟨⟨hopens h.1 hbehind, ihl h.1 (hclosing _)⟩, hopens h.2 hr, ihr h.2 (hclosing rest)⟩
  | or l r ihl ihr =>
    have hbehind : AfterOperand (behindLeft [.char 'O', .char 'R'] r rest) :=
      afterOperand_behindLeft (.inr rfl) (by decide) r rest
    exact ⟨⟨hopens h.1 hbehind, ihl h.1 (hclosing _)⟩, hopens h.2 hr, ihr h.2 (hclosing rest)⟩

/-- The canonical term of a filter, compiled to any depth, is its own canonical term exactly when
all its parentheses open groups, and then it compiles to the same filter. They do when the braces of
all patterns close. -/
theorem ofTerm_text_fixed_iff {resolve : Option Resolver} {depth : Nat} {term : Text} {f : Filter}
    (h : ofTermAt resolve depth [] term = .ok f) :
    ((∃ g, ofTerm none (text f) = .ok g ∧ text g = text f) ↔ Grouped f []) ∧
      (Grouped f [] → ofTerm none (text f) = .ok f) ∧
      (f.All Condition.BracesClose → Grouped f []) := by
  have hfrom := fromTerm_ofTermAt h
  refine ⟨⟨fun ⟨g, hg, ht⟩ => grouped_of_ofTerm_text hfrom hg ht,
    fun hg => ⟨f, ofTerm_text_of_grouped hfrom hg, rfl⟩⟩,
    ofTerm_text_of_grouped hfrom, fun hb => ?_⟩
  exact grouped_of_writable (writable_of_fromTerm hfrom hb) (afterOperand_gap (g := []) (by decide))

/-- The braces of one pattern close, and the brace of the other stands in a class. -/
theorem ofTerm_text_fixed_iff_bookmark :
    let resolve := some (Resolver.ofTable [([.char 'x'], Text.ofString "b\x7b2\x7d OR [\x7b]")])
    let term := Text.ofString "NOT (a AND \x7bx\x7d)"
    ∃ f, ofTerm resolve term = .ok f ∧ Grouped f [] ∧
      ((∃ g, ofTerm none (text f) = .ok g ∧ text g = text f) ↔ Grouped f []) ∧
      (Grouped f [] → ofTerm none (text f) = .ok f) ∧
        (f.All Condition.BracesClose → Grouped f []) := by
  intro resolve term
  have hgrouped : (ofTerm resolve term).toOption.any (fun f => decide (Grouped f [])) = true := by
    decide +kernel
  cases h : ofTerm resolve term with
  | error e =>
    rw [h] at hgrouped
    cases hgrouped
  | ok f =>
    rw [h] at hgrouped
    exact ⟨f, rfl, of_decide_eq_true hgrouped, ofTerm_text_fixed_iff (ofTerm_iff_ofTermAt.mp h)⟩

/-- A brace that does not close in its own pattern may close in the next one, and the parenthesis
between them is not seen. -/
theorem ofTerm_text_not_fixed :
    ¬ ∀ (resolve : Option Resolver) (term : Text) (f : Filter), ofTerm resolve term = .ok f →
      ∃ g, ofTerm none (text f) = .ok g ∧ text g = text f := by
  intro hfixed
  have hgrouped : (ofTerm none (Text.ofString "a\x7b AND (b\x7d)c")).toOption.any (fun f =>
      decide (¬ Grouped f [])) = true := by decide +kernel
  cases h : ofTerm none (Text.ofString "a\x7b AND (b\x7d)c") with
  | error e =>
    rw [h] at hgrouped
    cases hgrouped
  | ok f =>
    rw [h] at hgrouped
    obtain ⟨g, hg, ht⟩ := hfixed none _ f h
    exact of_decide_eq_true hgrouped
      (grouped_of_ofTerm_text (fromTerm_ofTermAt (ofTerm_iff_ofTermAt.mp h)) hg ht)

end Filter

end FileTags

import FileTags.Proofs.Filter.Fold
import FileTags.Proofs.Term.Rendering
import FileTags.Proofs.Text.Numeral

/-!
# Canonical terms

The canonical term of a filter is one of the renderings of an expression with the shape of the
filter, so it is read as that expression, and the expression is compiled to the filter it was made
from. This asks of the patterns that they were taken from terms and that their braces close, and of
the bounds that they are short enough to be written.
-/

set_option autoImplicit false

namespace FileTags

open Term

/-! ## Patterns and bounds in terms -/

def Pattern.FromTerm (p : Pattern) : Prop := ∃ x, IsPattern x ∧ .char '\t' ∉ x ∧ ofSource x = .ok p

structure Pattern.Writable (p : Pattern) : Prop where
  source : ∃ x, IsPattern x ∧ .char '\t' ∉ x ∧ ofSource x = .ok p
  braces : bracesClose 0 p.source = true

theorem Pattern.source_of_ofSource {x : Text} {p : Pattern} (h : ofSource x = .ok p) :
    p.source = anchored x := by
  rw [ofSource] at h
  split at h
  · exact congrArg Pattern.source (Except.ok.inj h).symm
  · cases h

theorem Pattern.ofSource_of_anchored {p : Pattern} (h : anchored p.source = p.source) :
    ofSource p.source = .ok p := by
  rw [ofSource]
  split
  · exact congrArg Except.ok (ext_source h)
  · next he =>
    rw [h, p.reads] at he
    cases he

theorem not_mem_anchored {c : Rune} {x : Text} (h : c ∉ x) (hc : c ≠ .char '^' ∧ c ≠ .char '$') :
    c ∉ anchored x := by
  rw [anchored]
  split
  · exact h
  · simp [h, hc]

namespace Pattern.FromTerm

variable {p : Pattern}

theorem ofSource_source (h : p.FromTerm) : ofSource p.source = .ok p := by
  obtain ⟨x, -, -, hp⟩ := h
  apply Pattern.ofSource_of_anchored
  rw [source_of_ofSource hp, anchored_anchored]

theorem isPattern (h : p.FromTerm) : IsPattern p.source := by
  obtain ⟨x, hx, -, hp⟩ := h
  exact source_of_ofSource hp ▸ hx.anchored

theorem noTab (h : p.FromTerm) : .char '\t' ∉ p.source := by
  obtain ⟨x, -, htab, hp⟩ := h
  exact source_of_ofSource hp ▸ not_mem_anchored htab (by decide)

theorem source_eq_cons (h : p.FromTerm) : ∃ t, p.source = .char '^' :: t := by
  obtain ⟨x, -, -, hp⟩ := h
  have hhead := head?_anchored x
  rw [← source_of_ofSource hp] at hhead
  exact List.head?_eq_some_iff.mp hhead

end Pattern.FromTerm

theorem Pattern.Writable.fromTerm {p : Pattern} (h : p.Writable) : p.FromTerm := h.source

theorem Pattern.Writable.verbatim {p : Pattern} (h : p.Writable) : Verbatim p.source :=
  ⟨h.fromTerm.isPattern, h.braces, h.fromTerm.noTab⟩

/-- An anchor keeps a pattern apart from everything else that may begin an operand. -/
theorem Pattern.Writable.isTag {p : Pattern} (h : p.Writable) : IsTag p.source := by
  obtain ⟨t, ht⟩ := h.fromTerm.source_eq_cons
  refine ⟨h.verbatim, fun c hc => ?_, fun w hw c _ => ?_⟩
  · obtain rfl : .char '^' = c := by simpa [ht] using hc
    decide
  · rw [ht]
    simp only [keywords, List.map_cons, List.map_nil, List.mem_cons, List.not_mem_nil, or_false]
      at hw
    rcases hw with rfl | rfl | rfl | rfl | rfl | rfl <;> rfl

theorem mem_ofInt {n : Int} {c : Rune} (h : c ∈ Text.ofInt n) :
    c = .char '-' ∨ .char '0' ≤ c ∧ c ≤ .char '9' := by
  cases n with
  | ofNat k => exact .inr ((Text.isDigits_ofNat k).2 c h)
  | negSucc k =>
    rcases List.mem_cons.mp h with rfl | h
    · exact .inl rfl
    · exact .inr ((Text.isDigits_ofNat (k + 1)).2 c h)

theorem verbatim_ofInt (n : Int) : Verbatim (Text.ofInt n) := by
  have hletter : ∀ c ∈ Text.ofInt n, IsLetter c ∧
      c ∉ [.char '\x7b', .char '\t', .char 'A', .char 'a', .char 'O', .char 'o', .char 'N',
      .char 'n'] := by
    intro c hc
    rcases mem_ofInt hc with rfl | hd
    · exact ⟨⟨by decide, by decide, by decide⟩, by decide⟩
    · refine ⟨isLetter_digit hd, fun hm => ?_⟩
      simp only [List.mem_cons, List.not_mem_nil, or_false] at hm
      rcases hm with rfl | rfl | rfl | rfl | rfl | rfl | rfl | rfl <;> revert hd <;> decide
  have hne : Text.ofInt n ≠ [] := by
    cases n with
    | ofNat k => exact (Text.isDigits_ofNat k).1
    | negSucc k => simp [Text.ofInt]
  refine ⟨isPattern_iff.mpr ⟨run_of_letters fun c hc => (hletter c hc).1, hne, fun hk => ?_⟩, ?_,
    fun ht => ?_⟩
  · have hkeys : ∀ w ∈ keywords, ∃ c ∈ w, c ∈ [.char '\x7b', .char '\t', .char 'A', .char 'a',
        .char 'O', .char 'o', .char 'N', .char 'n'] := by
      simp [keywords, Text.ofString]
    obtain ⟨c, hc, hm⟩ := hkeys _ hk
    exact (hletter c hc).2 hm
  · refine bracesClose_of_plain fun c hc hm => ?_
    rcases List.mem_cons.mp hm with rfl | hm
    · exact (hletter _ hc).2 (by simp)
    · exact (hletter c hc).1.1 hm
  · exact (hletter _ ht).2 (by simp)

/-! ## Filters as expressions -/

def Formula.All {α : Type} (P : α → Prop) : Formula α → Prop
  | .leaf a => P a
  | .not f => f.All P
  | .and l r | .or l r => l.All P ∧ r.All P

theorem Formula.All.mono {α : Type} {P Q : α → Prop} {f : Formula α} (h : f.All P)
    (hPQ : ∀ a, P a → Q a) : f.All Q := by
  induction f with
  | leaf a => exact hPQ a h
  | not f ih => exact ih h
  | and l r ihl ihr | or l r ihl ihr => exact ⟨ihl h.1, ihr h.2⟩

namespace Condition

def Writable : Condition → Prop
  | .tagExists tag => tag.Writable
  | .valueEquals tag value => tag.Writable ∧ value.Writable
  | .valueOrder _ tag bound => tag.Writable ∧ (Text.ofNat bound.natAbs).length ≤ Text.digitLimit

/-- The patterns of the condition stand for texts of terms, and its bound is short enough to be
read. -/
def FromTerm : Condition → Prop
  | .tagExists tag => tag.FromTerm
  | .valueEquals tag value => tag.FromTerm ∧ value.FromTerm
  | .valueOrder _ tag bound => tag.FromTerm ∧ (Text.ofNat bound.natAbs).length ≤ Text.digitLimit

theorem Writable.fromTerm {c : Condition} (h : c.Writable) : c.FromTerm := by
  cases c with
  | tagExists tag => exact Pattern.Writable.fromTerm h
  | valueEquals tag value => exact ⟨h.1.fromTerm, h.2.fromTerm⟩
  | valueOrder test tag bound => exact ⟨h.1.fromTerm, h.2⟩

def toExpr : Condition → Expr
  | .tagExists tag => .tag 0 tag.source
  | .valueEquals tag value => .comparison 0 tag.source .equal value.source
  | .valueOrder test tag bound => .comparison 0 tag.source test.comparator (Text.ofInt bound)

theorem rendering {c : Condition} (h : c.Writable) : Rendering false c.toExpr c.text := by
  have hgap : Text.IsGap [.char ' '] := by decide
  cases c with
  | tagExists tag => exact .tag 0 h.isTag
  | valueEquals tag value =>
    have hr :=
      Rendering.comparison 0 .equal h.1.isTag h.2.verbatim hgap (by decide) hgap (by decide)
    simpa [text, spaced, toExpr] using hr
  | valueOrder test tag bound =>
    have hr :=
      Rendering.comparison 0 test.comparator h.1.isTag (verbatim_ofInt bound) hgap (by decide) hgap
        (by decide)
    simpa [text, spaced, toExpr] using hr

theorem joinTree_toExpr {c : Condition} (h : c.FromTerm)
    (bookmark : Tree → Except CompileError Filter) :
    Filter.joinTree bookmark c.toExpr.toTree = .ok (.leaf c) := by
  cases c with
  | tagExists tag => exact Filter.joinTree_tag_iff.mpr ⟨tag, h.ofSource_source, rfl⟩
  | valueEquals tag value =>
    exact Filter.joinTree_equal_iff.mpr ⟨tag, value, h.1.ofSource_source, h.2.ofSource_source, rfl⟩
  | valueOrder test tag bound =>
    exact Filter.joinTree_order_iff.mpr ⟨tag, bound, h.1.ofSource_source,
      Text.readInteger_ofInt h.2, rfl⟩

end Condition

namespace Formula

variable {α : Type}

theorem writtenBefore_eq (leafText : α → Text) (f : Formula α) (rest : Text) :
    f.writtenBefore leafText rest = f.written leafText ++ rest := by
  rw [written]
  induction f generalizing rest with
  | leaf a => simp [writtenBefore]
  | not f ih =>
    simp only [writtenBefore]
    rw [ih, ih [.char ')']]
    simp
  | and l r ihl ihr | or l r ihl ihr =>
    simp only [writtenBefore]
    rw [ihl, ihr, ihl (_ ++ _), ihr [.char ')']]
    simp

end Formula

namespace Filter

def toExpr : Filter → Expr
  | .leaf c => c.toExpr
  | .not f => .not 0 (toExpr f)
  | .and l r => .and 0 [toExpr l, toExpr r]
  | .or l r => .or 0 [toExpr l, toExpr r]

theorem text_leaf (c : Condition) : text (.leaf c) = c.text := by
  simp [text, Formula.written, Formula.writtenBefore]

theorem text_not (f : Filter) :
    text (.not f) = [.char 'N', .char 'O', .char 'T'] ++
    ([.char ' '] ++ (.char '(' :: (text f ++ [.char ')']))) := by
  simp only [text]
  rw [Formula.written, Formula.writtenBefore, Formula.writtenBefore_eq]
  simp

theorem text_and (l r : Filter) : text (.and l r) =
    (.char '(' :: (text l ++ [.char ')'])) ++
    ([.char ' '] ++ ([.char 'A', .char 'N', .char 'D'] ++
    ([.char ' '] ++ (.char '(' :: (text r ++ [.char ')']))))) := by
  simp only [text]
  rw [Formula.written, Formula.writtenBefore, Formula.writtenBefore_eq, Formula.writtenBefore_eq]
  simp

theorem text_or (l r : Filter) : text (.or l r) =
    (.char '(' :: (text l ++ [.char ')'])) ++
    ([.char ' '] ++ ([.char 'O', .char 'R'] ++
    ([.char ' '] ++ (.char '(' :: (text r ++ [.char ')']))))) := by
  simp only [text]
  rw [Formula.written, Formula.writtenBefore, Formula.writtenBefore_eq, Formula.writtenBefore_eq]
  simp

theorem rendering_group {wrapped : Bool} {e : Expr} {t : Text} (h : Rendering wrapped e t) :
    Rendering true e (.char '(' :: (t ++ [.char ')'])) := by
  have hnil : Text.IsGap [] := by decide
  exact .wrap hnil hnil h

theorem chain_pair {k : Symbol} {b c : Bool} {e f : Expr} {s t u : Text} (hs : s ∈ k.spellings)
    (ht : Rendering b e t) (hu : Rendering c f u) :
    Chain k [e, f] ((.char '(' :: (t ++ [.char ')'])) ++
      ([.char ' '] ++ (s ++ ([.char ' '] ++ (.char '(' :: (u ++ [.char ')'])))))) := by
  have hgap : Text.IsGap [.char ' '] := by decide
  have hne : [Rune.char ' '] ≠ [] := by decide
  exact .more (.one (rendering_group ht) fun _ =>
    rfl) hs hgap hne hgap hne (rendering_group hu) fun _ => rfl

theorem rendering {f : Filter} (h : f.All Condition.Writable) :
    Rendering false (toExpr f) f.text := by
  induction f with
  | leaf c =>
    rw [text_leaf]
    exact Condition.rendering h
  | not f ih =>
    rw [text_not]
    exact .not 0 (by decide) (by decide) (by decide) (rendering_group (ih h)) fun _ => rfl
  | and l r ihl ihr =>
    rw [text_and]
    exact .and 0 (chain_pair (by decide) (ihl h.1) (ihr h.2)) (by simp)
  | or l r ihl ihr =>
    rw [text_or]
    exact .or 0 (chain_pair (by decide) (ihl h.1) (ihr h.2)) (by simp)

/-! ## Compiling them -/

theorem joinTree_toExpr_of_fromTerm {f : Filter} (h : f.All Condition.FromTerm)
    (bookmark : Tree → Except CompileError Filter) :
    joinTree bookmark (toExpr f).toTree = .ok f := by
  induction f with
  | leaf c => exact Condition.joinTree_toExpr h bookmark
  | not f ih => exact joinTree_not_iff.mpr ⟨f, ih h, rfl⟩
  | and l r ihl ihr =>
    refine joinTree_and_iff.mpr ⟨by simp, l, [r], ?_, rfl⟩
    exact .cons (ihl h.1) (.cons (ihr h.2) .nil)
  | or l r ihl ihr =>
    refine joinTree_or_iff.mpr ⟨by simp, l, [r], ?_, rfl⟩
    exact .cons (ihl h.1) (.cons (ihr h.2) .nil)

theorem joinTree_toExpr {f : Filter} (h : f.All Condition.Writable)
    (bookmark : Tree → Except CompileError Filter) :
    joinTree bookmark (toExpr f).toTree = .ok f :=
  joinTree_toExpr_of_fromTerm (h.mono fun _ => Condition.Writable.fromTerm) bookmark

/-- A connective sees only how many operands it has and what they are joined to. -/
theorem joinTree_congr {bookmark : Tree → Except CompileError Filter} {rule : Rule} {c : Connective}
    {ts us : List Tree} (hc : Connective.ofRule? rule = some c) (hlen : ts.length = us.length)
    (h : joinTrees bookmark ts = joinTrees bookmark us)
    (m n : Nat) : joinTree bookmark (.node rule ts m) = joinTree bookmark (.node rule us n) := by
  simp only [joinTree, hc, hlen, h]

mutual

theorem joinTree_unplaced (bookmark : Tree → Except CompileError Filter) :
    (e : Expr) → joinTree bookmark e.unplaced.toTree = joinTree bookmark e.toTree
  | .tag _ _ | .comparison _ _ _ _ | .bookmark _ _ => rfl
  | .not n e => by
    have he : joinTrees bookmark [e.unplaced.toTree] = joinTrees bookmark [e.toTree] := by
      simp only [joinTrees, joinTree_unplaced bookmark e]
    exact joinTree_congr (c := .not) rfl (by rfl) he 0 n
  | .and n es => joinTree_congr (c := .and) rfl (by simp [length_toTrees, Term.length_unplacedAll])
      (joinTrees_unplaced bookmark es) 0 n
  | .or n es => joinTree_congr (c := .or) rfl (by simp [length_toTrees, Term.length_unplacedAll])
      (joinTrees_unplaced bookmark es) 0 n

theorem joinTrees_unplaced (bookmark : Tree → Except CompileError Filter) :
    (es : List Expr) → joinTrees bookmark (Expr.toTrees (Expr.unplacedAll es)) = joinTrees bookmark
    (Expr.toTrees es)
  | [] => rfl
  | e :: es => by
    simp only [Expr.unplacedAll, Expr.toTrees, joinTrees, joinTree_unplaced bookmark e,
      joinTrees_unplaced bookmark es]

end

theorem ofTerm_eq_ok_of_joinTree {resolve : Option Resolver} {term : Text} {e : Expr} {f : Filter}
    (he : Expr.ofTerm term = .ok e) (hf : ∀ bookmark, joinTree bookmark e.toTree = .ok f) :
    ofTerm resolve term = .ok f := by
  have hdepth : ofTermAt resolve depthLimit [] term = .ok f := by
    cases hd : depthLimit with
    | zero => exact ofTermWith_eq_ok_iff.mpr ⟨e, he, hf _⟩
    | succ depth => exact ofTermWith_eq_ok_iff.mpr ⟨e, he, hf _⟩
  exact ofTerm_iff_ofTermAt.mpr hdepth

/-- The canonical term of a filter compiles to that filter. -/
theorem ofTerm_text {f : Filter} (h : f.All Condition.Writable) : ofTerm none f.text = .ok f := by
  have hphrase := ((rendering h).expandTabsFrom 0).phrase .opening (by simp [Symbol.wraps])
  have hnil : Text.IsGap [] := by decide
  have hexpand : Text.expandTabs f.text = [] ++ (Text.expandTabsFrom 0 f.text ++ []) := by
    simp [Text.expandTabs]
  obtain ⟨e, he, hunplaced⟩ := ofTerm_of_phrase hexpand hnil hnil hphrase
  refine ofTerm_eq_ok_of_joinTree he fun bookmark => ?_
  rw [← joinTree_unplaced, hunplaced, joinTree_unplaced, joinTree_toExpr h]

theorem ofTerm_text_nested :
    ∃ p q : Pattern, Pattern.ofSource (Text.ofString "(NOT|\\))x\x7b2\x7d") = .ok p ∧
    Pattern.ofSource (Text.ofString "[(]") = .ok q ∧
      let f : Filter :=
        .not (.and (.leaf (.tagExists p))
          (.or (.leaf (.valueEquals p q)) (.leaf (.valueOrder .less q (-7)))))
      ofTerm none f.text = .ok f := by
  have hok : ∀ x ∈ [Text.ofString "(NOT|\\))x\x7b2\x7d", Text.ofString "[(]"],
    (Pattern.ofSource x).isOk = true ∧ IsPattern x ∧ .char '\t' ∉ x ∧
      bracesClose 0 (anchored x) = true := by decide +kernel
  have hwritable : ∀ x ∈ [Text.ofString "(NOT|\\))x\x7b2\x7d", Text.ofString "[(]"], ∃ p,
      Pattern.ofSource x = .ok p ∧ p.Writable := by
    intro x hx
    obtain ⟨hread, hpattern, htab, hbraces⟩ := hok x hx
    cases hp : Pattern.ofSource x with
    | error e => rw [hp] at hread; cases hread
    | ok p => exact ⟨p, rfl, ⟨x, hpattern, htab, hp⟩, Pattern.source_of_ofSource hp ▸ hbraces⟩
  obtain ⟨p, hp, hpw⟩ := hwritable (Text.ofString "(NOT|\\))x\x7b2\x7d") (by simp)
  obtain ⟨q, hq, hqw⟩ := hwritable (Text.ofString "[(]") (by simp)
  exact ⟨p, q, hp, hq, ofTerm_text ⟨hpw, ⟨hpw, hqw⟩, hqw, by decide⟩⟩

end Filter

end FileTags

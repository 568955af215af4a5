import FileTags.Proofs.Filter.Leaf
import Mathlib.Logic.Relation

/-!
# References between bookmarks

The bookmarks of a term lead to terms, whose bookmarks lead to further terms. With a finite table of
bookmarks every expansion comes to an end, since no name comes up inside its own expansion; how deep
it goes is bounded by the number of names that are not being expanded. If everything a term leads to
can be read and compiled, the only thing that can go wrong is a bookmark that leads back to itself,
and the filter of a term depends on nothing but the filters of the terms it mentions.
-/

set_option autoImplicit false

namespace FileTags

open Relation (ReflTransGen TransGen)

def Mentions (t name : Text) : Prop := ∃ e n, Expr.ofTerm t = .ok e ∧ .bookmark n name ∈ e.leaves

def Compilable (t : Text) : Prop :=
  ∃ e, Expr.ofTerm t = .ok e ∧
    ∀ leaf ∈ e.leaves, (∃ n name, leaf = .bookmark n name) ∨
      ∃ f, Filter.ofTree none leaf.toTree = .ok f

def Expr.name? : Expr → Option Text
  | .bookmark _ name => some name
  | _ => none

theorem Expr.name?_eq_some_iff {e : Expr} {name : Text} :
    e.name? = some name ↔ ∃ n, e = .bookmark n name := by
  cases e <;> simp [Expr.name?]

def mentioned (t : Text) : List Text :=
  match Expr.ofTerm t with
  | .ok e => e.leaves.filterMap Expr.name?
  | .error _ => []

theorem mem_mentioned {t name : Text} : name ∈ mentioned t ↔ Mentions t name := by
  rw [mentioned, Mentions]
  cases Expr.ofTerm t <;> simp [Expr.name?_eq_some_iff]

instance (t name : Text) : Decidable (Mentions t name) :=
  decidable_of_iff ((mentioned t).contains name = true) (List.contains_iff_mem.trans mem_mentioned)

instance (t : Text) : Decidable (Compilable t) :=
  match h : Expr.ofTerm t with
  | .ok e =>
    decidable_of_iff (∀ leaf ∈ e.leaves, leaf.name?.isSome ∨
    (Filter.ofTree none leaf.toTree).isOk) <| by
      have hok : ∀ r : Except CompileError Filter, r.isOk = true ↔ ∃ f, r = .ok f := fun r => by
        cases r <;> simp [Except.isOk, Except.toBool]
      have hname : ∀ leaf : Expr, leaf.name?.isSome = true ↔ ∃ n name, leaf = .bookmark n name :=
        fun leaf => by
        cases leaf <;> simp [Expr.name?]
      simp only [Compilable, h, Except.ok.injEq, exists_eq_left', hok, hname]
  | .error x => .isFalse fun ⟨e, he, _⟩ => by simp [h] at he

namespace Resolver

variable (lookUp : Resolver)

def RefersTo (name other : Text) : Prop := ∃ term, lookUp name = .ok term ∧ Mentions term other

def Reaches (t name : Text) : Prop :=
  ∃ first, Mentions t first ∧ ReflTransGen lookUp.RefersTo first name

/-- The bookmarks of the term lead to one that leads back to itself. -/
def Cyclic (t : Text) : Prop := ∃ name, lookUp.Reaches t name ∧ TransGen lookUp.RefersTo name name

/-- The term compiles but for its bookmarks, and those lead to terms for which the same holds. -/
structure Sound (t : Text) : Prop where
  compilable : Compilable t
  found : ∀ name, lookUp.Reaches t name → ∃ term, lookUp name = .ok term ∧ Compilable term

variable {lookUp} {t term name other : Text}

theorem Reaches.direct (h : Mentions t name) : lookUp.Reaches t name := ⟨name, h, .refl⟩

theorem Reaches.through (h : Mentions t name) (hl : lookUp name = .ok term)
    (hr : lookUp.Reaches term other) :
    lookUp.Reaches t other := by
  obtain ⟨first, hm, hr⟩ := hr
  exact ⟨name, h, .head ⟨term, hl, hm⟩ hr⟩

/-- A reached name is mentioned, or the term of a mentioned bookmark leads to it. -/
theorem Reaches.cases (h : lookUp.Reaches t other) :
    Mentions t other ∨ ∃ name term, Mentions t name ∧ lookUp name = .ok term ∧
    lookUp.Reaches term other := by
  obtain ⟨first, hm, hr⟩ := h
  rcases hr.cases_head with rfl | ⟨second, ⟨term, hl, hs⟩, hr⟩
  · exact .inl hm
  · exact .inr ⟨first, term, hm, hl, second, hs, hr⟩

theorem Sound.through (hs : lookUp.Sound t) (h : Mentions t name) (hl : lookUp name = .ok term) :
    lookUp.Sound term := by
  constructor
  · obtain ⟨term', hl', hc⟩ := hs.found name (.direct h)
    obtain rfl := Except.ok.inj (hl.symm.trans hl')
    exact hc
  · exact fun other hr => hs.found other (.through h hl hr)

/-- Names whose terms mention no others are all that a term mentioning some of them leads to. -/
theorem Reaches.mem {names : List Text} (hm : ∀ name ∈ mentioned t, name ∈ names)
    (hn : ∀ name ∈ names, ∀ term, lookUp name = .ok term → ∀ other ∈ mentioned term, other ∈ names)
    (h : lookUp.Reaches t name) :
    name ∈ names := by
  obtain ⟨first, hfirst, hr⟩ := h
  induction hr with
  | refl => exact hm _ (mem_mentioned.mpr hfirst)
  | tail _ hr ih =>
    obtain ⟨term, hl, hother⟩ := hr
    exact hn _ ih term hl _ (mem_mentioned.mpr hother)

/-- A term is sound if it compiles and mentions only names that are all found, in terms that compile
and mention no others. -/
theorem sound_of_closed {names : List Text} (ht : Compilable t)
    (hm : ∀ name ∈ mentioned t, name ∈ names)
    (hn : ∀ name ∈ names, ∃ term, lookUp name = .ok term ∧ Compilable term ∧
      ∀ other ∈ mentioned term, other ∈ names) :
    lookUp.Sound t := by
  have hclosed : ∀ name ∈ names, ∀ term, lookUp name = .ok term →
      ∀ other ∈ mentioned term, other ∈ names := by
    intro name hname term hl
    obtain ⟨term', hl', -, hmentioned⟩ := hn name hname
    obtain rfl := Except.ok.inj (hl.symm.trans hl')
    exact hmentioned
  refine ⟨ht, fun name hr => ?_⟩
  obtain ⟨term, hl, hc, -⟩ := hn name (hr.mem hm hclosed)
  exact ⟨term, hl, hc⟩

theorem refersTo_trans_iff : TransGen lookUp.RefersTo name other ↔
    ∃ term, lookUp name = .ok term ∧ lookUp.Reaches term other := by
  rw [Relation.TransGen.head'_iff]
  constructor
  · rintro ⟨second, ⟨term, hl, hm⟩, hr⟩
    exact ⟨term, hl, second, hm, hr⟩
  · rintro ⟨term, hl, second, hm, hr⟩
    exact ⟨second, ⟨term, hl, hm⟩, hr⟩

end Resolver

namespace Filter

open Resolver

/-! ## One level of expansion -/

def nested (resolve : Option Resolver) : Nat → List Text → Text → Except CompileError Filter
  | 0 => fun _ _ => .error .tooDeep
  | depth + 1 => ofTermAt resolve depth

variable {resolve : Option Resolver} {lookUp : Resolver} {depth : Nat} {expanding : List Text}
  {t : Text}

theorem ofTermAt_eq (depth : Nat) :
    ofTermAt resolve depth = ofTermWith resolve (nested resolve depth) := by
  cases depth <;> rfl

theorem ofTermAt_read {e : Expr} (he : Expr.ofTerm t = .ok e) (depth : Nat)
    (expanding : List Text) :
    ofTermAt resolve depth expanding t =
      joinTree (ofBookmark resolve (nested resolve depth) expanding) e.toTree := by
  rw [ofTermAt_eq, ofTermWith, he]
  exact fold_tree _

theorem ofTermAt_unread {x : SyntaxError} (he : Expr.ofTerm t = .error x) (depth : Nat)
    (expanding : List Text) :
    ofTermAt resolve depth expanding t = .error (.badSyntax x) := by
  rw [ofTermAt_eq, ofTermWith, he]

theorem ofTermAt_eq_ok_iff {f : Filter} : ofTermAt resolve depth expanding t = .ok f ↔
    ∃ e, Expr.ofTerm t = .ok e ∧
    joinTree (ofBookmark resolve (nested resolve depth) expanding) e.toTree = .ok f := by
  rw [ofTermAt_eq]
  exact ofTermWith_eq_ok_iff

theorem joinTree_eq_of_mentions {e : Expr} (he : Expr.ofTerm t = .ok e)
    {bookmark bookmark' : Tree → Except CompileError Filter}
    (h : ∀ name, Mentions t name → bookmark (.text name) = bookmark' (.text name)) :
    joinTree bookmark e.toTree = joinTree bookmark' e.toTree := by
  refine joinTree_eq_of_leaves e fun leaf hleaf => ?_
  by_cases hb : ∃ n name, leaf = .bookmark n name
  · obtain ⟨n, name, rfl⟩ := hb
    rw [joinTree_bookmark, joinTree_bookmark, h name ⟨e, n, he, hleaf⟩]
  · have hkind := Expr.isLeaf_of_mem_leaves e hleaf
    rw [joinTree_leaf hkind hb, joinTree_leaf hkind hb]

/-- What compiles the terms of bookmarks passes its errors of depth on, and makes no other
difference. -/
theorem ofTermWith_deeper {next next' : List Text → Text → Except CompileError Filter}
    (h : ∀ expanding t, next expanding t = .error .tooDeep ∨ next expanding t = next' expanding t)
    (expanding : List Text) (t : Text) :
    ofTermWith resolve next expanding t = .error .tooDeep ∨
      ofTermWith resolve next expanding t = ofTermWith resolve next' expanding t := by
  simp only [ofTermWith]
  cases Expr.ofTerm t with
  | error x => exact .inr rfl
  | ok e =>
    simp only [fold_tree]
    suffices hunless : (∃ x, x = .tooDeep ∧
      joinTree (ofBookmark resolve next expanding) e.toTree = .error x) ∨
        joinTree (ofBookmark resolve next expanding) e.toTree =
          joinTree (ofBookmark resolve next' expanding) e.toTree by
      simpa using hunless
    refine joinTree_eq_unless e fun leaf hleaf => ?_
    by_cases hb : ∃ n name, leaf = .bookmark n name
    · obtain ⟨n, name, rfl⟩ := hb
      simp only [joinTree_bookmark, ofBookmark, exists_eq_left]
      split
      · exact .inr rfl
      · split
        · exact .inr rfl
        · split
          · exact h _ _
          · exact .inr rfl
    · have hkind := Expr.isLeaf_of_mem_leaves e hleaf
      rw [joinTree_leaf hkind hb, joinTree_leaf hkind hb]
      exact .inr rfl

/-- More depth makes a difference only to a term whose bookmarks nest too deeply. -/
theorem nested_deeper {depth' : Nat} (hd : depth ≤ depth') (expanding : List Text) (t : Text) :
    nested resolve depth expanding t = .error .tooDeep ∨
      nested resolve depth expanding t = nested resolve depth' expanding t := by
  induction depth generalizing depth' expanding t with
  | zero => exact .inl rfl
  | succ depth ih =>
    cases depth' with
    | zero => omega
    | succ depth' =>
      change ofTermAt resolve depth expanding t = _ ∨
        ofTermAt resolve depth expanding t = ofTermAt resolve depth' expanding t
      rw [ofTermAt_eq, ofTermAt_eq]
      exact ofTermWith_deeper (ih (by omega)) expanding t

theorem ofTermAt_deeper {depth' : Nat} (hd : depth ≤ depth') (expanding : List Text) (t : Text) :
    ofTermAt resolve depth expanding t = .error .tooDeep ∨
      ofTermAt resolve depth expanding t = ofTermAt resolve depth' expanding t := by
  rw [ofTermAt_eq, ofTermAt_eq]
  exact ofTermWith_deeper (nested_deeper hd) expanding t

/-- A term compiles as it does at a depth that suffices, unless its bookmarks nest beyond the
limit. -/
theorem ofTerm_eq_of_deep (h : ofTermAt resolve depth [] t ≠ .error .tooDeep) :
    ofTerm resolve t = ofTermAt resolve depth [] t ∨
      depthLimit < depth ∧ ofTerm resolve t = .error (.badSyntax (tooDeepAt t)) := by
  have hlimit : depthLimit < depth ∧ ofTermAt resolve depthLimit [] t = .error .tooDeep ∨
      ofTermAt resolve depthLimit [] t = ofTermAt resolve depth [] t := by
    rcases Nat.lt_or_ge depthLimit depth with hd | hd
    · exact (ofTermAt_deeper (Nat.le_of_lt hd) [] t).imp_left fun hl => ⟨hd, hl⟩
    · exact .inr ((ofTermAt_deeper hd [] t).resolve_left h).symm
  rw [ofTerm]
  rcases hlimit with ⟨hd, hl⟩ | hl
  · exact .inr ⟨hd, by rw [hl]⟩
  · rw [hl]
    split
    · next hx => exact absurd hx h
    · exact .inl rfl

/-! ## Tables -/

section table

variable (terms : List (Text × Text))

def unexpanded (expanding : List Text) : Nat :=
  ((terms.map Prod.fst).filter fun name => !expanding.contains name).length

theorem unexpanded_le (expanding : List Text) : unexpanded terms expanding ≤ terms.length :=
  Nat.le_trans (List.length_filter_le _ _) (Nat.le_of_eq (List.length_map _))

variable {terms} {name term : Text}

theorem mem_names_of_ofTable (h : ofTable terms name = .ok term) : name ∈ terms.map Prod.fst := by
  rw [ofTable] at h
  cases hl : terms.lookup name with
  | none => simp [hl] at h
  | some s =>
    obtain ⟨l, r, rfl, -⟩ := List.lookup_eq_some_iff.mp hl
    simp

/-- A name that is looked up and not yet expanded is one name less. -/
theorem unexpanded_cons_lt (h : ofTable terms name = .ok term) (hn : name ∉ expanding) :
    unexpanded terms (name :: expanding) < unexpanded terms expanding := by
  have hfilter : (terms.map Prod.fst).filter (fun other => !(name :: expanding).contains other) =
      ((terms.map Prod.fst).filter fun other => !expanding.contains other).filter (· ≠ name) := by
    rw [List.filter_filter]
    simp
  rw [unexpanded, unexpanded, hfilter, List.length_filter_lt_length_iff_exists]
  exact ⟨name, List.mem_filter.mpr ⟨mem_names_of_ofTable h, by simpa using hn⟩, by simp⟩

theorem ofBookmark_expanding (h : name ∈ expanding)
    (next : List Text → Text → Except CompileError Filter) :
    ofBookmark (some lookUp) next expanding (.text name) = .error (.bookmark (.cyclic name)) := by
  simp [ofBookmark, Tree.plain, h]

theorem ofBookmark_unresolved {x : CompileError} (h : name ∉ expanding)
    (hl : lookUp name = .error x) (next : List Text → Text → Except CompileError Filter) :
    ofBookmark (some lookUp) next expanding (.text name) = .error x := by
  simp [ofBookmark, Tree.plain, h, hl]

theorem ofBookmark_resolved (h : name ∉ expanding) (hl : lookUp name = .ok term)
    (next : List Text → Text → Except CompileError Filter) :
    ofBookmark (some lookUp) next expanding (.text name) = next (name :: expanding) term := by
  simp [ofBookmark, Tree.plain, h, hl]

/-- A depth for all names that are not yet expanded leaves one for those inside another. -/
theorem ofBookmark_nested (hd : unexpanded terms expanding ≤ depth) (h : name ∉ expanding)
    (hl : ofTable terms name = .ok term) :
    ∃ below, unexpanded terms (name :: expanding) ≤ below ∧
      ofBookmark (some (ofTable terms)) (nested (some (ofTable terms)) depth) expanding
        (.text name) =
        ofTermAt (some (ofTable terms)) below (name :: expanding) term := by
  have hlt := unexpanded_cons_lt hl h
  cases depth with
  | zero => omega
  | succ below => exact ⟨below, by omega, ofBookmark_resolved h hl _⟩

/-- The depth makes no difference if it suffices for the names that are not yet expanded, and no
more do expanded names that the term does not lead to. By induction on the number of names that are
not expanded. -/
theorem ofTermAt_congr {depth' : Nat} {expanding' : List Text}
    (hd : unexpanded terms expanding ≤ depth) (hd' : unexpanded terms expanding' ≤ depth')
    (hagree : ∀ name, (ofTable terms).Reaches t name → (name ∈ expanding ↔ name ∈ expanding')) :
    ofTermAt (some (ofTable terms)) depth expanding t =
      ofTermAt (some (ofTable terms)) depth' expanding' t := by
  induction hk : unexpanded terms expanding using Nat.strongRecOn
    generalizing depth depth' expanding expanding' t with
  | ind k ih =>
  subst hk
  cases he : Expr.ofTerm t with
  | error x => rw [ofTermAt_unread he, ofTermAt_unread he]
  | ok e =>
    rw [ofTermAt_read he, ofTermAt_read he]
    refine joinTree_eq_of_mentions he fun name hm => ?_
    have hiff := hagree name (.direct hm)
    by_cases hn : name ∈ expanding
    · rw [ofBookmark_expanding hn, ofBookmark_expanding (hiff.mp hn)]
    · have hn' : name ∉ expanding' := fun h => hn (hiff.mpr h)
      cases hl : ofTable terms name with
      | error x => rw [ofBookmark_unresolved hn hl, ofBookmark_unresolved hn' hl]
      | ok term =>
        obtain ⟨below, hbelow, heq⟩ := ofBookmark_nested hd hn hl
        obtain ⟨below', hbelow', heq'⟩ := ofBookmark_nested hd' hn' hl
        rw [heq, heq']
        refine ih _ (unexpanded_cons_lt hl hn) hbelow hbelow' (fun other hr => ?_) rfl
        rw [List.mem_cons, List.mem_cons, hagree other (.through hm hl hr)]

/-! ## What goes wrong -/

/-- Why a term has no filter while some bookmarks are expanded: it cannot be read, one of its leaves
fails, or one of its bookmarks is being expanded, is not found, or stands for a term that has no
filter. -/
inductive Fails (lookUp : Resolver) : List Text → Text → CompileError → Prop
  | unread {expanding : List Text} {t : Text} {x : SyntaxError} (h : Expr.ofTerm t = .error x) :
      Fails lookUp expanding t (.badSyntax x)
  | leaf {expanding : List Text} {t : Text} {e leaf : Expr} {x : CompileError}
      (he : Expr.ofTerm t = .ok e)
      (hl : leaf ∈ e.leaves) (hn : ¬ ∃ n name, leaf = .bookmark n name)
        (h : ofTree none leaf.toTree = .error x) :
      Fails lookUp expanding t x
  | cyclic {expanding : List Text} {t name : Text} (hm : Mentions t name) (h : name ∈ expanding) :
      Fails lookUp expanding t (.bookmark (.cyclic name))
  | unresolved {expanding : List Text} {t name : Text} {x : CompileError} (hm : Mentions t name)
      (hn : name ∉ expanding)
      (h : lookUp name = .error x) : Fails lookUp expanding t x
  | nested {expanding : List Text} {t name term : Text} {x : CompileError} (hm : Mentions t name)
      (hn : name ∉ expanding)
      (hl : lookUp name = .ok term) (h : Fails lookUp (name :: expanding) term x) :
        Fails lookUp expanding t x

theorem fails_of_error {x : CompileError} (hd : unexpanded terms expanding ≤ depth)
    (h : ofTermAt (some (ofTable terms)) depth expanding t = .error x) :
    Fails (ofTable terms) expanding t x := by
  induction hk : unexpanded terms expanding using Nat.strongRecOn
    generalizing depth expanding t with
  | ind k ih =>
  subst hk
  cases he : Expr.ofTerm t with
  | error y =>
    obtain rfl : .badSyntax y = x := by simpa [ofTermAt_unread he] using h
    exact .unread he
  | ok e =>
    rw [ofTermAt_read he] at h
    obtain ⟨leaf, hleaf, hx⟩ := joinTree_error_leaf e (Expr.shaped_of_ofTerm he) h
    by_cases hb : ∃ n name, leaf = .bookmark n name
    · obtain ⟨n, name, rfl⟩ := hb
      have hm : Mentions t name := ⟨e, n, he, hleaf⟩
      rw [joinTree_bookmark] at hx
      by_cases hn : name ∈ expanding
      · rw [ofBookmark_expanding hn] at hx
        cases hx
        exact .cyclic hm hn
      · cases hl : ofTable terms name with
        | error y =>
          rw [ofBookmark_unresolved hn hl] at hx
          cases hx
          exact .unresolved hm hn hl
        | ok term =>
          obtain ⟨below, hbelow, heq⟩ := ofBookmark_nested hd hn hl
          rw [heq] at hx
          exact .nested hm hn hl (ih _ (unexpanded_cons_lt hl hn) hbelow hx rfl)
    · rw [joinTree_leaf (Expr.isLeaf_of_mem_leaves e hleaf) hb] at hx
      exact .leaf he hleaf hb hx

theorem ofTable_error {x : CompileError} (h : ofTable terms name = .error x) :
    x = .bookmark (.unknown name) := by
  rw [ofTable] at h
  cases hl : terms.lookup name <;> simp only [hl, Except.error.injEq, reduceCtorEq] at h
  exact h.symm

theorem Fails.ne_tooDeep {x : CompileError} (h : Fails (ofTable terms) expanding t x) :
    x ≠ .tooDeep := by
  rintro rfl
  generalize hx : CompileError.tooDeep = x at h
  induction h with
  | unread | cyclic => cases hx
  | leaf he hl hn h =>
    subst hx
    exact ofLeaf_of_error (Expr.isLeaf_of_mem_leaves _ hl) hn h
  | unresolved hm hn h => cases hx.trans (ofTable_error h)
  | nested hm hn hl h ih => exact ih hx

/-- A bookmark that is reported to refer to itself is reached. It is being expanded, or else it
leads back to itself. -/
theorem Fails.reaches {c : Text} (h : Fails (ofTable terms) expanding t (.bookmark (.cyclic c))) :
    (ofTable terms).Reaches t c ∧ (c ∈ expanding ∨ TransGen (ofTable terms).RefersTo c c) := by
  generalize hx : CompileError.bookmark (.cyclic c) = x at h
  induction h with
  | unread => cases hx
  | leaf he hl hn h =>
    subst hx
    exact (ofLeaf_of_error (Expr.isLeaf_of_mem_leaves _ hl) hn h).elim
  | cyclic hm h =>
    cases hx
    exact ⟨.direct hm, .inl h⟩
  | unresolved hm hn h => cases hx.trans (ofTable_error h)
  | nested hm hn hl h ih =>
    obtain ⟨hr, hc⟩ := ih hx
    refine ⟨.through hm hl hr, ?_⟩
    rcases hc with hc | hc
    · rcases List.mem_cons.mp hc with rfl | hc
      · exact .inr (refersTo_trans_iff.mpr ⟨_, hl, hr⟩)
      · exact .inl hc
    · exact .inr hc

/-- Where all else is in order, only a bookmark that refers to itself goes wrong. -/
theorem Fails.cyclic_of_sound {x : CompileError} (h : Fails lookUp expanding t x)
    (hs : lookUp.Sound t) :
    ∃ name, x = .bookmark (.cyclic name) := by
  induction h with
  | unread h =>
    obtain ⟨e, he, -⟩ := hs.compilable
    cases h.symm.trans he
  | leaf he hl hn h =>
    obtain ⟨e, he', hleaves⟩ := hs.compilable
    obtain rfl := Except.ok.inj (he.symm.trans he')
    rcases hleaves _ hl with hb | ⟨f, hf⟩
    · exact absurd hb hn
    · cases h.symm.trans hf
  | cyclic hm h => exact ⟨_, rfl⟩
  | unresolved hm hn h =>
    obtain ⟨term, hl, -⟩ := hs.found _ (.direct hm)
    cases h.symm.trans hl
  | nested hm hn hl h ih => exact ih (hs.through hm hl)

/-! ## What goes well -/

/-- The bookmarks of a term with a filter are not being expanded, and their terms have filters one
level down. -/
theorem bookmark_of_ok {f : Filter} (h : ofTermAt (some lookUp) depth expanding t = .ok f)
    (hm : Mentions t name) :
    name ∉ expanding ∧ ∃ below term g, depth = below + 1 ∧ lookUp name = .ok term ∧
      ofTermAt (some lookUp) below (name :: expanding) term = .ok g := by
  obtain ⟨e, n, he, hleaf⟩ := hm
  rw [ofTermAt_read he] at h
  obtain ⟨g, hg⟩ := joinTree_ok_leaf e h _ hleaf
  rw [joinTree_bookmark, ofBookmark_eq_ok_iff] at hg
  obtain ⟨_, term, ⟨⟩, hn, hl, hg⟩ := hg
  cases depth with
  | zero => cases hg
  | succ below => exact ⟨hn, below, term, g, rfl, hl, hg⟩

/-- A term with a filter reaches no bookmark that is being expanded, and none that leads back to
itself. -/
theorem acyclic_of_ok {f : Filter} (h : ofTermAt (some lookUp) depth expanding t = .ok f) :
    ∀ name, lookUp.Reaches t name → name ∉ expanding ∧ ¬ TransGen lookUp.RefersTo name name := by
  induction depth generalizing expanding t f with
  | zero =>
    intro name hr
    obtain ⟨first, hm, -⟩ := hr
    obtain ⟨-, below, _, _, hdepth, -⟩ := bookmark_of_ok h hm
    cases hdepth
  | succ depth ih =>
    intro name hr
    rcases hr.cases with hm | ⟨first, term, hm, hl, hr⟩
    · obtain ⟨hn, _, term, g, ⟨⟩, hl, hg⟩ := bookmark_of_ok h hm
      refine ⟨hn, fun hcycle => ?_⟩
      -- A name that its own term leads to would be reached while it is expanded.
      obtain ⟨term', hl', hr⟩ := refersTo_trans_iff.mp hcycle
      obtain rfl := Except.ok.inj (hl.symm.trans hl')
      exact (ih hg name hr).1 List.mem_cons_self
    · obtain ⟨hn, _, term', g, ⟨⟩, hl', hg⟩ := bookmark_of_ok h hm
      obtain rfl := Except.ok.inj (hl.symm.trans hl')
      exact ⟨fun he => (ih hg name hr).1 (List.mem_cons_of_mem _ he), (ih hg name hr).2⟩

/-! ## The whole of it -/

theorem error_cyclic_iff (hs : (ofTable terms).Sound t) (hd : unexpanded terms [] ≤ depth) :
    (∃ name, ofTermAt (some (ofTable terms)) depth [] t = .error (.bookmark (.cyclic name))) ↔
    (ofTable terms).Cyclic t := by
  constructor
  · rintro ⟨name, h⟩
    obtain ⟨hr, hc⟩ := (fails_of_error hd h).reaches
    exact ⟨name, hr, hc.resolve_left List.not_mem_nil⟩
  · rintro ⟨name, hr, hc⟩
    cases h : ofTermAt (some (ofTable terms)) depth [] t with
    | ok f => exact absurd hc (acyclic_of_ok h name hr).2
    | error x =>
      obtain ⟨c, rfl⟩ := (fails_of_error hd h).cyclic_of_sound hs
      exact ⟨c, rfl⟩

theorem ok_of_acyclic (hs : (ofTable terms).Sound t) (hd : unexpanded terms [] ≤ depth)
    (hc : ¬ (ofTable terms).Cyclic t) :
    ∃ f, ofTermAt (some (ofTable terms)) depth [] t = .ok f := by
  cases h : ofTermAt (some (ofTable terms)) depth [] t with
  | ok f => exact ⟨f, rfl⟩
  | error x =>
    obtain ⟨c, rfl⟩ := (fails_of_error hd h).cyclic_of_sound hs
    exact absurd ((error_cyclic_iff hs hd).mp ⟨c, h⟩) hc

/-- Without cycles a bookmark may be compiled as if no other were being expanded. -/
theorem ofTermAt_eq_joinTree (hd : unexpanded terms [] ≤ depth) (hc : ¬ (ofTable terms).Cyclic t)
    {e : Expr} (he : Expr.ofTerm t = .ok e) :
    ofTermAt (some (ofTable terms)) depth [] t =
      joinTree (fun name =>
        (ofTable terms name.plain).bind (ofTermAt (some (ofTable terms)) depth [])) e.toTree := by
  rw [ofTermAt_read he]
  refine joinTree_eq_of_mentions he fun name hm => ?_
  rw [Tree.plain]
  cases hl : ofTable terms name with
  | error x => rw [ofBookmark_unresolved List.not_mem_nil hl]; rfl
  | ok term =>
    obtain ⟨below, hbelow, heq⟩ := ofBookmark_nested hd List.not_mem_nil hl
    rw [heq]
    refine ofTermAt_congr hbelow hd fun other hr => ?_
    -- The term of a bookmark does not lead back to it, so it matters not that its name is being
    -- expanded.
    have hother : other ≠ name := by
      rintro rfl
      exact hc ⟨other, .direct hm, refersTo_trans_iff.mpr ⟨term, hl, hr⟩⟩
    simp [hother]

end table

/-- With a table of bookmarks, a depth of as many levels as it has names always suffices. The limit
makes itself felt in larger tables only, and in one error only. If everything a term leads to is in
order, it has no filter just if it leads to a bookmark that leads back to itself. Otherwise its
filter is that of its tree with every bookmark replaced by the filter of the term it stands for,
whatever other bookmarks are expanded around it. -/
theorem ofTermAt_ofTable (terms : List (Text × Text)) (t : Text) {depth : Nat}
    (hd : terms.length ≤ depth) :
    let lookUp := Resolver.ofTable terms
    let compiled := ofTermAt (some lookUp) depth []
    (compiled t = ofTermAt (some lookUp) terms.length [] t ∧ compiled t ≠ .error .tooDeep ∧
      (ofTerm (some lookUp) t = compiled t ∨
        depthLimit < terms.length ∧ ofTerm (some lookUp) t = .error (.badSyntax (tooDeepAt t)))) ∧
    (lookUp.Sound t →
      ((∃ name, compiled t = .error (.bookmark (.cyclic name))) ↔ lookUp.Cyclic t) ∧
      (¬ lookUp.Cyclic t → ∃ e f, Expr.ofTerm t = .ok e ∧ compiled t = .ok f ∧
        fold (fun name => (lookUp name.plain).bind compiled) [.visit e.toTree] [] = .ok f ∧
        ∀ expanding, (∀ name ∈ expanding, ¬ lookUp.Reaches t name) →
          ofTermAt (some lookUp) depth expanding t = .ok f)) := by
  intro lookUp compiled
  have hany : ∀ expanding, unexpanded terms expanding ≤ depth :=
    fun expanding => Nat.le_trans (unexpanded_le terms expanding) hd
  have hlength : compiled t = ofTermAt (some lookUp) terms.length [] t :=
    ofTermAt_congr (hany []) (unexpanded_le terms []) (by simp)
  have henough : compiled t ≠ .error .tooDeep :=
    fun h => (fails_of_error (hany []) h).ne_tooDeep rfl
  refine ⟨⟨hlength, henough, ?_⟩, fun hs => ⟨error_cyclic_iff hs (hany []), fun hacyclic => ?_⟩⟩
  · rw [hlength] at henough ⊢
    exact ofTerm_eq_of_deep henough
  · obtain ⟨e, he, -⟩ := hs.compilable
    obtain ⟨f, hf⟩ := ok_of_acyclic hs (hany []) hacyclic
    refine ⟨e, f, he, hf, ?_, fun expanding hout => ?_⟩
    · rw [fold_tree, ← ofTermAt_eq_joinTree (hany []) hacyclic he, hf]
    · rw [← hf]
      exact ofTermAt_congr (hany expanding) (hany []) fun name hr => by
        simpa using fun hn => hout name hn hr

theorem ofTermAt_ofTable_shared :
    let terms :=
      [([.char 'a'], Text.ofString "\x7bb\x7d AND \x7bb\x7d"), ([.char 'b'], [.char 'x']),
        ([.char 'c'], Text.ofString "NOT \x7bc\x7d")]
    let lookUp := Resolver.ofTable terms
    let t := Text.ofString "NOT \x7ba\x7d OR \x7bb\x7d"
    let u := Text.ofString "\x7bc\x7d"
    terms.length ≤ 3 ∧
      (lookUp.Sound t ∧ ¬ lookUp.Cyclic t ∧ ∃ e f, Expr.ofTerm t = .ok e ∧
        ofTermAt (some lookUp) 3 [] t = .ok f ∧
        fold (fun name => (lookUp name.plain).bind (ofTermAt (some lookUp) 3 [])) [.visit e.toTree]
          [] = .ok f) ∧
      (lookUp.Sound u ∧ lookUp.Cyclic u ∧
        ∃ name, ofTermAt (some lookUp) 3 [] u = .error (.bookmark (.cyclic name))) := by
  intro terms lookUp t u
  have hclosed : ∀ name ∈ [[.char 'a'], [.char 'b'], [.char 'c']], ∃ term, lookUp name = .ok term ∧
    Compilable term ∧
      ∀ other ∈ mentioned term, other ∈ [[.char 'a'], [.char 'b'], [.char 'c']] := by
    simp only [List.forall_mem_cons]
    refine ⟨⟨_, rfl, ?_⟩, ⟨_, rfl, ?_⟩, ⟨_, rfl, ?_⟩, by simp⟩ <;> decide +kernel
  have ht : lookUp.Sound t := sound_of_closed (by decide +kernel) (by decide +kernel) hclosed
  have hu : lookUp.Sound u := sound_of_closed (by decide +kernel) (by decide +kernel) hclosed
  have hacyclic : ¬ lookUp.Cyclic t := by
    rintro ⟨name, hr, hc⟩
    have hok : (ofTermAt (some lookUp) 3 [] t).isOk = true := by decide +kernel
    cases h : ofTermAt (some lookUp) 3 [] t with
    | error x => rw [h] at hok; cases hok
    | ok f => exact (acyclic_of_ok h name hr).2 hc
  have hcyclic : lookUp.Cyclic u :=
    ⟨[.char 'c'], .direct (by decide +kernel),
      refersTo_trans_iff.mpr ⟨_, rfl, .direct (by decide +kernel)⟩⟩
  obtain ⟨e, f, he, hf, hfold, -⟩ :=
    ((ofTermAt_ofTable terms t (by decide : terms.length ≤ 3)).2 ht).2 hacyclic
  exact ⟨by decide, ⟨ht, hacyclic, e, f, he, hf, hfold⟩, hu, hcyclic,
    ((ofTermAt_ofTable terms u (by decide : terms.length ≤ 3)).2 hu).1.mpr hcyclic⟩

end Filter

end FileTags

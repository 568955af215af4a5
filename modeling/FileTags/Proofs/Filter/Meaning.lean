import FileTags.Proofs.Filter.Evaluation
import FileTags.Proofs.Filter.Fold
import FileTags.Proofs.Text.Numeral

/-!
# The meaning of a search term

An expression has a truth value on a tag map: connectives have their usual meaning, a bookmark has
the value of the term it stands for, and a leaf asks whether there is an entry of some kind. The
relation follows the expression and knows nothing of filters, stacks or the order in which things
are looked at. A compiled term evaluates to that value.
-/

set_option autoImplicit false

namespace FileTags

def Comparator.order? : Comparator → Option (Int → Int → Prop)
  | .less => some fun n bound => n < bound
  | .lessEqual => some fun n bound => n ≤ bound
  | .greater => some fun n bound => n > bound
  | .greaterEqual => some fun n bound => n ≥ bound
  | .equal | .notEqual => none

/-- Integers among the values of the map can be read. -/
def TagMap.ShortNumerals (m : TagMap) : Prop :=
  ∀ entry ∈ m.entries, ∀ value ∈ entry.2, Text.ShortNumeral value

mutual

inductive Expr.Means (resolve : Option Resolver) (m : TagMap) : Expr → Bool → Prop
  | tag {n : Nat} {p : Text} {tag : Pattern} {b : Bool} (hp : Pattern.ofSource p = .ok tag)
      (hb : b = true ↔ ∃ entry ∈ m.entries, tag.accepts entry.1) : Means resolve m (.tag n p) b
  | equal {n : Nat} {t v : Text} {tag value : Pattern} {b : Bool}
      (ht : Pattern.ofSource t = .ok tag)
      (hv : Pattern.ofSource v = .ok value)
      (hb : b = true ↔ ∃ entry ∈ m.entries, tag.accepts entry.1 ∧
        ∃ text ∈ entry.2, value.accepts text) :
      Means resolve m (.comparison n t .equal v) b
  | notEqual {n : Nat} {t v : Text} {b : Bool} (h : Means resolve m (.comparison n t .equal v) b) :
      Means resolve m (.comparison n t .notEqual v) (!b)
  | order {n : Nat} {t v : Text} {op : Comparator} {r : Int → Int →
      Prop} {tag : Pattern} {bound : Int} {b : Bool}
      (ho : op.order? = some r) (ht : Pattern.ofSource t = .ok tag) (hv : Text.Spells v bound)
      (hb : b = true ↔ ∃ entry ∈ m.entries, tag.accepts entry.1 ∧
        ∃ text ∈ entry.2, ∃ k, Text.Spells text k ∧ r k bound) :
      Means resolve m (.comparison n t op v) b
  | bookmark {n : Nat} {name term : Text} {lookUp : Resolver} {e : Expr} {b : Bool}
      (hr : resolve = some lookUp)
      (hl : lookUp name = .ok term) (he : Expr.ofTerm term = .ok e) (h : Means resolve m e b) :
      Means resolve m (.bookmark n name) b
  | not {n : Nat} {e : Expr} {b : Bool} (h : Means resolve m e b) : Means resolve m (.not n e) (!b)
  | and {n : Nat} {es : List Expr} {bs : List Bool} {b : Bool} (h : MeansAll resolve m es bs)
      (hb : b = true ↔ ∀ c ∈ bs, c = true) : Means resolve m (.and n es) b
  | or {n : Nat} {es : List Expr} {bs : List Bool} {b : Bool} (h : MeansAll resolve m es bs)
      (hb : b = true ↔ ∃ c ∈ bs, c = true) : Means resolve m (.or n es) b

inductive Expr.MeansAll (resolve : Option Resolver) (m : TagMap) : List Expr → List Bool → Prop
  | nil : MeansAll resolve m [] []
  | cons {e : Expr} {es : List Expr} {b : Bool} {bs : List Bool} (h : Means resolve m e b)
      (hs : MeansAll resolve m es bs) : MeansAll resolve m (e :: es) (b :: bs)

end

namespace Expr

variable {resolve : Option Resolver} {m : TagMap}

theorem eq_of_true_iff {P : Prop} {b c : Bool} (hb : b = true ↔ P) (hc : c = true ↔ P) : b = c :=
  Bool.eq_iff_iff.mpr (hb.trans hc.symm)

mutual

theorem Means.unique {e : Expr} {b : Bool} :
    Means resolve m e b → ∀ {c : Bool}, Means resolve m e c → b = c
  | .tag hp hb, c, k => by
    cases k with
    | tag hq hc =>
      obtain rfl := Except.ok.inj (hp.symm.trans hq)
      exact eq_of_true_iff hb hc
  | .equal ht hv hb, c, k => by
    cases k with
    | equal hs hu hc =>
      obtain rfl := Except.ok.inj (ht.symm.trans hs)
      obtain rfl := Except.ok.inj (hv.symm.trans hu)
      exact eq_of_true_iff hb hc
    | order ho => cases ho
  | .notEqual h, c, k => by
    cases k with
    | notEqual k => exact congrArg _ (h.unique k)
    | order ho => cases ho
  | .order ho ht hv hb, c, k => by
    cases k with
    | equal | notEqual => cases ho
    | order hp hs hu hc =>
      obtain rfl := Option.some.inj (ho.symm.trans hp)
      obtain rfl := Except.ok.inj (ht.symm.trans hs)
      obtain rfl := hv.unique hu
      exact eq_of_true_iff hb hc
  | .bookmark hr hl he h, c, k => by
    cases k with
    | bookmark hs hk hf k =>
      obtain rfl := Option.some.inj (hr.symm.trans hs)
      obtain rfl := Except.ok.inj (hl.symm.trans hk)
      obtain rfl := Except.ok.inj (he.symm.trans hf)
      exact h.unique k
  | .not h, c, k => by
    cases k with
    | not k => exact congrArg _ (h.unique k)
  | .and h hb, c, k => by
    cases k with
    | and k hc =>
      obtain rfl := h.unique k
      exact eq_of_true_iff hb hc
  | .or h hb, c, k => by
    cases k with
    | or k hc =>
      obtain rfl := h.unique k
      exact eq_of_true_iff hb hc

theorem MeansAll.unique {es : List Expr} {bs : List Bool} :
    MeansAll resolve m es bs → ∀ {cs : List Bool}, MeansAll resolve m es cs → bs = cs
  | .nil, cs, k => by
    cases k
    rfl
  | .cons h hs, cs, k => by
    cases k with
    | cons k ks => rw [h.unique k, hs.unique ks]

end

end Expr

/-! ## Conditions -/

namespace Condition

variable {m : TagMap}

/-- If the integers can be read, an ordering condition has a value, which no other entry keeps it
from. -/
theorem anyOrdered_ok (test : OrderTest) (tag : Pattern) (bound : Int)
    (entries : List (Text × Option Text))
    (h : ∀ entry ∈ entries, ∀ value ∈ entry.2, Text.ShortNumeral value) :
    ∃ b, anyOrdered test tag bound entries = .ok b ∧
      (b = true ↔ ∃ entry ∈ entries, tag.accepts entry.1 ∧
        ∃ text ∈ entry.2, ∃ k, Text.Spells text k ∧ test.holds k bound) := by
  induction entries with
  | nil => exact ⟨false, rfl, by simp⟩
  | cons entry entries ih =>
    obtain ⟨name, value⟩ := entry
    obtain ⟨c, hc, hiff⟩ := ih fun e he => h e (List.mem_cons_of_mem _ he)
    -- An entry that does not satisfy the test leaves the decision to the entries behind it.
    have hskip : (¬ (tag.accepts name ∧ ∃ text ∈ value, ∃ k, Text.Spells text k ∧
      test.holds k bound)) →
        (c = true ↔ ∃ entry ∈ (name, value) :: entries, tag.accepts entry.1 ∧
          ∃ text ∈ entry.2, ∃ k, Text.Spells text k ∧ test.holds k bound) := by
      intro hn
      rw [hiff, List.exists_mem_cons_iff, or_iff_right hn]
    cases value with
    | none => exact ⟨c, hc, hskip (by simp)⟩
    | some text =>
      by_cases ha : tag.accepts name
      · obtain ⟨r, hr⟩ :=
          Text.readInteger_ok_of_short (h (name, some text) List.mem_cons_self text rfl)
        have hspells := Text.spells_iff_of_readInteger hr
        cases r with
        | none =>
          refine ⟨c, by simp only [anyOrdered, ha, if_true, hr, hc], hskip ?_⟩
          simp [hspells]
        | some k =>
          by_cases ht : test.holds k bound
          · refine ⟨true, by simp only [anyOrdered, ha, if_true, hr, ht], ?_⟩
            have hk : Text.Spells text k := (hspells k).mpr rfl
            exact iff_of_true rfl ⟨_, List.mem_cons_self, ha, text, rfl, k, hk, ht⟩
          · refine ⟨c, by simp only [anyOrdered, ha, if_true, hr, ht, hc]; rfl, hskip ?_⟩
            simp [hspells, ht]
      · exact ⟨c, by simp only [anyOrdered, ha]; exact hc, hskip (by simp [ha])⟩

theorem holds_tagExists (tag : Pattern) : ∃ b, holds m (.tagExists tag) = .ok b ∧
    (b = true ↔ ∃ entry ∈ m.entries, tag.accepts entry.1) :=
  ⟨_, rfl, by simp⟩

theorem holds_valueEquals (tag value : Pattern) : ∃ b, holds m (.valueEquals tag value) = .ok b ∧
    (b = true ↔ ∃ entry ∈ m.entries, tag.accepts entry.1 ∧ ∃ text ∈ entry.2, value.accepts text) :=
  ⟨_, rfl, by simp [Option.any_eq_true]⟩

theorem holds_valueOrder (hm : m.ShortNumerals) (test : OrderTest) (tag : Pattern) (bound : Int) :
    ∃ b, holds m (.valueOrder test tag bound) = .ok b ∧
      (b = true ↔ ∃ entry ∈ m.entries, tag.accepts entry.1 ∧
        ∃ text ∈ entry.2, ∃ k, Text.Spells text k ∧ test.holds k bound) :=
  anyOrdered_ok test tag bound m.entries hm

theorem holds_perm {n : TagMap} (hm : m.ShortNumerals) (h : n.entries.Perm m.entries)
    (c : Condition) :
    holds n c = holds m c := by
  have hn : n.ShortNumerals := fun entry he => hm entry (h.mem_iff.mp he)
  cases c with
  | tagExists tag =>
    obtain ⟨b, hb, hbm⟩ := holds_tagExists (m := m) tag
    obtain ⟨c, hc, hcn⟩ := holds_tagExists (m := n) tag
    rw [hb, hc, Expr.eq_of_true_iff hbm (by simpa only [h.mem_iff] using hcn)]
  | valueEquals tag value =>
    obtain ⟨b, hb, hbm⟩ := holds_valueEquals (m := m) tag value
    obtain ⟨c, hc, hcn⟩ := holds_valueEquals (m := n) tag value
    rw [hb, hc, Expr.eq_of_true_iff hbm (by simpa only [h.mem_iff] using hcn)]
  | valueOrder test tag bound =>
    obtain ⟨b, hb, hbm⟩ := holds_valueOrder hm test tag bound
    obtain ⟨c, hc, hcn⟩ := holds_valueOrder hn test tag bound
    rw [hb, hc, Expr.eq_of_true_iff hbm (by simpa only [h.mem_iff] using hcn)]

end Condition

/-! ## Compiled terms -/

namespace Expr

theorem order?_comparator (test : OrderTest) :
    ∃ r, test.comparator.order? = some r ∧ ∀ k bound, test.holds k bound = true ↔ r k bound := by
  cases test <;> exact ⟨_, rfl, fun k bound => by simp [OrderTest.holds]⟩

theorem comparator_cases (op : Comparator) :
    op = .equal ∨ op = .notEqual ∨ ∃ test : OrderTest, op = test.comparator := by
  cases op
  · exact .inl rfl
  · exact .inr (.inl rfl)
  · exact .inr (.inr ⟨.less, rfl⟩)
  · exact .inr (.inr ⟨.lessEqual, rfl⟩)
  · exact .inr (.inr ⟨.greater, rfl⟩)
  · exact .inr (.inr ⟨.greaterEqual, rfl⟩)

def Agrees (resolve : Option Resolver) (m : TagMap) (e : Expr) (f : Filter) : Prop :=
  ∃ b, f.evaluate m = .ok b ∧ Means resolve m e b

section

variable {resolve : Option Resolver} {m : TagMap} {bookmark : Tree → Except CompileError Filter}
  {n : Nat} {f : Filter}

theorem agrees_tag {p : Text} (h : Filter.joinTree bookmark (Expr.tag n p).toTree = .ok f) :
    Agrees resolve m (.tag n p) f := by
  obtain ⟨tag, hp, rfl⟩ := Filter.joinTree_tag_iff.mp h
  obtain ⟨b, hb, hiff⟩ := @Condition.holds_tagExists m tag
  exact ⟨b, by rw [Filter.evaluate, Formula.evaluate_leaf, hb], .tag hp hiff⟩

theorem agrees_equal {t v : Text}
    (h : Filter.joinTree bookmark (Expr.comparison n t .equal v).toTree = .ok f) :
    Agrees resolve m (.comparison n t .equal v) f := by
  obtain ⟨tag, value, ht, hv, rfl⟩ := Filter.joinTree_equal_iff.mp h
  obtain ⟨b, hb, hiff⟩ := @Condition.holds_valueEquals m tag value
  exact ⟨b, by rw [Filter.evaluate, Formula.evaluate_leaf, hb], .equal ht hv hiff⟩

theorem agrees_notEqual {t v : Text}
    (h : Filter.joinTree bookmark (Expr.comparison n t .notEqual v).toTree = .ok f) :
    Agrees resolve m (.comparison n t .notEqual v) f := by
  obtain ⟨tag, value, ht, hv, rfl⟩ := Filter.joinTree_notEqual_iff.mp h
  obtain ⟨b, hb, hiff⟩ := @Condition.holds_valueEquals m tag value
  refine ⟨!b, ?_, .notEqual (.equal ht hv hiff)⟩
  rw [Filter.evaluate, Filter.valueDiffers, Formula.evaluate_not, Formula.evaluate_leaf, hb]
  rfl

theorem agrees_order (hm : m.ShortNumerals) {t v : Text} {test : OrderTest}
    (h : Filter.joinTree bookmark (Expr.comparison n t test.comparator v).toTree = .ok f) :
    Agrees resolve m (.comparison n t test.comparator v) f := by
  obtain ⟨tag, bound, ht, hv, rfl⟩ := Filter.joinTree_order_iff.mp h
  obtain ⟨b, hb, hiff⟩ := Condition.holds_valueOrder hm test tag bound
  obtain ⟨r, hr, htest⟩ := order?_comparator test
  have hbound : Text.Spells v bound := (Text.spells_iff_of_readInteger hv bound).mpr rfl
  refine ⟨b, by rw [Filter.evaluate, Formula.evaluate_leaf, hb], .order hr ht hbound ?_⟩
  simpa only [htest] using hiff

mutual

theorem agrees_of_joinTree (hm : m.ShortNumerals)
    (hb : ∀ n name f, bookmark (.text name) = .ok f → Agrees resolve m (.bookmark n name) f) :
    (e : Expr) → {f : Filter} → Filter.joinTree bookmark e.toTree = .ok f → Agrees resolve m e f
  | .tag n p, f, h => agrees_tag h
  | .comparison n t op v, f, h => by
    rcases comparator_cases op with rfl | rfl | ⟨test, rfl⟩
    · exact agrees_equal h
    · exact agrees_notEqual h
    · exact agrees_order hm h
  | .bookmark n name, f, h => hb n name f h
  | .not n e, f, h => by
    obtain ⟨g, hg, rfl⟩ := Filter.joinTree_not_iff.mp h
    obtain ⟨b, hv, he⟩ := agrees_of_joinTree hm hb e hg
    refine ⟨!b, ?_, .not he⟩
    rw [Filter.evaluate] at hv ⊢
    rw [Formula.evaluate_not, hv]
    rfl
  | .and n es, f, h => by
    obtain ⟨-, g, gs, hgs, rfl⟩ := Filter.joinTree_and_iff.mp h
    obtain ⟨bs, hbs, hes⟩ := agreesAll_of_joinTrees hm hb es hgs
    cases hbs with
    | @cons _ c _ cs hc hcs =>
      exact ⟨_, Formula.evaluate_foldl Formula.evaluate_and_ok hc hcs,
        .and hes Formula.foldl_and_eq_true⟩
  | .or n es, f, h => by
    obtain ⟨-, g, gs, hgs, rfl⟩ := Filter.joinTree_or_iff.mp h
    obtain ⟨bs, hbs, hes⟩ := agreesAll_of_joinTrees hm hb es hgs
    cases hbs with
    | @cons _ c _ cs hc hcs =>
      exact ⟨_, Formula.evaluate_foldl Formula.evaluate_or_ok hc hcs,
        .or hes Formula.foldl_or_eq_true⟩

theorem agreesAll_of_joinTrees (hm : m.ShortNumerals)
    (hb : ∀ n name f, bookmark (.text name) = .ok f → Agrees resolve m (.bookmark n name) f) :
    (es : List Expr) → {fs : List Filter} →
    List.Forall₂ (fun e f => Filter.joinTree bookmark e.toTree = .ok f) es fs →
    ∃ bs, List.Forall₂ (fun f b => Formula.evaluate (Condition.holds m) f = .ok b) fs bs ∧
    MeansAll resolve m es bs
  | [], _, .nil => ⟨[], .nil, .nil⟩
  | e :: es, _, .cons h hs => by
    obtain ⟨b, hv, he⟩ := agrees_of_joinTree hm hb e h
    obtain ⟨bs, hvs, hes⟩ := agreesAll_of_joinTrees hm hb es hs
    exact ⟨b :: bs, .cons hv hvs, .cons he hes⟩

end

end

theorem agrees_of_ofTermAt {resolve : Option Resolver} {m : TagMap} (hm : m.ShortNumerals)
    (depth : Nat) (expanding : List Text) (term : Text) (f : Filter)
    (h : Filter.ofTermAt resolve depth expanding term = .ok f) :
    ∃ e, Expr.ofTerm term = .ok e ∧ Agrees resolve m e f := by
  induction depth generalizing expanding term f with
  | zero =>
    obtain ⟨e, he, hj⟩ := Filter.ofTermWith_eq_ok_iff.mp h
    refine ⟨e, he, agrees_of_joinTree hm (fun n name g hg => ?_) e hj⟩
    obtain ⟨lookUp, t, -, -, -, hnext⟩ := Filter.ofBookmark_eq_ok_iff.mp hg
    cases hnext
  | succ depth ih =>
    obtain ⟨e, he, hj⟩ := Filter.ofTermWith_eq_ok_iff.mp h
    refine ⟨e, he, agrees_of_joinTree hm (fun n name g hg => ?_) e hj⟩
    obtain ⟨lookUp, t, hr, -, hl, hnext⟩ := Filter.ofBookmark_eq_ok_iff.mp hg
    obtain ⟨d, hd, b, hv, hmeans⟩ := ih _ t g hnext
    exact ⟨b, hv, .bookmark hr hl hd hmeans⟩

end Expr

namespace Filter

/-- A term that is compiled to any depth has the value of its expression, which is the only one, and
no order of the entries changes it. -/
theorem evaluate_eq_meaning {resolve : Option Resolver} {depth : Nat} {term : Text} {f : Filter}
    {m : TagMap} (h : ofTermAt resolve depth [] term = .ok f) (hm : m.ShortNumerals) :
    ∃ e b, Expr.ofTerm term = .ok e ∧ f.evaluate m = .ok b ∧ (∀ c, e.Means resolve m c ↔ c = b) ∧
      ∀ n : TagMap, n.entries.Perm m.entries → f.evaluate n = .ok b := by
  obtain ⟨e, he, b, hb, hmeans⟩ := Expr.agrees_of_ofTermAt hm depth [] term f h
  refine ⟨e, b, he, hb, fun c => ⟨fun hc => hc.unique hmeans, fun hc => hc ▸ hmeans⟩,
    fun n hn => ?_⟩
  rw [← hb, evaluate, evaluate, funext (Condition.holds_perm hm hn)]

theorem evaluate_eq_meaning_negated_bookmark :
    ∃ f, ofTerm (some (.ofTable [([.char 'x'], Text.ofString "c == d")]))
      (Text.ofString "a AND NOT (\x7bx\x7d OR v >= +2)") = .ok f ∧
      (TagMap.ofList [([.char 'v'], some (Text.ofString "-03")),
        ([.char 'a'], none)]).ShortNumerals ∧
      ∃ e b, Expr.ofTerm (Text.ofString "a AND NOT (\x7bx\x7d OR v >= +2)") = .ok e ∧
        f.evaluate (.ofList [([.char 'v'], some (Text.ofString "-03")), ([.char 'a'], none)]) =
          .ok b ∧
        (∀ c, e.Means (some (.ofTable [([.char 'x'], Text.ofString "c == d")]))
          (.ofList [([.char 'v'], some (Text.ofString "-03")), ([.char 'a'], none)]) c ↔ c = b) ∧
        ∀ n : TagMap, n.entries.Perm (TagMap.ofList [([.char 'v'], some (Text.ofString "-03")),
          ([.char 'a'], none)]).entries →
          f.evaluate n = .ok b := by
  have hok : (ofTerm (some (.ofTable [([.char 'x'], Text.ofString "c == d")]))
      (Text.ofString "a AND NOT (\x7bx\x7d OR v >= +2)")).isOk = true := by decide +kernel
  have hm : (TagMap.ofList [([.char 'v'], some (Text.ofString "-03")),
      ([.char 'a'], none)]).ShortNumerals := by
    intro entry he value hv
    apply Text.shortNumeral_of_length
    have hall : ∀ entry ∈
      (TagMap.ofList [([.char 'v'], some (Text.ofString "-03")), ([.char 'a'], none)]).entries,
        ∀ value ∈ entry.2, value.length ≤ Text.digitLimit := by decide
    exact hall entry he value hv
  cases h : ofTerm (some (.ofTable [([.char 'x'], Text.ofString "c == d")]))
    (Text.ofString "a AND NOT (\x7bx\x7d OR v >= +2)") with
  | error e => rw [h] at hok; cases hok
  | ok f => exact ⟨f, rfl, hm, evaluate_eq_meaning (ofTerm_iff_ofTermAt.mp h) hm⟩

end Filter

end FileTags

import FileTags.Proofs.Filter.Canonical
import FileTags.Proofs.Filter.Reference
import FileTags.Proofs.Term.Lexed
import Mathlib.Data.Nat.Digits.Defs

/-!
# Where conditions come from

The conditions of a compiled filter come from the leaves of terms: of the term itself, or of those
its bookmarks stand for. The lexer has taken their patterns for patterns, in a text without tabs,
and their bounds were read, so they have no more digits than can be read again.
-/

set_option autoImplicit false

namespace FileTags

open Term Text

/-! ## The texts of leaves -/

def Expr.Lexical : Expr → Prop
  | .tag _ p => IsPattern p ∧ .char '\t' ∉ p
  | .comparison _ t _ v => (IsPattern t ∧ .char '\t' ∉ t) ∧ IsPattern v ∧ .char '\t' ∉ v
  | _ => True

namespace Term

def Token.Lexical : Token → Prop
  | .symbol _ _ => True
  | .operand e => e.Lexical

theorem ComparisonBefore.lexical {offset : Nat} {s x : Text} {e : Expr}
    (h : ComparisonBefore offset s x e) (ht : .char '\t' ∉ x) :
    e.Lexical := by
  cases h with
  | tag hp =>
    simp only [List.mem_append, not_or] at ht
    exact ⟨hp.isPattern, ht.1⟩
  | pair hp hg hop hg' hv =>
    simp only [List.mem_append, not_or] at ht
    exact ⟨⟨hp.isPattern, ht.1⟩, hv.isPattern, ht.2.2.2.2⟩

theorem TokenText.lexical {offset : Nat} {s x : Text} {token : Token}
    (h : TokenText offset s token x) (ht : .char '\t' ∉ x) :
    token.Lexical := by
  cases h with
  | opening | closing | operator | bookmark => trivial
  | comparison h => exact h.lexical ht

theorem Cut.lexical {behind offset : Nat} {t : Text} {ts : List Token} (h : Cut behind offset t ts)
    (ht : .char '\t' ∉ t) :
    ∀ token ∈ ts, token.Lexical := by
  induction h with
  | nil => simp
  | gap hc h ih => exact ih fun hm => ht (List.mem_cons_of_mem _ hm)
  | token hx h ih =>
    simp only [List.mem_append, not_or] at ht
    exact List.forall_mem_cons.mpr ⟨hx.text.lexical ht.1, ih ht.2⟩

theorem lexical_of_mem_leavesOf {ts : List Token} {leaf : Expr} (hl : ∀ token ∈ ts, token.Lexical)
    (hb : ∀ token ∈ ts, token.Bare) (h : leaf ∈ leavesOf ts) : leaf.Lexical := by
  obtain ⟨token, htoken, hleaf⟩ := List.mem_flatMap.mp h
  cases token with
  | symbol k n => cases hleaf
  | operand e =>
    have he : e.IsLeaf := hb _ htoken
    rw [Token.leaves, he.leaves, List.mem_singleton] at hleaf
    exact hleaf ▸ hl _ htoken

end Term

theorem Expr.lexical_of_ofTerm {t : Text} {e : Expr} (h : ofTerm t = .ok e) :
    ∀ leaf ∈ e.leaves, leaf.Lexical := by
  obtain ⟨ts, hts, hd⟩ := ofTerm_eq_ok_iff.mp h
  intro leaf hleaf
  rw [hd.leaves] at hleaf
  rw [tokens_eq_tokensFrom] at hts
  have hcut := cut_of_tokensFrom (Nat.le_refl _) hts
  exact lexical_of_mem_leavesOf (hcut.lexical (no_tab_expandTabsFrom t 0))
    (bare_tokensFrom hts) hleaf

/-! ## Bounds -/

theorem Text.foldl_digitValue_lt {digits : Text} (h : ∀ c ∈ digits, .char '0' ≤ c ∧ c ≤ .char '9')
    (n : Nat) :
    digits.foldl (fun n c => 10 * n + digitValue c) n < (n + 1) * 10 ^ digits.length := by
  induction digits generalizing n with
  | nil => simp
  | cons c digits ih =>
    have hc : c.toNat ≤ 57 := (h c (by simp)).2
    have htail := ih (fun d hd => h d (by simp [hd])) (10 * n + digitValue c)
    rw [digitValue] at htail
    calc (c :: digits).foldl (fun n c => 10 * n + digitValue c) n
      _ < (10 * n + (c.toNat - 48) + 1) * 10 ^ digits.length := htail
      _ ≤ (10 * (n + 1)) * 10 ^ digits.length := Nat.mul_le_mul_right _ (by omega)
      _ = (n + 1) * 10 ^ (c :: digits).length := by rw [List.length_cons, Nat.pow_succ]; ring

/-- What has been read is written with no more digits than can be read. -/
theorem Text.length_of_readInteger {t : Text} {n : Int} (h : readInteger t = .ok (some n)) :
    (ofNat n.natAbs).length ≤ digitLimit := by
  cases hd : signedDigits? t with
  | none =>
    rw [readInteger_of_not_numeral hd] at h
    cases h
  | some p =>
    obtain ⟨sign, hsign, hdigits, rfl, -⟩ := of_signedDigits? hd
    rw [readInteger_append hsign hdigits] at h
    split at h
    · next hl =>
      have habs : n.natAbs = naturalOf p.2 := by
        obtain rfl := Option.some.inj (Except.ok.inj h)
        rw [naturalOf_eq_numberOf hdigits.2]
        split <;> simp
      have hlt : n.natAbs < 10 ^ p.2.length := by
        simpa [habs, naturalOf] using foldl_digitValue_lt hdigits.2 0
      rw [ofNat, List.length_map]
      exact (Nat.toDigits_length 10 _ _ (List.length_pos_iff.mpr hdigits.1) hlt).trans hl
    · cases h

namespace Filter

/-! ## Filters of expressions -/

section expressions

variable {bookmark : Tree → Except CompileError Filter} {P : Condition → Prop}

theorem all_foldl {join : Filter → Filter → Filter}
    (hjoin : ∀ l r, (join l r).All P ↔ l.All P ∧ r.All P) {f : Filter}
    {fs : List Filter} (hf : f.All P) (hfs : ∀ g ∈ fs, g.All P) : (fs.foldl join f).All P := by
  induction fs generalizing f with
  | nil => exact hf
  | cons g fs ih =>
    rw [List.forall_mem_cons] at hfs
    exact ih ((hjoin f g).mpr ⟨hf, hfs.1⟩) hfs.2

mutual

/-- What holds of the conditions in the filters of all leaves holds of those in the filter of the
expression. -/
theorem all_joinTree {f : Filter} : (e : Expr) →
    (∀ leaf ∈ e.leaves, ∀ g, joinTree bookmark leaf.toTree = .ok g → g.All P) →
    joinTree bookmark e.toTree = .ok f → f.All P
  | .tag n p, hl, h => hl (.tag n p) (List.mem_singleton_self _) f h
  | .comparison n t op v, hl, h => hl (.comparison n t op v) (List.mem_singleton_self _) f h
  | .bookmark n name, hl, h => hl (.bookmark n name) (List.mem_singleton_self _) f h
  | .not n e, hl, h => by
    obtain ⟨g, hg, rfl⟩ := joinTree_not_iff.mp h
    have hall : g.All P := all_joinTree e hl hg
    exact hall
  | .and n es, hl, h => by
    obtain ⟨-, g, gs, hgs, rfl⟩ := joinTree_and_iff.mp h
    have hall := List.forall_mem_cons.mp (all_joinTrees es hl (joinTrees_iff.mpr hgs))
    exact all_foldl (fun _ _ => Iff.rfl) hall.1 hall.2
  | .or n es, hl, h => by
    obtain ⟨-, g, gs, hgs, rfl⟩ := joinTree_or_iff.mp h
    have hall := List.forall_mem_cons.mp (all_joinTrees es hl (joinTrees_iff.mpr hgs))
    exact all_foldl (fun _ _ => Iff.rfl) hall.1 hall.2

theorem all_joinTrees {fs : List Filter} : (es : List Expr) →
    (∀ leaf ∈ Expr.leavesAll es, ∀ g, joinTree bookmark leaf.toTree = .ok g → g.All P) →
    joinTrees bookmark (Expr.toTrees es) = .ok fs → ∀ f ∈ fs, f.All P
  | [], _, h => by
    obtain rfl : [] = fs := Except.ok.inj h
    simp
  | e :: es, hl, h => by
    obtain ⟨f, gs, hf, hgs, rfl⟩ := List.forall₂_cons_left_iff.mp (joinTrees_iff.mp h)
    rw [List.forall_mem_cons]
    exact ⟨all_joinTree e (fun leaf hleaf => hl leaf (List.mem_append_left _ hleaf)) hf,
      all_joinTrees es (fun leaf hleaf =>
        hl leaf (List.mem_append_right _ hleaf)) (joinTrees_iff.mpr hgs)⟩

end

theorem fromTerm_leaf {leaf : Expr} {f : Filter} (hkind : leaf.IsLeaf)
    (hn : ¬ ∃ n name, leaf = .bookmark n name)
    (hl : leaf.Lexical) (h : joinTree bookmark leaf.toTree = .ok f) : f.All Condition.FromTerm := by
  cases leaf with
  | bookmark n name => exact absurd ⟨n, name, rfl⟩ hn
  | not | and | or => exact hkind.elim
  | tag n p =>
    obtain ⟨tag, htag, rfl⟩ := joinTree_tag_iff.mp h
    exact ⟨p, hl.1, hl.2, htag⟩
  | comparison n t op v =>
    obtain ⟨⟨ht, htab⟩, hv, hvtab⟩ := hl
    have hcases : op = .equal ∨ op = .notEqual ∨ ∃ test : OrderTest, op = test.comparator := by
      cases op with
      | equal => exact .inl rfl
      | notEqual => exact .inr (.inl rfl)
      | less => exact .inr (.inr ⟨.less, rfl⟩)
      | lessEqual => exact .inr (.inr ⟨.lessEqual, rfl⟩)
      | greater => exact .inr (.inr ⟨.greater, rfl⟩)
      | greaterEqual => exact .inr (.inr ⟨.greaterEqual, rfl⟩)
    rcases hcases with rfl | rfl | ⟨test, rfl⟩
    · obtain ⟨tag, value, htag, hvalue, rfl⟩ := joinTree_equal_iff.mp h
      exact ⟨⟨t, ht, htab, htag⟩, v, hv, hvtab, hvalue⟩
    · obtain ⟨tag, value, htag, hvalue, rfl⟩ := joinTree_notEqual_iff.mp h
      exact ⟨⟨t, ht, htab, htag⟩, v, hv, hvtab, hvalue⟩
    · obtain ⟨tag, bound, htag, hbound, rfl⟩ := joinTree_order_iff.mp h
      exact ⟨⟨t, ht, htab, htag⟩, length_of_readInteger hbound⟩

end expressions

/-! ## Filters of terms -/

variable {resolve : Option Resolver} {depth : Nat} {expanding : List Text} {term : Text}
  {f : Filter}

theorem fromTerm_ofTermAt (h : ofTermAt resolve depth expanding term = .ok f) :
    f.All Condition.FromTerm := by
  induction depth using Nat.strongRecOn generalizing expanding term f with
  | ind depth ih =>
  obtain ⟨e, he, hf⟩ := ofTermAt_eq_ok_iff.mp h
  refine all_joinTree e (fun leaf hleaf g hg => ?_) hf
  by_cases hb : ∃ n name, leaf = .bookmark n name
  · obtain ⟨n, name, rfl⟩ := hb
    rw [joinTree_bookmark] at hg
    obtain ⟨lookUp, t, -, -, -, ht⟩ := ofBookmark_eq_ok_iff.mp hg
    cases depth with
    | zero => cases ht
    | succ depth => exact ih depth (Nat.lt_succ_self _) ht
  · exact fromTerm_leaf (Expr.isLeaf_of_mem_leaves e hleaf) hb
      (Expr.lexical_of_ofTerm he leaf hleaf) hg

end Filter

end FileTags

import FileTags.Proofs.Term.Leaf
import FileTags.Proofs.Term.Lexed

/-!
# The places of bookmarks

The bookmarks of a text stand where its tokens say. If no other opening brace stands outside escapes
and classes, the scan over the whole text is in step with the tokens, so that the patterns among
them have no such brace.
-/

set_option autoImplicit false

namespace FileTags

def Expr.mark? : Expr → Option (Nat × Text)
  | .bookmark n name => some (n, name)
  | _ => none

theorem Expr.mark?_eq_some_iff {e : Expr} {mark : Nat × Text} :
    e.mark? = some mark ↔ e = .bookmark mark.1 mark.2 := by
  cases e <;> simp [Expr.mark?, Prod.ext_iff]

def marksOf (leaves : List Expr) : List (Nat × Text) := leaves.filterMap Expr.mark?

@[simp] theorem marksOf_append (es fs : List Expr) :
    marksOf (es ++ fs) = marksOf es ++ marksOf fs := List.filterMap_append

theorem mem_marksOf {leaves : List Expr} {mark : Nat × Text} :
    mark ∈ marksOf leaves ↔ .bookmark mark.1 mark.2 ∈ leaves := by
  simp [marksOf, Expr.mark?_eq_some_iff]

namespace Term

open Text

@[simp] theorem leavesOf_cons (token : Token) (ts : List Token) :
    leavesOf (token :: ts) = token.leaves ++ leavesOf ts := rfl

/-- A token is a bookmark that stands where it is read, or brings none. -/
theorem TokenText.marks {offset : Nat} {s x : Text} {token : Token}
    (h : TokenText offset s token x) :
    marksOf token.leaves = [] ∨
      ∃ inside, IsInside inside ∧ x = .char '\x7b' :: (inside ++ [.char '\x7d']) ∧
      token = .operand (.bookmark offset (strip inside)) := by
  cases h with
  | opening | closing | operator => exact .inl rfl
  | @bookmark inside h => exact .inr ⟨inside, h, rfl, rfl⟩
  | comparison h => cases h <;> exact .inl rfl

theorem Cut.le_mark {behind offset : Nat} {t : Text} {ts : List Token}
    (h : Cut behind offset t ts) :
    ∀ mark ∈ marksOf (leavesOf ts), offset ≤ mark.1 := by
  induction h with
  | nil => exact fun _ hm => nomatch hm
  | gap hc h ih => exact fun mark hm => Nat.le_of_succ_le (ih mark hm)
  | @token _ offset x t token ts hx h ih =>
    intro mark hm
    rw [leavesOf_cons, marksOf_append, List.mem_append] at hm
    rcases hm with hm | hm
    · rcases hx.text.marks with hnone | ⟨inside, -, -, rfl⟩
      · rw [hnone] at hm
        cases hm
      · obtain rfl := List.mem_singleton.mp hm
        exact Nat.le_refl _
    · have := ih mark hm
      omega

/-! ## The scan for braces -/

theorem bracesAt_skip (places : List Nat) (offset : Nat) (u rest : Text) :
    bracesAt places offset u.length (u ++ rest) = bracesAt places (offset + u.length) 0 rest := by
  induction u generalizing offset with
  | nil => rfl
  | cons c u ih =>
    rw [List.length_cons, List.cons_append, bracesAt, ih, Nat.add_assoc, Nat.add_comm 1]

theorem bracesAt_nil (offset pending : Nat) (t : Text) :
    bracesAt [] offset pending t = bracesAt [] 0 pending t := by
  induction t generalizing offset pending with
  | nil => cases pending <;> rfl
  | cons c t ih =>
    cases pending with
    | succ pending => rw [bracesAt, bracesAt, ih (offset + 1), ih (0 + 1)]
    | zero => simp only [bracesAt, ih (offset + 1), ih (0 + 1), List.contains_nil, Bool.false_and]

theorem bracesAt_braces {inside : Text} (h : .char '\x7d' ∉ inside) (places : List Nat)
    (offset : Nat) (rest : Text) :
    bracesAt places offset 0 (.char '\x7b' :: (inside ++ .char '\x7d' :: rest)) =
      (places.contains offset && bracesAt places (offset + (inside.length + 2)) 0 rest) := by
  have hskip := bracesAt_skip places (offset + 1) (inside ++ [.char '\x7d']) rest
  simp only [List.length_append, List.length_singleton, List.append_assoc, List.singleton_append]
    at hskip
  rw [bracesAt, if_neg (by decide), if_neg (by decide), if_pos rfl, findIdx?_close h,
    Option.map_some, Option.getD_some, hskip,
    Nat.add_assoc, Nat.add_comm 1]

def Skimmed (u : Text) : Prop :=
  ∀ (places : List Nat) (offset : Nat) (rest : Text), bracesAt places offset 0 (u ++ rest) =
    bracesAt places (offset + u.length) 0 rest

theorem skimmed_escape (c : Rune) : Skimmed [.char '\\', c] := by
  intro places offset rest
  rw [List.cons_append, List.singleton_append, bracesAt, if_pos rfl, bracesAt]
  rfl

theorem skimmed_class {b : Text} (hb : IsClassRest b) : Skimmed (.char '[' :: b) := by
  intro places offset rest
  rw [List.cons_append, bracesAt, if_neg (by decide), if_pos rfl, hb rest, Option.getD_some,
    Nat.add_sub_cancel, bracesAt_skip,
    List.length_cons, Nat.add_assoc, Nat.add_comm 1]

theorem skimmed_plain {u : Text} (h : ∀ c ∈ u, c ∉ [.char '\\', .char '[', .char '\x7b']) :
    Skimmed u := by
  intro places offset rest
  induction u generalizing offset with
  | nil => rfl
  | cons c u ih =>
    have hc := h c (by simp)
    simp only [List.mem_cons, List.not_mem_nil, or_false, not_or] at hc
    rw [List.cons_append, bracesAt, if_neg hc.1, if_neg hc.2.1, if_neg hc.2.2,
      ih fun d hd => h d (by simp [hd]), List.length_cons,
      Nat.add_assoc, Nat.add_comm 1]

theorem skimmed_gap {g : Text} (hg : IsGap g) : Skimmed g := by
  refine skimmed_plain fun c hc hm => ?_
  have hgap := hg c hc
  simp only [List.mem_cons, List.not_mem_nil, or_false] at hm
  rcases hm with rfl | rfl | rfl <;> revert hgap <;> decide

theorem skimmed_spelling {k : Symbol} {w : Text} (hw : w ∈ k.spellings) : Skimmed w := by
  refine skimmed_plain fun c hc hm => plain_spelling hw c hc ?_
  simp only [List.mem_cons, List.not_mem_nil, or_false] at hm
  rcases hm with rfl | rfl | rfl <;> decide

/-- In front of `s`, with no place in the text, the scan comes to its end only if all its braces
stand in escapes and classes. -/
def Clear (places : List Nat) (s t : Text) : Prop :=
  ∀ offset, (∀ n ∈ places, offset ≤ n → offset + t.length ≤ n) →
    bracesAt places offset 0 (t ++ s) = true →
    BraceFree t ∧ bracesAt places (offset + t.length) 0 s = true

theorem Skimmed.clear {places : List Nat} {s t u : Text} (hu : Skimmed u) (ht : Clear places s t) :
    Clear places s (u ++ t) := by
  intro offset hp hb
  rw [List.append_assoc, hu] at hb
  rw [List.length_append] at hp ⊢
  obtain ⟨hfree, hrest⟩ :=
    ht (offset + u.length) (fun n hn hle => by have := hp n hn (by omega); omega) hb
  refine ⟨?_, by rwa [← Nat.add_assoc]⟩
  rw [BraceFree, hu, bracesAt_nil]
  exact hfree

theorem Run.clear {places : List Nat} {k : Nat} {s p : Text} (h : Run k p) : Clear places s p := by
  induction h with
  | nil => exact fun offset hp hb => ⟨rfl, hb⟩
  | escape h ih => exact (skimmed_escape _).clear ih
  | cls hb h ih => exact (skimmed_class hb).clear ih
  | opening h ih => exact (skimmed_plain (u := [.char '(']) (by simp)).clear ih
  | closing h ih => exact (skimmed_plain (u := [.char ')']) (by simp)).clear ih
  | @plain k c t hc hblank hs ho h ih =>
    by_cases hbrace : c = .char '\x7b'
    · subst hbrace
      intro offset hp hb
      -- The brace would have to stand at a place.
      simp only [List.cons_append, bracesAt, List.contains_iff_mem, Bool.and_eq_true,
        Rune.char.injEq, Char.reduceEq, if_false, if_true] at hb
      have := hp offset hb.1 (Nat.le_refl _)
      rw [List.length_cons] at this
      omega
    · have hplain : c ∉ [.char '\\', .char '[', .char '\x7b'] := by
        simp only [special, List.mem_cons, List.not_mem_nil, or_false, not_or] at hc ⊢
        exact ⟨hc.1, hc.2.1, hbrace⟩
      exact (skimmed_plain (u := [c]) (by simpa using hplain)).clear ih

/-- The scan is at the end of every token, and finds its patterns clear. -/
theorem TokenText.tame {places : List Nat} {offset : Nat} {s x : Text} {token : Token}
    (h : TokenText offset s token x)
    (hp : marksOf token.leaves = [] → ∀ n ∈ places, offset ≤ n → offset + x.length ≤ n)
    (hb : bracesAt places offset 0 (x ++ s) = true) :
    token.Tame ∧ bracesAt places (offset + x.length) 0 s = true := by
  cases h with
  | opening n => exact ⟨trivial, by rwa [skimmed_plain (by simp)] at hb⟩
  | closing n => exact ⟨trivial, by rwa [skimmed_plain (by simp)] at hb⟩
  | operator n hw => exact ⟨trivial, by rwa [skimmed_spelling hw] at hb⟩
  | @bookmark inside hi =>
    rw [List.cons_append, List.append_assoc, List.singleton_append,
      bracesAt_braces fun hm => (hi.2 _ hm).2 rfl,
      Bool.and_eq_true] at hb
    exact ⟨trivial, by simpa using hb.2⟩
  | comparison h =>
    cases h with
    | @tag p g hpattern hg =>
      have hlen := hp rfl
      rw [List.length_append] at hlen ⊢
      rw [List.append_assoc] at hb
      obtain ⟨hfree, hb⟩ :=
        hpattern.run.run.clear offset (fun n hn hle => by have := hlen n hn hle; omega) hb
      rw [skimmed_gap hg, Nat.add_assoc] at hb
      exact ⟨hfree, hb⟩
    | @pair p g g' v op hpattern hg hop hg' hv =>
      have hlen := hp rfl
      simp only [List.length_append] at hlen ⊢
      simp only [List.append_assoc] at hb
      have hsymbol : Skimmed op.symbol := skimmed_plain (by cases op <;> simp [Comparator.symbol])
      obtain ⟨hfree, hb⟩ :=
        hpattern.run.run.clear offset (fun n hn hle => by have := hlen n hn hle; omega) hb
      rw [skimmed_gap hg, hsymbol, skimmed_gap hg'] at hb
      obtain ⟨hfree', hb⟩ :=
        hv.run.run.clear _ (fun n hn hle => by have := hlen n hn (by omega); omega) hb
      exact ⟨⟨hfree, hfree'⟩, by simpa only [Nat.add_assoc] using hb⟩

/-- If every opening brace outside escapes and classes is that of a bookmark, the patterns of the
text have none. -/
theorem Cut.tame {places : List Nat} {behind offset : Nat} {t : Text} {ts : List Token}
    (h : Cut behind offset t ts)
    (hp : ∀ n ∈ places, offset ≤ n → ∃ name, (n, name) ∈ marksOf (leavesOf ts))
    (hb : bracesAt places offset 0 t = true) :
    ∀ token ∈ ts, token.Tame := by
  induction h with
  | nil => exact fun _ hm => nomatch hm
  | @gap _ offset c t ts hc h ih =>
    rw [← List.singleton_append, skimmed_gap (by simpa [IsGap] using hc)] at hb
    exact ih (fun n hn hle => hp n hn (Nat.le_of_succ_le hle)) hb
  | @token _ offset x t token ts hx h ih =>
    have hnext : ∀ n ∈ places, offset ≤ n → marksOf token.leaves = [] → offset + x.length ≤ n := by
      intro n hn hle hnone
      obtain ⟨name, hm⟩ := hp n hn hle
      rw [leavesOf_cons, marksOf_append, hnone, List.nil_append] at hm
      exact h.le_mark _ hm
    obtain ⟨htame, hb⟩ := hx.text.tame (fun hnone n hn hle => hnext n hn hle hnone) hb
    refine List.forall_mem_cons.mpr ⟨htame, ih (fun n hn hle => ?_) hb⟩
    obtain ⟨name, hm⟩ := hp n hn (by omega)
    rw [leavesOf_cons, marksOf_append, List.mem_append] at hm
    refine ⟨name, hm.resolve_left fun hm => ?_⟩
    -- The bookmark of the token itself stands in front.
    have hne := List.length_pos_iff.mpr hx.text.ne_nil
    rcases hx.text.marks with hnone | ⟨inside, -, -, rfl⟩
    · rw [hnone] at hm
      cases hm
    · obtain ⟨rfl, -⟩ := Prod.mk.inj (List.mem_singleton.mp hm)
      omega

end Term

end FileTags

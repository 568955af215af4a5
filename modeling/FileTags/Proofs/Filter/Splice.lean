import FileTags.Proofs.Filter.Reference
import FileTags.Proofs.Term.Mark
import FileTags.Proofs.Term.Substitution

/-!
# Terms in the place of bookmarks

A term is spliced when each of its bookmarks gives way to the term it stands for, in parentheses.
The text that comes of it is read like the term, with groups for the bookmarks: the leaves that are
no bookmarks stay, and those of the terms come in.
-/

set_option autoImplicit false

namespace FileTags

open Term

namespace Resolver

variable (lookUp : Resolver)

/-- The text with the bookmarks at some places replaced by their terms in parentheses; one that is
not found stays. The second number says how many characters belong to a bookmark that has been
replaced. -/
def spliceAt (marks : List (Nat × Text)) : Nat → Nat → Text → Text
  | _, _, [] => []
  | offset, pending + 1, _ :: rest => spliceAt marks (offset + 1) pending rest
  | offset, 0, c :: rest =>
    match (marks.lookup offset).map lookUp with
    | some (.ok term) =>
      .char '(' ::
        (term ++ .char ')' :: spliceAt marks (offset + 1)
        (((rest.findIdx? (· == .char '\x7d')).map (· + 1)).getD 0) rest)
    | _ => c :: spliceAt marks (offset + 1) 0 rest

/-- A term without tabs, with each of its bookmarks replaced by the term it stands for, in
parentheses. -/
def splice (t : Text) : Text :=
  match Expr.ofTerm t with
  | .ok e => lookUp.spliceAt (marksOf e.leaves) 0 0 t
  | .error _ => t

variable {lookUp} {marks : List (Nat × Text)} {offset : Nat}

theorem splice_read {t : Text} {e : Expr} (h : Expr.ofTerm t = .ok e) :
    lookUp.splice t = lookUp.spliceAt (marksOf e.leaves) 0 0 t := by
  rw [splice, h]

theorem spliceAt_skip (lookUp : Resolver) (marks : List (Nat × Text)) (offset : Nat)
    (u rest : Text) :
    lookUp.spliceAt marks offset u.length (u ++ rest) =
      lookUp.spliceAt marks (offset + u.length) 0 rest := by
  induction u generalizing offset with
  | nil => rfl
  | cons c u ih =>
    rw [List.length_cons, List.cons_append, spliceAt, ih, Nat.add_assoc, Nat.add_comm 1]

theorem spliceAt_kept (lookUp : Resolver) {x : Text}
    (h : ∀ n, offset ≤ n → n < offset + x.length → marks.lookup n = none) (rest : Text) :
    lookUp.spliceAt marks offset 0 (x ++ rest) = x ++ lookUp.spliceAt marks
    (offset + x.length) 0 rest := by
  induction x generalizing offset with
  | nil => rfl
  | cons c x ih =>
    have hnone := h offset (Nat.le_refl _) (by simp)
    rw [List.cons_append, spliceAt, hnone]
    rw [List.length_cons, show offset + (x.length + 1) = offset + 1 + x.length by omega] at h ⊢
    simp only [Option.map_none, List.cons_append, ih fun n hn hle => h n (by omega) hle]

theorem spliceAt_braces {inside name term : Text} (h : .char '\x7d' ∉ inside)
    (hm : marks.lookup offset = some name) (hl : lookUp name = .ok term) (rest : Text) :
    lookUp.spliceAt marks offset 0 (.char '\x7b' :: (inside ++ .char '\x7d' :: rest)) =
      .char '(' ::
        (term ++ .char ')' :: lookUp.spliceAt marks (offset + (inside.length + 2)) 0 rest) := by
  have hskip := spliceAt_skip lookUp marks (offset + 1) (inside ++ [.char '\x7d']) rest
  simp only [List.length_append, List.length_singleton, List.append_assoc, List.singleton_append]
    at hskip
  rw [spliceAt, hm, Option.map_some, hl]
  simp only [findIdx?_close h, Option.map_some, Option.getD_some, hskip, Nat.add_assoc,
    Nat.add_comm 1]

/-- Without tabs in a text and in the terms that come in, there are none in what comes of it. -/
theorem no_tab_spliceAt {pending : Nat} {t : Text} (ht : .char '\t' ∉ t)
    (hterm : ∀ mark ∈ marks, ∀ term, lookUp mark.2 = .ok term → .char '\t' ∉ term) :
    .char '\t' ∉ lookUp.spliceAt marks offset pending t := by
  induction t generalizing offset pending with
  | nil => cases pending <;> exact List.not_mem_nil
  | cons c t ih =>
    simp only [List.mem_cons, not_or] at ht
    cases pending with
    | succ pending => exact ih ht.2
    | zero =>
      rw [spliceAt]
      split
      · next term hfound =>
        obtain ⟨name, hname, hl⟩ := Option.map_eq_some_iff.mp hfound
        obtain ⟨l, r, hsplit, -⟩ := List.lookup_eq_some_iff.mp hname
        have := hterm (offset, name) (by simp [hsplit]) term hl
        simp [ih ht.2, this]
      · simp [ih ht.2, ht.1]

end Resolver

namespace Term

variable {P : Text → Expr → Prop} {Q : Expr → Prop}

theorem Cut.lookup_eq_none {behind offset n : Nat} {t : Text} {ts : List Token}
    (h : Cut behind offset t ts) (hn : n < offset) :
    (marksOf (leavesOf ts)).lookup n = none := by
  rw [List.lookup_eq_none_iff]
  intro mark hm
  have := h.le_mark mark hm
  simp only [bne_iff_ne]
  omega

theorem marks_bookmark (n : Nat) (name : Text) :
    marksOf (Token.operand (.bookmark n name)).leaves = [(n, name)] := rfl

/-- The bookmark of a token stands in front of what is read behind it. -/
theorem TokenText.lookup_behind {offset n : Nat} {s x : Text} {token : Token}
    {marks : List (Nat × Text)} (h : TokenText offset s token x) (hn : offset + x.length ≤ n) :
    (marksOf token.leaves ++ marks).lookup n = marks.lookup n := by
  have hlen := List.length_pos_iff.mpr h.ne_nil
  rcases h.marks with hnone | ⟨inside, -, -, rfl⟩
  · rw [hnone, List.nil_append]
  · have hne : (n == offset) = false := beq_false_of_ne (by omega)
    rw [marks_bookmark, List.singleton_append, List.lookup_cons, hne]

/-- What comes in for a bookmark of the name: the term that is found for it, its tokens and its
expression. -/
structure ComesIn (lookUp : Resolver) (P : Text → Expr → Prop) (Q : Expr → Prop) (name term : Text)
    (us : List Token) (e : Expr) :
    Prop where
  found : lookUp name = .ok term
  stands : P name e
  lexed : Lexed term us
  derives : Disjunction us e
  tame : ∀ token ∈ us, token.Tame
  leaves : ∀ leaf ∈ e.leaves, Q leaf

/-- What holds of the leaves that stay and of the leaves of the terms that come in holds of all
leaves. -/
theorem Cut.recast {lookUp : Resolver} {marks : List (Nat × Text)} {behind offset : Nat} {t : Text}
    {ts : List Token} (h : Cut behind offset t ts)
    (hmarks : ∀ n, offset ≤ n → marks.lookup n = (marksOf (leavesOf ts)).lookup n)
    (hQ : ∀ leaf ∈ leavesOf ts, leaf.mark? = none → Q leaf)
    (hP : ∀ mark ∈ marksOf (leavesOf ts), ∃ term us e, ComesIn lookUp P Q mark.2 term us e) :
    ∃ ts', Recast P [] t (lookUp.spliceAt marks offset 0 t) ts ts' ∧
    ∀ leaf ∈ leavesOf ts', Q leaf := by
  induction h with
  | nil => exact ⟨[], .done [], fun _ hm => nomatch hm⟩
  | @gap _ offset c t ts hc h ih =>
    obtain ⟨ts', hrecast, hleaves⟩ := ih (fun n hn => hmarks n (Nat.le_of_succ_le hn)) hQ hP
    refine ⟨ts', ?_, hleaves⟩
    have hnone : ∀ n, offset ≤ n → n < offset + [c].length → marks.lookup n = none :=
      fun n hn hlt => by
      rw [hmarks n hn, h.lookup_eq_none (by simpa using hlt)]
    have hkept := Resolver.spliceAt_kept lookUp hnone t
    rw [List.singleton_append] at hkept
    rw [hkept]
    exact .gap hc hrecast
  | @token _ offset x t token ts hx h ih =>
    simp only [leavesOf_cons, marksOf_append, List.mem_append] at hmarks hP hQ
    obtain ⟨ts', hrecast, hleaves⟩ := ih
      (fun n hn => by rw [hmarks n (by omega), hx.text.lookup_behind hn])
      (fun leaf hl => hQ leaf (.inr hl)) fun mark hm => hP mark (.inr hm)
    rcases hx.text.marks with hnone | ⟨inside, hinside, rfl, rfl⟩
    · rw [Resolver.spliceAt_kept lookUp fun n hn hlt => by rw [hmarks n hn, hnone, List.nil_append,
        h.lookup_eq_none hlt]]
      refine ⟨token :: ts', .kept hx hrecast, fun leaf hl => ?_⟩
      rw [leavesOf_cons, List.mem_append] at hl
      exact hl.elim (fun hl => hQ leaf (.inl hl) (List.filterMap_eq_nil_iff.mp hnone leaf hl))
        (hleaves leaf)
    · rw [marks_bookmark] at hmarks hP
      obtain ⟨term, us, e, hin⟩ := hP (offset, Text.strip inside) (.inl (List.mem_singleton_self _))
      have hlookup : marks.lookup offset = some (Text.strip inside) := by
        rw [hmarks offset (Nat.le_refl _), List.singleton_append, List.lookup_cons_self]
      have hlength : (.char '\x7b' :: (inside ++ [.char '\x7d'])).length = inside.length + 2 := by
        simp
      rw [hlength] at hrecast
      rw [List.cons_append, List.append_assoc, List.singleton_append,
        Resolver.spliceAt_braces (fun hm => (hinside.2 _ hm).2 rfl) hlookup hin.found]
      refine ⟨.symbol .opening 0 :: us ++ .symbol .closing 0 :: ts',
        .replaced hinside hin.stands hin.derives hin.tame hrecast (hin.lexed.recast _),
          fun leaf hleaf => ?_⟩
      rw [List.cons_append, leavesOf_symbol, leavesOf_append, leavesOf_symbol, List.mem_append,
        ← hin.derives.leaves] at hleaf
      exact hleaf.elim (hin.leaves leaf) (hleaves leaf)

/-! ## Reading what comes of a term -/

/-- Tokens that differ in their offsets have leaves that differ in their offsets. -/
theorem mem_leavesOf_of_unplaced {ts us : List Token}
    (h : us.map Token.unplaced = ts.map Token.unplaced) {leaf : Expr}
    (hl : leaf ∈ leavesOf us) : ∃ leaf' ∈ leavesOf ts, leaf'.unplaced = leaf.unplaced := by
  have hleaves : ∀ ts : List Token, leavesOf (ts.map Token.unplaced) =
      (leavesOf ts).map Expr.unplaced := by
    intro ts
    induction ts with
    | nil => rfl
    | cons token ts ih => cases token <;>
        simp [Token.unplaced, Token.leaves, Expr.leaves_unplaced, ih]
  have hmem := List.mem_map_of_mem (f := Expr.unplaced) hl
  rw [← hleaves, h, hleaves] at hmem
  exact List.mem_map.mp hmem

/-- The cut of a term without tabs that is read as an expression. -/
theorem cut_of_ofTerm {t : Text} {e : Expr} (ht : .char '\t' ∉ t) (h : Expr.ofTerm t = .ok e) :
    ∃ behind ts, Cut behind 0 t ts ∧ Disjunction ts e ∧ ∀ token ∈ ts, token.Bare := by
  obtain ⟨ts, hts, hd⟩ := ofTerm_eq_ok_iff.mp h
  rw [Text.expandTabs_eq_self ht, tokens_eq_tokensFrom] at hts
  exact ⟨_, ts, cut_of_tokensFrom (Nat.le_refl _) hts, hd, bare_tokensFrom hts⟩

theorem tame_iff {ts : List Token} (h : ∀ token ∈ ts, token.Bare) :
    (∀ token ∈ ts, token.Tame) ↔ ∀ leaf ∈ leavesOf ts, leaf.Tame := by
  have htoken : ∀ token ∈ ts, token.Tame ↔ ∀ leaf ∈ token.leaves, leaf.Tame := by
    intro token hm
    cases token with
    | symbol => simp [Token.Tame, Token.leaves]
    | operand e =>
      have hleaf : e.IsLeaf := h _ hm
      simp [Token.Tame, Token.leaves, hleaf.leaves]
  simp only [leavesOf, List.mem_flatMap, forall_exists_index, and_imp]
  constructor
  · exact fun ht leaf token hm hl => (htoken token hm).mp (ht token hm) leaf hl
  · exact fun hl token hm => (htoken token hm).mpr fun leaf hleaf => hl leaf token hm hleaf

end Term

/-- The term has no tabs, and is read as an expression whose patterns have no opening braces but in
escapes and classes. -/
structure Tamed (t : Text) (e : Expr) : Prop where
  no_tab : .char '\t' ∉ t
  read : Expr.ofTerm t = .ok e
  tame : ∀ leaf ∈ e.leaves, leaf.Tame

/-- The leaf may come in when the term is spliced: its patterns are tame, and the term of a bookmark
mentions its name. -/
def Resolver.Brings (lookUp : Resolver) (t : Text) (leaf : Expr) : Prop :=
  leaf.Tame ∧ ∀ name, leaf.name? = some name →
    ∃ first, Mentions t first ∧ lookUp.RefersTo first name

theorem Resolver.Brings.of_unplaced {lookUp : Resolver} {t : Text} {leaf leaf' : Expr}
    (h : lookUp.Brings t leaf') (heq : leaf'.unplaced = leaf.unplaced) : lookUp.Brings t leaf := by
  have htame : ∀ e : Expr, e.unplaced.Tame ↔ e.Tame := fun e => by cases e <;> rfl
  have hname : ∀ e : Expr, e.unplaced.name? = e.name? := fun e => by cases e <;> rfl
  rw [Brings, ← htame, ← hname, heq, htame, hname] at h
  exact h

namespace Tamed

variable {t : Text} {e : Expr} {lookUp : Resolver} {R : Expr → Expr → Prop}

theorem tokens (h : Tamed t e) : ∃ behind ts, Cut behind 0 t ts ∧ Disjunction ts e ∧
    ∀ token ∈ ts, token.Tame := by
  obtain ⟨behind, ts, hcut, hd, hbare⟩ := cut_of_ofTerm h.no_tab h.read
  exact ⟨behind, ts, hcut, hd, (tame_iff hbare).mpr (hd.leaves ▸ h.tame)⟩

def StandsFor (R : Expr → Expr → Prop) (name : Text) (e : Expr) : Prop :=
  ∀ (m : Nat) (f : Expr), R e f → R (.bookmark m name) f

def Replaceable (lookUp : Resolver) (R : Expr → Expr → Prop) (t : Text) : Prop :=
  ∀ name, Mentions t name → ∃ term e, lookUp name = .ok term ∧ Tamed term e ∧ StandsFor R name e

theorem no_tab_splice (h : Tamed t e) (hr : Replaceable lookUp R t) :
    .char '\t' ∉ lookUp.splice t := by
  rw [Resolver.splice_read h.read]
  refine Resolver.no_tab_spliceAt h.no_tab fun mark hm term hl => ?_
  obtain ⟨term', e', hl', hterm, -⟩ := hr mark.2 ⟨e, mark.1, h.read, mem_marksOf.mp hm⟩
  obtain rfl := Except.ok.inj (hl.symm.trans hl')
  exact hterm.no_tab

theorem recast (h : Tamed t e) (hr : Replaceable lookUp R t) :
    ∃ ts ts', Disjunction ts e ∧ (∀ token ∈ ts, token.Tame) ∧
      Recast (StandsFor R) [] t (lookUp.splice t) ts ts' ∧
      ∀ leaf ∈ leavesOf ts', lookUp.Brings t leaf := by
  obtain ⟨behind, ts, hcut, hd, htame⟩ := h.tokens
  have hstay : ∀ leaf ∈ leavesOf ts, leaf.mark? = none → lookUp.Brings t leaf := by
    intro leaf hl hnone
    refine ⟨h.tame leaf (hd.leaves ▸ hl), fun name hname => ?_⟩
    obtain ⟨n, rfl⟩ := Expr.name?_eq_some_iff.mp hname
    cases hnone
  have hcome : ∀ mark ∈ marksOf (leavesOf ts), ∃ term us e',
      ComesIn lookUp (StandsFor R) (lookUp.Brings t) mark.2 term us e' := by
    intro mark hm
    have hmention : Mentions t mark.2 := ⟨e, mark.1, h.read, hd.leaves ▸ mem_marksOf.mp hm⟩
    obtain ⟨term, e', hl, hterm, hR'⟩ := hr mark.2 hmention
    obtain ⟨_, us, hcut', hd', htame'⟩ := hterm.tokens
    refine ⟨term, us, e', hl, hR', hcut'.lexed, hd', htame',
      fun leaf hleaf => ⟨hterm.tame leaf hleaf, fun name hname => ?_⟩⟩
    obtain ⟨n, rfl⟩ := Expr.name?_eq_some_iff.mp hname
    exact ⟨mark.2, hmention, term, hl, e', n, hterm.read, hleaf⟩
  obtain ⟨ts', hrecast, hleaves⟩ := hcut.recast (fun _ _ => rfl) hstay hcome
  rw [← hd.leaves, ← Resolver.splice_read h.read] at hrecast
  exact ⟨ts, ts', hd, htame, hrecast, hleaves⟩

/-- What comes of a tame term is tame, it is related to the term, and its bookmarks are those of the
terms that came in. -/
theorem splice (hR : Congruent R) (h : Tamed t e) (hr : Replaceable lookUp R t) :
    ∃ f, Tamed (lookUp.splice t) f ∧ R e f ∧
      ∀ name, Mentions (lookUp.splice t) name →
      ∃ first, Mentions t first ∧ lookUp.RefersTo first name := by
  obtain ⟨ts, ts', hd, htame, hrecast, hleaves⟩ := h.recast hr
  have hlexed : Lexed (lookUp.splice t) ts' := by
    simpa using hrecast.lexed (.inl rfl) (hd.orderly htame) .nil
  obtain ⟨us, hus, hunplaced⟩ := hlexed.tokens
  obtain ⟨f, hf, hef⟩ := hd.substituted hR (hrecast.substituted hR fun m hP => hP m _)
  obtain ⟨g, hg, hfg⟩ := hf.substituted hR (substituted_of_unplaced hR hunplaced.symm)
  have hnotab := h.no_tab_splice hr
  have hread : Expr.ofTerm (lookUp.splice t) = .ok g :=
    ofTerm_eq_ok_iff.mpr ⟨us, by rwa [Text.expandTabs_eq_self hnotab], hg⟩
  have hbrings : ∀ leaf ∈ g.leaves, lookUp.Brings t leaf := by
    intro leaf hl
    rw [hg.leaves] at hl
    obtain ⟨leaf', hl', heq⟩ := mem_leavesOf_of_unplaced hunplaced hl
    exact (hleaves leaf' hl').of_unplaced heq
  refine ⟨g, ⟨hnotab, hread, fun leaf hl => (hbrings leaf hl).1⟩, hR.trans hef hfg, ?_⟩
  rintro name ⟨g', n, hread', hl⟩
  obtain rfl := Except.ok.inj (hread.symm.trans hread')
  exact (hbrings _ hl).2 name rfl

end Tamed

end FileTags

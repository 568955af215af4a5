import FileTags.Proofs.Term.Grammar
import FileTags.Proofs.Term.Head

/-!
# Tokens in other contexts

In front of a text that looks alike, the same token is read, but for a parenthesis that opens a
group: what follows the group may stand behind the place where the texts differ. Except for
parentheses, the text of a token is passed over by the look-ahead of a group. Both ask that the
braces in patterns stand in escapes and classes, so that nothing but a bookmark begins with a brace.
-/

set_option autoImplicit false

namespace FileTags

namespace Term

open Text

/-! ## Braces -/

/-- Whether every opening brace stands in an escape, in a class, or at one of some places; what
stands in braces is passed over. The second number says how many characters belong to what has been
read already. -/
def bracesAt (places : List Nat) : Nat → Nat → Text → Bool
  | _, _, [] => true
  | offset, pending + 1, _ :: rest => bracesAt places (offset + 1) pending rest
  | offset, 0, c :: rest =>
    if c = .char '\\' then bracesAt places (offset + 1) 1 rest
    else if c = .char '[' then bracesAt places (offset + 1) (((classLength? rest).getD 1) - 1) rest
    else if c = .char '\x7b' then
      places.contains offset &&
        bracesAt places (offset + 1) (((rest.findIdx? (· == .char '\x7d')).map (· + 1)).getD 0) rest
    else bracesAt places (offset + 1) 0 rest

def BraceFree (t : Text) : Prop := bracesAt [] 0 0 t = true

theorem bracesClose_of_bracesAt {offset pending : Nat} {t : Text}
    (h : bracesAt [] offset pending t = true) :
    bracesClose pending t = true := by
  induction t generalizing offset pending with
  | nil => cases pending <;> rfl
  | cons c t ih =>
    cases pending with
    | succ pending => exact ih h
    | zero =>
      rw [bracesAt] at h
      rw [bracesClose]
      split
      · next hc => exact ih (by simpa [hc] using h)
      · next hslash =>
        rw [if_neg hslash] at h
        split
        · next hc => exact ih (by simpa [hc] using h)
        · next hclass =>
          rw [if_neg hclass] at h
          split at h
          · simp at h
          · next hbrace => simp [hbrace, ih h]

theorem BraceFree.bracesClose {t : Text} (h : BraceFree t) : bracesClose 0 t = true :=
  bracesClose_of_bracesAt h

theorem BraceFree.head {c : Rune} {t : Text} (h : BraceFree (c :: t)) : c ≠ .char '\x7b' := by
  rintro rfl
  simp [BraceFree, bracesAt] at h

end Term

def Expr.Tame : Expr → Prop
  | .tag _ p => Term.BraceFree p
  | .comparison _ p _ v => Term.BraceFree p ∧ Term.BraceFree v
  | _ => True

def Expr.BracesClose : Expr → Prop
  | .tag _ p => Term.bracesClose 0 p = true
  | .comparison _ p _ v => Term.bracesClose 0 p = true ∧ Term.bracesClose 0 v = true
  | _ => True

theorem Expr.Tame.bracesClose {e : Expr} (h : e.Tame) : e.BracesClose := by
  cases e with
  | tag => exact Term.BraceFree.bracesClose h
  | comparison => exact ⟨h.1.bracesClose, h.2.bracesClose⟩
  | _ => trivial

namespace Term

open Text

def Token.Tame : Token → Prop
  | .symbol _ _ => True
  | .operand e => e.Tame

def Token.BracesClose : Token → Prop
  | .symbol _ _ => True
  | .operand e => e.BracesClose

theorem Token.Tame.bracesClose {token : Token} (h : token.Tame) : token.BracesClose := by
  cases token with
  | symbol => trivial
  | operand e => exact Expr.Tame.bracesClose h

/-! ## Texts that are passed over -/

/-- Whether a parenthesis opens a group is settled by what stands behind the group. -/
theorem opensGroup_passed {u : Text} (hu : Passed u) (rest : Text) :
    opensGroup (.char '(' :: (u ++ .char ')' :: rest)) = mayFollowGroup rest := by
  have hdrop : (.char '(' :: (u ++ .char ')' :: rest)).drop (u.length + 1 + 1) = rest := by simp
  simp only [opensGroup, hu.groupClose, hdrop, startsWith]
  simp

theorem opensGroup_of_head {c : Rune} (h : c ≠ .char '(') (t : Text) :
    opensGroup (c :: t) = false := by
  simp [opensGroup, startsWith, h]

theorem bookmark?_of_head {c : Rune} (h : c ≠ .char '\x7b') (t : Text) :
    bookmark? (c :: t) = none := by
  rw [bookmark?]
  rintro u hu
  simp_all

variable {s t x : Text}

/-- A pattern that is read as no group is none in front of a text that looks alike either. -/
theorem PatternBefore.opensGroup {r p : Text} (h : PatternBefore r p) (hb : BraceFree p)
    (ha : Alike s t) :
    opensGroup (p ++ s) = opensGroup (p ++ t) := by
  obtain ⟨hrun, hne, -⟩ := h
  cases p with
  | nil => exact absurd rfl hne
  | cons c p =>
    by_cases hc : c = .char '('
    · subst hc
      have hclose := hb.bracesClose
      rw [bracesClose_cons (by decide), Bool.and_eq_true] at hclose
      cases hrun.run with
      | opening h =>
        obtain ⟨u, v, rfl, hu, -, -⟩ := Run.closes (Nat.le_refl _) h hclose.2
        simp only [List.cons_append, List.append_assoc, opensGroup_passed hu.passed]
        exact (ha.append v).mayFollowGroup
      | plain hc => simp [special] at hc
    · rw [List.cons_append, List.cons_append, opensGroup_of_head hc, opensGroup_of_head hc]

theorem ComparisonBefore.pattern {offset : Nat} {e : Expr} (h : ComparisonBefore offset s x e)
    (ht : e.Tame) :
    ∃ p y r, x = p ++ y ∧ PatternBefore r p ∧ BraceFree p := by
  cases h with
  | tag hp => exact ⟨_, _, _, rfl, hp, ht⟩
  | pair hp => exact ⟨_, _, _, rfl, hp, ht.1⟩

theorem startsWith_closing (hne : x ≠ []) :
    startsWith (x ++ s) [.char ')'] = startsWith (x ++ t) [.char ')'] := by
  cases x with
  | nil => exact absurd rfl hne
  | cons c x => simp [startsWith]

theorem opensGroup_operator {k : Symbol} (hx : x ∈ k.spellings) : opensGroup (x ++ t) = false := by
  obtain ⟨c, u, rfl, -, -⟩ := spelling_head hx
  refine opensGroup_of_head ?_ (u ++ t)
  rintro rfl
  cases k <;> simp [Symbol.spellings] at hx

/-- The same token is read in front of a text that looks alike. -/
theorem TokenAt.alike {behind offset : Nat} {token : Token}
    (h : TokenAt behind offset (x ++ s) token x.length) (ha : Alike s t)
    (hs : s ≠ [.char '\\']) (hc : comparatorAt? (skipGap s) = none) (htame : token.Tame)
    (hopen : token.rise ≠ 1) :
    TokenAt behind offset (x ++ t) token x.length := by
  have hx := ha.append x
  have htext := h.text
  have hclosing : startsWith (x ++ s) [.char ')'] = startsWith (x ++ t) [.char ')'] :=
    startsWith_closing htext.ne_nil
  cases htext with
  | opening => exact absurd rfl hopen
  | closing n =>
    have htoken := token?_closing behind offset t
    rw [token?_eq_some_iff] at htoken
    cases h
    exact htoken
  | operator n hw =>
    have hopens : opensGroup (x ++ t) = false := opensGroup_operator hw
    generalize x.length = n at h ⊢
    cases h with
    | opening | closing => cases hw
    | not ho hclose h => exact .not hopens (hclosing ▸ hclose) (hx.notLength? ▸ h)
    | and ho hclose hn h =>
      exact .and hopens (hclosing ▸ hclose) (hx.notLength? ▸ hn) (hx.andLength? ▸ h)
    | or ho hclose hn hand h =>
      exact .or hopens (hclosing ▸ hclose) (hx.notLength? ▸ hn) (hx.andLength? ▸ hand)
        (hx.orLength? ▸ h)
  | bookmark hinside =>
    have htoken := token?_bookmark hinside.1 hinside.2 behind offset t
    rw [token?_eq_some_iff] at htoken
    simpa using htoken
  | comparison hbefore =>
    obtain ⟨p, y, r, rfl, hp, hfree⟩ := hbefore.pattern htame
    have hopens : opensGroup (p ++ y ++ s) = opensGroup (p ++ y ++ t) := by
      rw [List.append_assoc, List.append_assoc, hp.opensGroup hfree (ha.append y)]
    have hbookmark : bookmark? (p ++ y ++ t) = none := by
      cases p with
      | nil => exact absurd rfl hp.ne_nil
      | cons c p => exact bookmark?_of_head hfree.head (p ++ y ++ t)
    have heq := (hbefore.alike ha hs hc).eq_some
    generalize (p ++ y).length = n at h heq ⊢
    cases h with
    | bookmark =>
      generalize p ++ y = x at hbefore
      cases hbefore
    | comparison ho hclose hn hand hr hb h =>
      exact .comparison (hopens ▸ ho) (hclosing ▸ hclose) (hx.notLength? ▸ hn)
        (hx.andLength? ▸ hand) (hx.orLength? ▸ hr)
        hbookmark heq

theorem plain_comparator (op : Comparator) : ∀ c ∈ op.symbol, c ∉ .char '\x7b' :: special := by
  cases op <;> simp [Comparator.symbol, special]

theorem TokenText.nested {offset : Nat} {token : Token} (h : TokenText offset s token x)
    (hb : token.BracesClose) (hrise : token.rise = 0) : Nested x := by
  cases h with
  | opening | closing => cases hrise
  | operator n hx => exact nested_of_plain (plain_spelling hx)
  | bookmark h => exact .braces (fun hm => (h.2 _ hm).2 rfl) .nil
  | comparison h =>
    cases h with
    | tag hp hg => exact (hp.isPattern.nested hb).append (nested_of_plain (plain_gap hg))
    | @pair p g g' v op hp hg hop hg' hv =>
      have hbetween :=
        (nested_of_plain (plain_gap hg)).append
          ((nested_of_plain (plain_comparator op)).append (nested_of_plain (plain_gap hg')))
      simpa using (hp.isPattern.nested hb.1).append (hbetween.append (hv.isPattern.nested hb.2))

/-- The look-ahead goes up or down by as much as a token rises. -/
theorem TokenText.closeDistance {offset : Nat} {token : Token} (h : TokenText offset s token x)
    (hb : token.BracesClose) {depth : Int}
    (hd : 1 ≤ depth) (hr : 1 ≤ depth + token.rise) (rest : Text) :
    closeDistance? depth 0 (x ++ rest) =
      (closeDistance? (depth + token.rise) 0 rest).map (· + x.length) := by
  by_cases hrise : token.rise = 0
  · rw [hrise, Int.add_zero]
    exact (h.nested hb hrise).passed depth rest hd
  · cases h with
    | opening => exact closeDistance?_opening depth rest
    | closing =>
      have hdepth : depth ≠ 1 := by
        simp only [Token.rise] at hr
        omega
      exact closeDistance?_closing hdepth rest
    | @operator k x n hx => cases k <;> simp [Token.rise, Symbol.spellings] at hrise hx
    | bookmark | comparison => exact absurd rfl hrise

end Term

end FileTags

import FileTags.Proofs.Term.Lexed

/-!
# Texts with bookmarks replaced

A text is recast when some of its bookmarks give way to texts in parentheses. What is read of the
rest stays the same: in front of a bookmark and in front of a group the same tokens are read, a text
that a parenthesis closes reads like one that ends, and the look-ahead of a group finds its
parenthesis behind the same token. What is put in may be recast itself.
-/

set_option autoImplicit false

namespace FileTags.Term

open Text

/-! ## Orderly tokens -/

def MayFollow : List Token → Prop
  | [] => True
  | .symbol k _ :: _ => k = .closing ∨ k = .and ∨ k = .or
  | .operand _ :: _ => False

/-- The tokens close all groups that they open, and an operand is followed by what may follow it. -/
structure Orderly (ts : List Token) : Prop where
  tame : ∀ token ∈ ts, token.Tame
  closes : ∀ us vs, ts = us ++ vs → height vs ≤ 0
  follows : ∀ us e vs, ts = us ++ .operand e :: vs → MayFollow vs

theorem Orderly.tail {token : Token} {ts : List Token} (h : Orderly (token :: ts)) :
    Orderly ts := by
  refine ⟨fun t ht => h.tame t (List.mem_cons_of_mem _ ht),
    fun us vs hs => h.closes (token :: us) vs (by simp [hs]),
    fun us e vs hs => h.follows (token :: us) e vs (by simp [hs])⟩

theorem mayFollow_of_run {ls next : Levels} {e : Expr} {vs : List Token}
    (h : ls.run (.operand e :: vs) = .ok next) :
    MayFollow vs := by
  rw [Levels.run, Levels.step] at h
  split at h
  · next heq =>
    split at heq
    · obtain rfl := Except.ok.inj heq
      cases vs with
      | nil => trivial
      | cons v vs =>
        cases v with
        | operand f => simp [Levels.run, Levels.step, Level.addOperand] at h
        | symbol k n => cases k <;> simp_all [MayFollow, Levels.run, Levels.step, Level.addOperand]
    · cases heq
  · cases h

theorem Disjunction.orderly {ts : List Token} {e : Expr} (h : Disjunction ts e)
    (htame : ∀ token ∈ ts, token.Tame) : Orderly ts := by
  refine ⟨htame, ?_, ?_⟩
  · rintro us vs rfl
    have htotal := h.balanced.1
    have hfirst := h.balanced.2 us vs rfl
    rw [height_append] at htotal
    omega
  · rintro us e vs rfl
    obtain ⟨l, -, -, hrun⟩ := h.run 0 [] []
    rw [List.append_nil] at hrun
    obtain ⟨ls, -, hrest⟩ := Levels.run_of_append hrun
    exact mayFollow_of_run hrest

theorem map_add_map (r : Option Nat) (a b : Nat) :
    (r.map (· + a)).map (· + b) = r.map (· + (a + b)) := by
  cases r <;> simp [Nat.add_assoc]

/-! ## Recast texts -/

/-- A text and what becomes of it in front of `z` when some of its bookmarks give way to texts in
parentheses, and the tokens of both. What is put in has the tokens of an expression, which stands in
a relation `P` to the name of the bookmark. -/
inductive Recast (P : Text → Expr → Prop) : Text → Text → Text → List Token → List Token → Prop
  | done (z : Text) : Recast P z [] z [] []
  | gap {z t t' : Text} {ts ts' : List Token} {c : Rune} (hc : isGap c = true)
      (h : Recast P z t t' ts ts') :
      Recast P z (c :: t) (c :: t') ts ts'
  | kept {z x t t' : Text} {token : Token} {ts ts' : List Token} {behind offset : Nat}
      (hx : TokenAt behind offset (x ++ t) token x.length) (h : Recast P z t t' ts ts') :
      Recast P z (x ++ t) (x ++ t') (token :: ts) (token :: ts')
  | replaced {z inside term t t' w : Text} {us us' ts ts' : List Token} {e : Expr} {m n k : Nat}
      (hi : IsInside inside)
      (hp : P (strip inside) e) (he : Disjunction us e) (htame : ∀ token ∈ us, token.Tame)
        (h : Recast P z t t' ts ts')
      (hterm : Recast P (.char ')' :: t') term w us us') :
      Recast P z (.char '\x7b' :: (inside ++ .char '\x7d' :: t)) (.char '(' :: w)
        (.operand (.bookmark m (strip inside)) :: ts)
        (.symbol .opening n :: us' ++ .symbol .closing k :: ts')

/-- A text with nothing replaced is cast into the one in front of any other. -/
theorem Lexed.recast {P : Text → Expr → Prop} {t : Text} {ts : List Token} (h : Lexed t ts)
    (z : Text) :
    Recast P z t (t ++ z) ts ts := by
  induction h with
  | nil => exact .done z
  | gap hc h ih => exact .gap hc ih
  | token hx h ih =>
    rw [List.append_assoc]
    exact .kept hx ih

/-- The parenthesis that the look-ahead wants is there in both texts, and what stands behind it
looks alike. -/
def CloseAlike (depth : Int) (t t' : Text) : Prop :=
  ∃ k k', closeDistance? depth 0 t = some k ∧ closeDistance? depth 0 t' = some k' ∧
    Alike (t.drop (k + 1)) (t'.drop (k' + 1))

theorem CloseAlike.append {depth depth' : Int} {x x' t t' : Text} (h : CloseAlike depth' t t')
    (hx : closeDistance? depth 0 (x ++ t) = (closeDistance? depth' 0 t).map (· + x.length))
    (hx' : closeDistance? depth 0 (x' ++ t') = (closeDistance? depth' 0 t').map (· + x'.length)) :
    CloseAlike depth (x ++ t) (x' ++ t') := by
  obtain ⟨k, k', hk, hk', ha⟩ := h
  have hdrop : ∀ (y s : Text) (l : Nat), (y ++ s).drop (l + y.length + 1) = s.drop (l + 1) := by
    intro y s l
    rw [show l + y.length + 1 = y.length + (l + 1) by omega, List.drop_length_add_append]
  refine ⟨k + x.length, k' + x'.length, by rw [hx, hk]; rfl, by rw [hx', hk']; rfl, ?_⟩
  rw [hdrop, hdrop]
  exact ha

theorem CloseAlike.opensGroup {t t' : Text} (h : CloseAlike 1 t t') :
    opensGroup (.char '(' :: t) = opensGroup (.char '(' :: t') := by
  obtain ⟨k, k', hk, hk', ha⟩ := h
  have hclose : ∀ {u : Text} {l : Nat}, closeDistance? 1 0 u = some l →
      Term.opensGroup (.char '(' :: u) = mayFollowGroup (u.drop (l + 1)) := by
    intro u l hl
    have hgroup : groupClose? (.char '(' :: u) 0 = some (l + 1) := by
      rw [groupClose?, List.drop_zero, closeDistance?_opening, show (0 : Int) + 1 = 1 from rfl, hl]
      rfl
    simp [Term.opensGroup, startsWith, hgroup]
  rw [hclose hk, hclose hk', ha.mayFollowGroup]

def Stop (z : Text) : Prop := z = [] ∨ ∃ u, z = .char ')' :: u

def Rises (ts : List Token) (w : Text) : Prop :=
  ∀ (depth : Int) (rest : Text), (∀ us vs, ts = us ++ vs → 1 ≤ depth + height us) →
    closeDistance? depth 0 (w ++ rest) =
      (closeDistance? (depth + height ts) 0 rest).map (· + w.length)

theorem Rises.passed {ts : List Token} {w : Text} (h : Rises ts w) (hb : Balanced ts) :
    Passed w := by
  intro depth rest hd
  have hinner : ∀ us vs, ts = us ++ vs → 1 ≤ depth + height us := by
    intro us vs hs
    have := hb.2 us vs hs
    omega
  rw [h depth rest hinner, hb.1, Int.add_zero]

namespace Recast

variable {P : Text → Expr → Prop} {z t t' : Text} {ts ts' : List Token}

theorem alike (h : Recast P z t t' ts ts') (hz : Stop z) : Alike t t' := by
  induction h with
  | done z =>
    rcases hz with rfl | ⟨u, rfl⟩
    · exact .same []
    · exact .stop u
  | gap hc h ih => exact .cons _ (ih hz)
  | kept hx h ih => exact (ih hz).append _
  | replaced => exact .group _ _

theorem ne_backslash (h : Recast P z t t' ts ts') : t ≠ [.char '\\'] := by
  cases h with
  | done => simp
  | gap hc =>
    intro h
    obtain ⟨rfl, -⟩ := List.cons_eq_cons.mp h
    revert hc
    decide
  | kept hx h =>
    intro h
    rcases List.append_eq_singleton_iff.mp h with ⟨hnil, -⟩ | ⟨hx', -⟩
    · exact hx.text.ne_nil hnil
    · exact hx.text.ne_backslash hx'
  | replaced => simp

theorem comparatorAt? (h : Recast P z t t' ts ts') : comparatorAt? (skipGap t) = none := by
  induction h with
  | done => rfl
  | gap hc h ih => simpa [skipGap, hc] using ih
  | kept hx h ih => rw [hx.skipGap_eq, hx.comparatorAt?_eq_none]
  | replaced => rfl

theorem mayFollowGroup (h : Recast P z t t' ts ts') (hf : MayFollow ts) :
    mayFollowGroup t = true := by
  induction h with
  | done => rfl
  | gap hc h ih => simpa [Term.mayFollowGroup, skipGap, hc] using ih hf
  | @kept _ _ _ _ token _ _ _ _ hx h ih =>
    cases token with
    | symbol k m => exact hx.mayFollowGroup hf
    | operand e => exact hf.elim
  | replaced => exact hf.elim

/-- The look-ahead of a group passes over the recast text, up or down by as much as the tokens
rise. -/
theorem rises (h : Recast P z t t' ts ts') (htame : ∀ token ∈ ts, token.Tame) :
    ∃ w, t' = w ++ z ∧ Rises ts w := by
  induction h with
  | done z => exact ⟨[], rfl, fun depth rest hd => by simp⟩
  | @gap z t t' ts ts' c hc h ih =>
    obtain ⟨w, rfl, hw⟩ := ih htame
    have hpass : Passed [c] := passed_gap (by simpa [IsGap] using hc)
    refine ⟨c :: w, rfl, fun depth rest hd => ?_⟩
    have hfirst := hpass depth (w ++ rest) (by simpa using hd [] ts rfl)
    rw [List.cons_append, show c :: (w ++ rest) = [c] ++ (w ++ rest) from rfl, hfirst,
      hw depth rest hd, map_add_map]
    rfl
  | @kept z x t t' token ts ts' _ _ hx h ih =>
    obtain ⟨w, rfl, hw⟩ := ih fun u hu => htame u (List.mem_cons_of_mem _ hu)
    refine ⟨x ++ w, by simp, fun depth rest hd => ?_⟩
    have hnext : ∀ us vs, ts = us ++ vs → 1 ≤ (depth + token.rise) + height us := by
      intro us vs hs
      have := hd (token :: us) vs (by simp [hs])
      rw [height_cons] at this
      omega
    have hfirst :=
      hx.text.closeDistance (htame token (by simp)).bracesClose
        (by simpa using hd [] (token :: ts) rfl)
      (by simpa using hnext [] ts rfl) (w ++ rest)
    rw [List.append_assoc, hfirst, hw _ rest hnext, height_cons, Int.add_assoc, map_add_map,
      List.length_append, Nat.add_comm]
  | @replaced z inside term t t' w us us' ts ts' e m n k hi hp he htame' h hterm ih ihterm =>
    obtain ⟨v, rfl, hv⟩ := ih fun u hu => htame u (List.mem_cons_of_mem _ hu)
    obtain ⟨w, rfl, hw⟩ := ihterm htame'
    refine ⟨(.char '(' :: (w ++ [.char ')'])) ++ v, by simp, fun depth rest hd => ?_⟩
    have hnext : ∀ vs vs', ts = vs ++ vs' → 1 ≤ depth + height vs := by
      intro vs vs' hs
      simpa [Token.rise] using hd (.operand (.bookmark m (strip inside)) :: vs) vs' (by simp [hs])
    have hgroup := (hw.passed he.balanced).group depth (v ++ rest) (by simpa using hd [] _ rfl)
    rw [List.append_assoc, hgroup, hv depth rest hnext, map_add_map, height_cons,
      List.length_append, Nat.add_comm]
    simp [Token.rise]

/-- The parenthesis that closes a group stands behind the same token in both texts. -/
theorem close (h : Recast P z t t' ts ts') (hz : Stop z) (htame : ∀ token ∈ ts, token.Tame)
    {depth : Int} (hd : 1 ≤ depth) (hh : depth + height ts ≤ 0) : CloseAlike depth t t' := by
  induction h generalizing depth with
  | done z =>
    rw [height_nil] at hh
    omega
  | @gap z t t' ts ts' c hc h ih =>
    have hpass : Passed [c] := passed_gap (by simpa [IsGap] using hc)
    exact (ih hz htame hd hh).append (hpass depth t hd) (hpass depth t' hd)
  | @kept z x t t' token ts ts' behind offset hx h ih =>
    have htoken := (htame token List.mem_cons_self).bracesClose
    rw [height_cons] at hh
    by_cases hlast : 1 ≤ depth + token.rise
    · have hrest := ih hz (fun u hu => htame u (List.mem_cons_of_mem _ hu)) hlast (by omega)
      exact hrest.append (hx.text.closeDistance htoken hd hlast t)
        (hx.text.closeDistance htoken hd hlast t')
    · obtain ⟨l, rfl⟩ := Token.eq_closing (by omega : token.rise < 0)
      obtain rfl : depth = 1 := by
        simp only [Token.rise] at hlast
        omega
      cases hx.text with
      | operator _ hx => cases hx
      | closing => exact ⟨0, 0, rfl, rfl, h.alike hz⟩
  | @replaced z inside term t t' w us us' ts ts' e m n l hi hp he htame' h hterm ih ihterm =>
    obtain ⟨v, rfl, hv⟩ := hterm.rises htame'
    have hrest :=
      ih hz (fun u hu => htame u (List.mem_cons_of_mem _ hu)) hd (by simpa [Token.rise] using hh)
    have hbraces := passed_braces (fun hm => (hi.2 _ hm).2 rfl) depth t hd
    have hgroup := (hv.passed he.balanced).group depth t' hd
    have hall := hrest.append hbraces hgroup
    simpa using hall

theorem lexed (h : Recast P z t t' ts ts') (hz : Stop z) (ho : Orderly ts) {zs : List Token}
    (hzs : Lexed z zs) :
    Lexed t' (ts' ++ zs) := by
  induction h generalizing zs with
  | done z => exact hzs
  | gap hc h ih => exact .gap hc (ih hz ho hzs)
  | @kept z x t t' token ts ts' behind offset hx h ih =>
    have htail := ih hz ho.tail hzs
    by_cases hopen : token.rise = 1
    · have htext := hx.text
      cases htext with
      | closing | bookmark | comparison => cases hopen
      | @operator k _ _ hx => cases k <;> simp [Token.rise, Symbol.spellings] at hopen hx
      | opening l =>
        cases hx with
        | opening hopens =>
          have hheight := ho.closes [] _ rfl
          simp only [height_cons, Token.rise] at hheight
          have hclose := h.close hz ho.tail.tame (Int.le_refl 1) hheight
          have hopening : TokenAt behind offset (.char '(' :: t') (.symbol .opening offset) 1 :=
            .opening (hclose.opensGroup ▸ hopens)
          exact .token (x := [.char '(']) hopening htail
    · exact .token (hx.alike (h.alike hz) h.ne_backslash h.comparatorAt?
        (ho.tame _ List.mem_cons_self) hopen) htail
  | @replaced z inside term t t' w us us' ts ts' e m n k hi hp he htame' h hterm ih ihterm =>
    have htail := ih hz ho.tail hzs
    have hclosing : TokenAt 0 k (.char ')' :: t') (.symbol .closing k) 1 :=
      .closing (opensGroup_of_head (by decide) t') (by simp [startsWith])
    have hinner :=
      ihterm (.inr ⟨t', rfl⟩) (he.orderly htame') (.token (x := [.char ')']) hclosing htail)
    obtain ⟨v, rfl, hv⟩ := hterm.rises htame'
    have hopens : Term.opensGroup (.char '(' :: (v ++ .char ')' :: t')) = true := by
      rw [opensGroup_passed (hv.passed he.balanced), ← (h.alike hz).mayFollowGroup]
      exact h.mayFollowGroup (ho.follows [] _ ts rfl)
    have hopening : TokenAt 0 n (.char '(' :: (v ++ .char ')' :: t')) (.symbol .opening n) 1 :=
      .opening hopens
    have hall := Lexed.token (x := [.char '(']) hopening hinner
    simpa using hall

end Recast

end FileTags.Term

import FileTags.Proofs.Pattern.Limits
import Mathlib.Data.List.TakeWhile

/-!
# How far reading looks

A reader looks at the signs that belong to what it reads, and at most at the one behind them. A
dollar sign behind the last sign changes nothing for it, and a backslash at the end is never passed
over: this is so for names, escapes and classes.
-/

set_option autoImplicit false

namespace FileTags.Pattern

open Text

/-- What a dollar sign behind a text is: the line end or, behind a backslash, a character. -/
inductive Ending
  | line
  | character

namespace Ending

def sign : Ending → Sign
  | line => .plain (.char '$')
  | character => .escaped (.char '$')

def item : Ending → Regex
  | line => .assertion .lineEnd
  | character => .char 36

theorem ne_plain (e : Ending) {c : Rune} (hc : c ≠ .char '$') : .plain c ≠ e.sign := by
  cases e with
  | line => simpa [sign] using hc
  | character => nofun

end Ending

def Passes (rest : List Sign) : Nat → Prop
  | 0 => True
  | k + 1 => ∃ s, rest[k]? = some s ∧ s ≠ .dangling

namespace Passes

variable {rest front after : List Sign} {s : Sign} {k : Nat}

theorem cons (hs : s ≠ .dangling) (h : Passes rest k) : Passes (s :: rest) (k + 1) := by
  cases k with
  | zero => exact ⟨s, rfl, hs⟩
  | succ k => exact h

theorem length_le (h : Passes rest k) : k ≤ rest.length := by
  cases k with
  | zero => exact Nat.zero_le _
  | succ k =>
    obtain ⟨s, hs, -⟩ := h
    exact (List.getElem?_eq_some_iff.mp hs).1

theorem lt_length (h : Passes (rest ++ [.dangling]) k) : k ≤ rest.length := by
  cases k with
  | zero => exact Nat.zero_le _
  | succ k =>
    obtain ⟨s, hs, hne⟩ := h
    refine Nat.lt_of_not_ge fun hk => ?_
    have hlength := (List.getElem?_eq_some_iff.mp hs).1
    rw [List.length_append, List.length_singleton] at hlength
    obtain rfl : k = rest.length := by omega
    rw [List.getElem?_concat_length] at hs
    exact hne (Option.some.inj hs).symm

theorem of_split (hs : s ≠ .dangling) : Passes (front ++ s :: after) (front.length + 1) :=
  ⟨s, by rw [List.getElem?_append_right (Nat.le_refl _), Nat.sub_self]; rfl, hs⟩

theorem plain {c : Rune} (h : Passes rest k) : Passes (.plain c :: rest) (k + 1) := h.cons nofun

theorem first {c : Rune} : Passes (.plain c :: rest) 1 := cons nofun (k := 0) trivial

theorem of_split_plain {c : Rune} : Passes (front ++ .plain c :: after) (front.length + 1) :=
  .of_split nofun

theorem add {j : Nat} (h : Passes rest k) (hj : Passes (rest.drop k) j) : Passes rest (k + j) := by
  cases j with
  | zero => exact h
  | succ j =>
    obtain ⟨s, hs, hne⟩ := hj
    rw [List.getElem?_drop] at hs
    exact ⟨s, hs, hne⟩

theorem upTo (h : rest = front ++ s :: after) (hs : s ≠ .dangling) :
    Passes rest (rest.length - after.length) := by
  subst h
  have hlength : (front ++ s :: after).length - after.length = front.length + 1 := by
    rw [List.length_append, List.length_cons]
    omega
  rw [hlength]
  exact .of_split hs

end Passes

/-- What is read of some signs is read of them too with a dollar sign behind them, and passes over
signs that are there. -/
structure Steady {α : Type} (rest : List Sign) (a b : Except PatternFault (α × Nat)) : Prop where
  same : .dangling ∉ rest → b = a
  passes : ∀ y k, a = .ok (y, k) → Passes rest k

namespace Steady

variable {α β : Type} {rest more : List Sign} {a b : Except PatternFault (α × Nat)}

theorem error (x : PatternFault) :
    Steady rest (.error x : Except PatternFault (α × Nat)) (.error x) := ⟨fun _ => rfl, nofun⟩

theorem ok {y : α} {k : Nat} (h : Passes rest k) : Steady rest (.ok (y, k)) (.ok (y, k)) where
  same _ := rfl
  passes y' k' h' := by
    obtain ⟨rfl, rfl⟩ := Prod.mk.inj (Except.ok.inj h')
    exact h

theorem still (x : Except PatternFault α) :
    Steady rest (x.map fun y => (y, 0)) (x.map fun y => (y, 0)) := by
  cases x with
  | error x => exact error x
  | ok y => exact ok trivial

theorem ite {p : Prop} [Decidable p] {a' b' : Except PatternFault (α × Nat)}
    (h : p → Steady rest a b) (h' : ¬ p → Steady rest a' b') :
    Steady rest (if p then a else a') (if p then b else b') := by
  split
  · next hp => exact h hp
  · next hp => exact h' hp

/-- Reading goes on with what has been read of the signs behind the first ones. -/
theorem bind {f : α × Nat → Except PatternFault (β × Nat)} (h : Steady more a b)
    (hmore : .dangling ∉ rest → .dangling ∉ more)
    (hf : ∀ y k, Passes more k → ∀ z j, f (y, k) = .ok (z, j) → Passes rest j) :
    Steady rest (a >>= f) (b >>= f) where
  same hrest := by rw [h.same (hmore hrest)]
  passes z j hz := by
    cases a with
    | error x => cases hz
    | ok p => exact hf p.1 p.2 (h.passes p.1 p.2 rfl) z j hz

theorem map (f : α → β) (h : Steady rest a b) :
    Steady rest (a.map fun p => (f p.1, p.2)) (b.map fun p => (f p.1, p.2)) where
  same hrest := by rw [h.same hrest]
  passes z j hz := by
    cases a with
    | error x => cases hz
    | ok p =>
      obtain ⟨-, rfl⟩ := Prod.mk.inj (Except.ok.inj hz)
      exact h.passes p.1 p.2 rfl

end Steady

variable {e : Ending} {rest signs : List Sign} {r : Reading}

/-! ## Digits and names -/

theorem leading_append {value? : Rune → Option Nat} (hv : value? (.char '$') = none) (limit : Nat)
    (rest : List Sign) :
    leading value? limit (rest ++ [e.sign]) = leading value? limit rest := by
  induction limit generalizing rest with
  | zero => rfl
  | succ limit ih =>
    cases rest with
    | nil => cases e <;> simp [leading, Ending.sign, hv]
    | cons s rest =>
      cases s with
      | plain c => rw [List.cons_append, leading, leading, ih]
      | escaped c | dangling => rfl

theorem passes_leading (value? : Rune → Option Nat) (limit : Nat) (rest : List Sign) :
    Passes rest (leading value? limit rest).length := by
  induction limit generalizing rest with
  | zero => trivial
  | succ limit ih =>
    cases rest with
    | nil => trivial
    | cons s rest =>
      cases s with
      | escaped c | dangling => trivial
      | plain c =>
        rw [leading]
        split
        · exact (ih rest).cons nofun
        · trivial

theorem steady_hexEscape (width : Nat) (rest : List Sign) :
    Steady rest (hexEscape width rest) (hexEscape width (rest ++ [e.sign])) := by
  rw [hexEscape, hexEscape, leading_append (by decide)]
  refine .ite (fun hdigits => .ok ?_) fun _ => .error _
  exact hdigits.1 ▸ passes_leading hexValue? width rest

theorem steady_octalEscape (first : Nat) (rest : List Sign) :
    Steady rest (octalEscape first rest) (octalEscape first (rest ++ [e.sign])) := by
  rw [octalEscape, octalEscape, leading_append (by decide)]
  exact .ite (fun _ => .ok (passes_leading _ _ _)) fun _ => .error _

/-- All signs pass a test, or there is a first one that fails it. -/
theorem all_or_first (p : Sign → Bool) (rest : List Sign) : (∀ s ∈ rest, p s = true) ∨
    ∃ front s after, rest = front ++ s :: after ∧ (∀ t ∈ front, p t = true) ∧ p s = false := by
  induction rest with
  | nil => exact .inl nofun
  | cons s rest ih =>
    cases hs : p s with
    | false => exact .inr ⟨[], s, rest, rfl, nofun, hs⟩
    | true =>
      rcases ih with hall | ⟨front, t, after, rfl, hfront, ht⟩
      · exact .inl (List.forall_mem_cons.mpr ⟨hs, hall⟩)
      · exact .inr ⟨s :: front, t, after, rfl, List.forall_mem_cons.mpr ⟨hs, hfront⟩, ht⟩

theorem takeWhile_first {p : Sign → Bool} {front after : List Sign} {s : Sign}
    (hfront : ∀ t ∈ front, p t = true) (hs : p s = false) :
    (front ++ s :: after).takeWhile p = front := by
  rw [List.takeWhile_append_of_pos hfront, List.takeWhile_cons_of_neg (by simp [hs]),
    List.append_nil]

theorem nameUntil_first {close : Rune} {front : List Sign}
    (hfront : ∀ t ∈ front, (t != .plain close) = true) (after : List Sign) :
    nameUntil close (front ++ .plain close :: after) =
      if front.isEmpty then .error .malformed
        else .ok (front.flatMap Sign.written, front.length + 1) := by
  have hlength : (front.length == (front ++ .plain close :: after).length) = false := by simp
  simp only [nameUntil,
    takeWhile_first hfront (show (Sign.plain close != .plain close) = false by simp), hlength,
    Bool.or_false]

theorem nameUntil_all {close : Rune} (hall : ∀ t ∈ rest, (t != .plain close) = true) :
    nameUntil close rest = .error .malformed := by
  simp [nameUntil, List.takeWhile_eq_self_iff.mpr hall]

theorem steady_nameUntil {close : Rune} (hclose : close ≠ .char '$') (rest : List Sign) :
    Steady rest (nameUntil close rest) (nameUntil close (rest ++ [e.sign])) := by
  rcases all_or_first (· != .plain close) rest with hall | ⟨front, s, after, rfl, hfront, hs⟩
  · have hdollar : ∀ t ∈ rest ++ [e.sign], (t != .plain close) = true := by
      refine List.forall_mem_append.mpr ⟨hall, List.forall_mem_singleton.mpr ?_⟩
      simpa using (e.ne_plain hclose).symm
    rw [nameUntil_all hall, nameUntil_all hdollar]
    exact .error _
  · obtain rfl : s = .plain close := by simpa using hs
    rw [List.append_assoc, List.cons_append, nameUntil_first hfront, nameUntil_first hfront]
    exact .ite (fun _ => .error _) fun _ => .ok (.of_split nofun)

/-! ## Escapes and classes -/

theorem steady_nameEscape (rest : List Sign) :
    Steady rest (nameEscape rest) (nameEscape (rest ++ [e.sign])) := by
  have hother : ∀ s more, s ≠ .plain (.char '\x7b') →
      Steady rest (nameEscape (s :: more)) (nameEscape (s :: more ++ [e.sign])) := by
    intro s more hs
    have herror : ∀ more, nameEscape (s :: more) = .error .malformed := by
      intro more
      rw [nameEscape.eq_def]
      split
      · next heq => exact absurd (List.cons.inj heq).1 hs
      · rfl
    rw [List.cons_append, herror, herror]
    exact .error _
  cases rest with
  | nil => cases e <;> exact .error _
  | cons s more =>
    by_cases hs : s = .plain (.char '\x7b')
    · subst hs
      refine .bind (steady_nameUntil (by decide) more) (fun h =>
        List.not_mem_of_not_mem_cons h) fun name taken hpasses code j hcode => ?_
      dsimp only at hcode
      split at hcode
      · obtain ⟨-, rfl⟩ := Prod.mk.inj (Except.ok.inj hcode)
        exact hpasses.plain
      · cases hcode
    · exact hother s more hs

theorem steady_codeEscape (c : Rune) (rest : List Sign) :
    Steady rest (codeEscape c rest) (codeEscape c (rest ++ [e.sign])) := by
  refine .ite (fun _ => steady_hexEscape 2 rest) fun _ =>
    .ite (fun _ => steady_hexEscape 4 rest) fun _ => ?_
  refine .ite (fun _ => steady_hexEscape 8 rest) fun _ =>
    .ite (fun _ => steady_nameEscape rest) fun _ => ?_
  exact .ite (fun _ => .error _) fun _ => .ok trivial

theorem steady_classMember (s : Sign) (rest : List Sign) :
    Steady rest (classMember s rest) (classMember s (rest ++ [e.sign])) := by
  cases s with
  | plain c => exact .ok trivial
  | dangling => exact .error _
  | escaped c =>
    simp only [classMember]
    split
    · exact .ok trivial
    · exact .ok trivial
    · exact .map _ (steady_octalEscape _ rest)
    · exact .map _ (steady_codeEscape c rest)

/-- What is left behind a class is what stands behind its closing bracket. -/
theorem classItems_split {seen items : List ClassItem} {after : List Sign}
    (h : classItems seen signs = .ok (items, after)) :
    ∃ front, signs = front ++ .plain (.char ']') :: after := by
  fun_induction classItems seen signs
  case case1 => cases h
  case case2 rest hclose =>
    obtain ⟨-, rfl⟩ := Prod.mk.inj (Except.ok.inj h)
    exact ⟨[], by rw [hclose.1]; rfl⟩
  case case3 => cases h
  case case4 s rest _ item taken _ after' hdrop =>
    obtain ⟨-, rfl⟩ := Prod.mk.inj (Except.ok.inj h)
    refine ⟨s :: rest.take taken ++ [.plain (.char '-')], ?_⟩
    rw [List.append_assoc, List.singleton_append, List.cons_append, ← hdrop, List.take_append_drop]
  case case5 => cases h
  case case6 => cases h
  case case7 seen s rest _ taken t after' _ hdrop hi more lo _ _ _ ih =>
    obtain ⟨front, hfront⟩ := ih h
    have hrest : rest = rest.take taken ++ .plain (.char '-') :: t ::
        (after'.take more ++ (front ++ .plain (.char ']') :: after)) := by
      rw [← hfront, List.take_append_drop, ← hdrop, List.take_append_drop]
    exact ⟨s :: rest.take taken ++ .plain (.char '-') :: t :: after'.take more ++ front,
      (congrArg (s :: ·) hrest).trans (by simp)⟩
  case case8 => cases h
  case case9 s rest _ item taken _ _ _ ih =>
    obtain ⟨front, hfront⟩ := ih h
    exact ⟨s :: rest.take taken ++ front, by rw [List.append_assoc, ← hfront]; simp⟩

def rangeFrom (item : ClassItem) (last : Except PatternFault (ClassItem × Nat)) :
    Except PatternFault (ClassItem × Nat) :=
  match last, item with
  | .error e, _ => .error e
  | .ok (.single hi, more), .single lo =>
    if hi < lo then .error .malformed else .ok (.range lo hi, more)
  | .ok _, _ => .error .malformed

theorem steady_rangeFrom (item : ClassItem) {last last' : Except PatternFault (ClassItem × Nat)}
    (h : Steady rest last last') :
    Steady rest (rangeFrom item last) (rangeFrom item last') where
  same hrest := by rw [h.same hrest]
  passes y k hy := by
    cases last with
    | error x => cases hy
    | ok p =>
      obtain ⟨x, more⟩ := p
      have hmore : Passes rest more := h.passes x more rfl
      cases x <;> cases item <;> simp only [rangeFrom, reduceCtorEq] at hy
      split at hy
      · cases hy
      · obtain ⟨-, rfl⟩ := Prod.mk.inj (Except.ok.inj hy)
        exact hmore

section

variable {seen : List ClassItem} {s t : Sign} {after : List Sign} {item : ClassItem} {taken : Nat}

theorem classItems_close (hs : s = .plain (.char ']') ∧ seen ≠ []) :
    classItems seen (s :: rest) = .ok (seen.reverse, rest) := by
  rw [classItems, if_pos hs]

theorem classItems_error (hs : ¬ (s = .plain (.char ']') ∧ seen ≠ [])) {x : PatternFault}
    (hm : classMember s rest = .error x) :
    classItems seen (s :: rest) = .error x := by
  rw [classItems, if_neg hs, hm]

theorem classItems_last (hs : ¬ (s = .plain (.char ']') ∧ seen ≠ []))
    (hm : classMember s rest = .ok (item, taken))
    (hdrop : rest.drop taken = .plain (.char '-') :: .plain (.char ']') :: after) :
    classItems seen (s :: rest) = .ok ((.single 45 :: item :: seen).reverse, after) := by
  rw [classItems, if_neg hs, hm]
  dsimp only
  split <;> simp_all

theorem classItems_range (hs : ¬ (s = .plain (.char ']') ∧ seen ≠ []))
    (hm : classMember s rest = .ok (item, taken))
    (hdrop : rest.drop taken = .plain (.char '-') :: t :: after) (ht : t ≠ .plain (.char ']')) :
    classItems seen (s :: rest) =
      rangeFrom item (classMember t after) >>= fun p =>
        classItems (p.1 :: seen) (after.drop p.2) := by
  rw [classItems, if_neg hs, hm]
  dsimp only
  split
  · next h => simp_all
  · next h =>
    obtain ⟨rfl, rfl⟩ : t = _ ∧ after = _ := by simpa [hdrop] using h
    cases hlast : classMember t after with
    | error x => rfl
    | ok p =>
      obtain ⟨last, more⟩ := p
      cases last <;> cases item <;> try rfl
      simp only [rangeFrom]
      split <;> rfl
  · next h => exact absurd hdrop (h t after)

theorem classItems_next (hs : ¬ (s = .plain (.char ']') ∧ seen ≠ []))
    (hm : classMember s rest = .ok (item, taken))
    (hdrop : rest.drop taken = after) (hother : ∀ t more, after ≠ .plain (.char '-') :: t :: more) :
    classItems seen (s :: rest) = classItems (item :: seen) after := by
  subst hdrop
  rw [classItems, if_neg hs, hm]
  dsimp only
  split
  · next h => exact absurd h (hother _ _)
  · next h => exact absurd h (hother _ _)
  · rfl

end

/-- In a class a dollar sign stands for itself, with a backslash in front of it as without. -/
theorem classMember_ending (rest : List Sign) : classMember e.sign rest = .ok (.single 36, 0) := by
  cases e <;> rfl

theorem classItems_ending (seen : List ClassItem) :
    classItems seen [e.sign] = .error .malformed := by
  have hopen : ¬ (e.sign = .plain (.char ']') ∧ seen ≠ []) :=
    fun h => e.ne_plain (by decide) h.1.symm
  rw [classItems, if_neg hopen, classMember_ending]
  exact classItems.eq_1 _

theorem classItems_hyphen (seen : List ClassItem) :
    classItems seen [.plain (.char '-')] = .error .malformed := by
  simp [classItems, classMember]

theorem rangeFrom_ending (seen : List ClassItem) (item : ClassItem) :
    (rangeFrom item (classMember e.sign []) >>= fun p =>
      classItems (p.1 :: seen) (([] : List Sign).drop p.2)) = .error .malformed := by
  rw [classMember_ending]
  cases item with
  | single lo =>
    simp only [rangeFrom]
    split
    · rfl
    · exact classItems.eq_1 _
  | range lo hi | category kind negated => rfl

/-- What is read of a class with a dollar sign behind the signs: the same, with the dollar sign
behind what is left. -/
def withEnding (e : Ending) (p : List ClassItem × List Sign) : List ClassItem × List Sign :=
  (p.1, p.2 ++ [e.sign])

/-- In front of the dollar sign a hyphen does not stand for a range. -/
theorem classItems_append_hyphen {seen : List ClassItem} {s : Sign} {item : ClassItem} {taken : Nat}
    (hs : ¬ (s = .plain (.char ']') ∧ seen ≠ [])) (hm : classMember s rest = .ok (item, taken))
    (hm' : classMember s (rest ++ [e.sign]) = .ok (item, taken))
    (hdrop : rest.drop taken = [.plain (.char '-')])
    (hdrop' : (rest ++ [e.sign]).drop taken = [.plain (.char '-'), e.sign]) :
    classItems seen (s :: (rest ++ [e.sign])) =
      (classItems seen (s :: rest)).map (withEnding e) := by
  rw [classItems_next hs hm hdrop (by simp),
    classItems_range hs hm' hdrop' (e.ne_plain (by decide)).symm, classItems_hyphen]
  exact rangeFrom_ending seen item

theorem classItems_append_range {seen : List ClassItem} {s t : Sign} {after : List Sign}
    {item : ClassItem} {taken : Nat}
    (hs : ¬ (s = .plain (.char ']') ∧ seen ≠ [])) (hm : classMember s rest = .ok (item, taken))
    (hm' : classMember s (rest ++ [e.sign]) = .ok (item, taken))
    (hdrop : rest.drop taken = .plain (.char '-') :: t :: after)
    (hdrop' : (rest ++ [e.sign]).drop taken = .plain (.char '-') :: t :: (after ++ [e.sign]))
    (ht : t ≠ .plain (.char ']')) (hd : .dangling ∉ after)
    (hbehind : ∀ range more, classItems (range :: seen) (after.drop more ++ [e.sign]) =
      (classItems (range :: seen) (after.drop more)).map (withEnding e)) :
    classItems seen (s :: (rest ++ [e.sign])) =
      (classItems seen (s :: rest)).map (withEnding e) := by
  have hrange := steady_rangeFrom item (steady_classMember (e := e) t after)
  rw [classItems_range hs hm hdrop ht, classItems_range hs hm' hdrop' ht, hrange.same hd]
  cases hr : rangeFrom item (classMember t after) with
  | error x => rfl
  | ok p =>
    have hmore : (after ++ [e.sign]).drop p.2 = after.drop p.2 ++ [e.sign] :=
      List.drop_append_of_le_length (hrange.passes _ _ hr).length_le
    exact (congrArg (classItems (p.1 :: seen)) hmore).trans (hbehind p.1 p.2)

theorem classItems_append (seen : List ClassItem) (hd : .dangling ∉ signs) :
    classItems seen (signs ++ [e.sign]) = (classItems seen signs).map (withEnding e) := by
  induction hn : signs.length using Nat.strongRecOn generalizing seen signs with
  | ind n ih =>
    subst hn
    cases signs with
    | nil =>
      rw [classItems]
      exact classItems_ending seen
    | cons s rest =>
      have hmember := steady_classMember (e := e) s rest
      have hsame := hmember.same (List.not_mem_of_not_mem_cons hd)
      rw [List.cons_append]
      by_cases hs : s = .plain (.char ']') ∧ seen ≠ []
      · rw [classItems_close hs, classItems_close hs]
        rfl
      cases hm : classMember s rest with
      | error x =>
        rw [classItems_error hs hm, classItems_error hs (hsame.trans hm)]
        rfl
      | ok p =>
        obtain ⟨item, taken⟩ := p
        rw [hm] at hsame
        obtain ⟨after, hafter⟩ : ∃ after, rest.drop taken = after := ⟨_, rfl⟩
        have hdrop : (rest ++ [e.sign]).drop taken = after ++ [e.sign] :=
          (List.drop_append_of_le_length (hmember.passes _ _ hm).length_le).trans (hafter ▸ rfl)
        have hlength : after.length ≤ rest.length := hafter ▸ List.length_drop ▸ Nat.sub_le _ _
        have hda : .dangling ∉ after := fun h => hd (.tail _ (List.mem_of_mem_drop (hafter ▸ h)))
        by_cases hhyphen : ∃ more, after = .plain (.char '-') :: more
        · obtain ⟨more, rfl⟩ := hhyphen
          cases more with
          | nil => exact classItems_append_hyphen hs hm hsame hafter hdrop
          | cons t more =>
            by_cases ht : t = .plain (.char ']')
            · subst ht
              rw [classItems_last hs hm hafter, classItems_last hs hsame hdrop]
              rfl
            · have hdm : .dangling ∉ more := fun h => hda (.tail _ (.tail _ h))
              refine classItems_append_range hs hm hsame hafter hdrop ht hdm fun range k =>
                ih _ ?_ _ (fun h => hdm (List.mem_of_mem_drop h)) rfl
              simp only [List.length_drop, List.length_cons] at hlength ⊢
              omega
        · rw [classItems_next hs hm hafter fun t more h => hhyphen ⟨_, h⟩,
            ← ih _ (Nat.lt_succ_of_le hlength) (item :: seen) hda rfl]
          refine classItems_next hs hsame hdrop fun t more h => ?_
          cases after with
          | nil => exact e.ne_plain (by decide) (List.cons.inj h).1.symm
          | cons s after => exact hhyphen ⟨_, by rw [(List.cons.inj h).1]⟩

theorem length_sub_append (rest after : List Sign) (s : Sign) :
    (rest ++ [s]).length - (after ++ [s]).length = rest.length - after.length := by
  rw [List.length_append, List.length_append, Nat.add_sub_add_right]

theorem steady_classOf (rest : List Sign) :
    Steady rest (classOf rest) (classOf (rest ++ [e.sign])) := by
  have hread : ∀ front body negated, rest = front ++ body →
      Steady rest ((classItems [] body).map fun p =>
        (Regex.oneOf negated p.1, rest.length - p.2.length))
        ((classItems [] (body ++ [e.sign])).map fun p =>
          (Regex.oneOf negated p.1, (rest ++ [e.sign]).length - p.2.length)) := by
    intro front body negated hrest
    constructor
    · intro hd
      rw [classItems_append [] fun h => hd (hrest ▸ List.mem_append_right _ h)]
      cases classItems [] body with
      | error x => rfl
      | ok p => simp only [Except.map, withEnding, length_sub_append]
    · intro y k hy
      cases hitems : classItems [] body with
      | error x => rw [hitems] at hy; cases hy
      | ok p =>
        rw [hitems] at hy
        obtain ⟨inside, hinside⟩ := classItems_split hitems
        obtain ⟨-, rfl⟩ := Prod.mk.inj (Except.ok.inj hy)
        have hsplit : rest = (front ++ inside) ++ .plain (.char ']') :: p.2 := by
          rw [hrest, hinside, ← List.append_assoc]
        exact .upTo hsplit nofun
  cases rest with
  | nil =>
    have hnil := hread [] [] false rfl
    cases e <;> exact hnil
  | cons s more =>
    by_cases hs : s = .plain (.char '^')
    · subst hs
      exact hread [.plain (.char '^')] more true rfl
    · have hclass : ∀ more, classOf (s :: more) =
          (classItems [] (s :: more)).map fun p =>
            (Regex.oneOf false p.1, (s :: more).length - p.2.length) := by
        intro more
        simp only [classOf]
        split
        · next h => exact absurd (List.cons.inj h).1 hs
        · rfl
      rw [List.cons_append, hclass, hclass]
      exact hread [] (s :: more) false rfl

end FileTags.Pattern

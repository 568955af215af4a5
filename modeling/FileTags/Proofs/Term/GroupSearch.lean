import FileTags.Proofs.Term.GroupUnits

/-!
# The search for a closing parenthesis, character by character

The look-ahead of a group is a loop over the places of a text: it goes on by one character, by two
at a backslash, over classes and braces at once, and goes back where a class does not close. It
always ends, and never asks for a character behind the end of the text.
-/

set_option autoImplicit false

namespace FileTags.Term

open Text

/-- Where a search stands: outside of classes, or at a place behind a bracket that may begin a
class. It goes back behind the bracket if the class does not close. -/
inductive Search
  | outside (place : Nat) (depth : Int)
  | inside (bracket place : Nat) (depth : Int)
  | ended (close : Option Nat)
  deriving DecidableEq, Repr

namespace Search

def skipSign (t : Text) (c : Rune) (i : Nat) : Option Nat :=
  if i < t.length then t[i]?.map fun d => if d = c then i + 1 else i else some i

def read (t : Text) (i : Nat) (depth : Int) (c : Rune) : Option Search :=
  if c = .char '\\' then some (outside (i + 2) depth)
  else if c = .char '[' then (skipSign t (.char '^') (i + 1)).bind fun j =>
    (skipSign t (.char ']') j).map fun k => inside i k depth
  else if c = .char '\x7b'
    then some (outside (i + (((t.drop i).findIdx? (· == .char '\x7d')).getD 0 + 1)) depth)
  else if c = .char '(' then some (outside (i + 1) (depth + 1))
  else if c = .char ')'
    then some (if depth - 1 = 0 then ended (some i) else outside (i + 1) (depth - 1))
  else some (outside (i + 1) depth)

def readMember (bracket i : Nat) (depth : Int) (c : Rune) : Search :=
  if c = .char '\\' then inside bracket (i + 2) depth
  else if isBlank c then outside (bracket + 1) depth
  else if c = .char ']' then outside (i + 1) depth
  else inside bracket (i + 1) depth

/-- One step of a search. There is none if a character is asked for that the text does not have. -/
def step (t : Text) : Search → Option Search
  | outside i depth => if i < t.length then t[i]?.bind (read t i depth) else some (ended none)
  | inside bracket i depth =>
    if i < t.length then t[i]?.map (readMember bracket i depth)
    else some (outside (bracket + 1) depth)
  | ended close => some (ended close)

/-- A search comes to its end by steps that all find their characters. -/
inductive Ends (t : Text) : Search → Option Nat → Prop
  | done (close : Option Nat) : Ends t (ended close) close
  | after {s s' : Search} {close : Option Nat} (h : step t s = some s') (h' : Ends t s' close) :
      Ends t s close

variable {t v rest : Text} {c : Rune} {i bracket : Nat} {depth : Int} {close : Option Nat}
  {us : List GroupUnit} {u : GroupUnit}

/-! ## Reading a character -/

theorem at_place (h : t.drop i = c :: rest) :
    i < t.length ∧ t[i]? = some c ∧ t.drop (i + 1) = rest := by
  have hread : t[i]? = some c := by
    have hfirst : (t.drop i)[0]? = t[i + 0]? := List.getElem?_drop
    rw [← Nat.add_zero i, ← hfirst, h, List.getElem?_cons_zero]
  refine ⟨(List.getElem?_eq_some_iff.mp hread).1, hread, ?_⟩
  rw [← List.drop_drop, h, List.drop_one, List.tail_cons]

theorem step_outside (h : t.drop i = c :: rest) : step t (outside i depth) = read t i depth c := by
  obtain ⟨hlt, hread, -⟩ := at_place h
  rw [step, if_pos hlt, hread, Option.bind_some]

theorem step_inside (h : t.drop i = c :: rest) :
    step t (inside bracket i depth) = some (readMember bracket i depth c) := by
  obtain ⟨hlt, hread, -⟩ := at_place h
  rw [step, if_pos hlt, hread, Option.map_some]

theorem ends_outside_nil (h : t.drop i = []) : Ends t (outside i depth) none := by
  have hstep : step t (outside i depth) = some (ended none) := by
    rw [step, if_neg (Nat.not_lt.mpr (List.drop_eq_nil_iff.mp h))]
  exact .after hstep (.done none)

theorem Ends.inside_nil (h : t.drop i = []) (hend : Ends t (outside (bracket + 1) depth) close) :
    Ends t (inside bracket i depth) close := by
  refine .after ?_ hend
  rw [step, if_neg (Nat.not_lt.mpr (List.drop_eq_nil_iff.mp h))]

/-! ## Classes -/

def signLength (c : Rune) (v : Text) : Nat := if v.head? = some c then 1 else 0

theorem skipSign_eq (h : t.drop i = v) : skipSign t c i = some (i + signLength c v) := by
  cases v with
  | nil =>
    rw [skipSign, if_neg (Nat.not_lt.mpr (List.drop_eq_nil_iff.mp h))]
    rfl
  | cons d rest =>
    obtain ⟨hlt, hread, -⟩ := at_place h
    rw [skipSign, if_pos hlt, hread, Option.map_some, signLength, List.head?_cons]
    by_cases hd : d = c <;> simp [hd]

/-- What stands in front of the members of a class: a caret, and a closing bracket that is a member
itself. -/
def frontLength (v : Text) : Nat :=
  signLength (.char '^') v + signLength (.char ']') (v.drop (signLength (.char '^') v))

theorem classLength?_front (v : Text) :
    classLength? v = (classRest? (v.drop (frontLength v))).map (· + (frontLength v + 1)) := by
  unfold classLength?
  split
  · rfl
  · next w hw =>
    have hhead : w.head? ≠ some (.char ']') := fun hd => by
      obtain ⟨x, rfl⟩ := List.head?_eq_some_iff.mp hd
      exact hw x rfl
    simp [frontLength, signLength, hhead]
  · rfl
  · next hcaret hmember =>
    have hhead : ∀ d, (∀ w, v ≠ d :: w) → v.head? ≠ some d := fun d hd heq => by
      obtain ⟨x, hx⟩ := List.head?_eq_some_iff.mp heq
      exact hd x hx
    simp [frontLength, signLength, hhead (.char '^') hcaret, hhead (.char ']') hmember]

theorem read_bracket (h : t.drop (i + 1) = v) :
    read t i depth (.char '[') = some (inside i (i + 1 + frontLength v) depth) := by
  have hcaret : t.drop (i + 1 + signLength (.char '^') v) = v.drop (signLength (.char '^') v) := by
    rw [← List.drop_drop, h]
  rw [read, if_neg (by decide), if_pos rfl, skipSign_eq h, Option.bind_some, skipSign_eq hcaret,
    Option.map_some, frontLength,
    Nat.add_assoc]

/-- In a class the search goes on to where the class closes, or goes back. -/
theorem Ends.inside (h : t.drop i = v)
    (hend : Ends t (outside ((classRest? v).elim (bracket + 1) (i + ·)) depth) close) :
    Ends t (inside bracket i depth) close := by
  fun_induction classRest? v generalizing i with
  | case1 => exact .inside_nil h hend
  | case2 =>
    -- The backslash would escape a character that stands behind the end.
    refine .after (step_inside h) (.inside_nil ?_ hend)
    rw [← List.drop_drop, h]
    rfl
  | case3 d rest ih =>
    obtain ⟨-, -, hnext⟩ := at_place h
    obtain ⟨-, -, hrest⟩ := at_place hnext
    refine .after (step_inside h) (ih hrest ?_)
    cases hr : classRest? rest <;> simpa [hr, Nat.add_assoc, Nat.add_comm 2] using hend
  | case4 c rest h1 h2 hblank =>
    have hslash : c ≠ .char '\\' := by
      rintro rfl
      exact absurd hblank (by decide)
    refine .after (step_inside h) ?_
    rw [readMember, if_neg hslash, if_pos hblank]
    exact hend
  | case5 rest h1 h2 hblank =>
    exact .after (step_inside h) hend
  | case6 c rest h1 h2 hblank hc ih =>
    have hslash : c ≠ .char '\\' := by
      rintro rfl
      cases rest with
      | nil => exact h1 rfl rfl
      | cons d w => exact h2 d w rfl rfl
    obtain ⟨-, -, hnext⟩ := at_place h
    refine .after (step_inside h) ?_
    rw [readMember, if_neg hslash, if_neg hblank, if_neg hc]
    refine ih hnext ?_
    cases hr : classRest? rest <;> simpa [hr, Nat.add_assoc, Nat.add_comm 1] using hend

/-- At a bracket the search goes on behind the class, or behind the bracket if the class does not
close. -/
theorem Ends.behind_class (h : t.drop i = .char '[' :: v)
    (hend : Ends t (outside (i + (classLength? v).getD 1) depth) close) :
    Ends t (outside i depth) close := by
  obtain ⟨-, -, hinside⟩ := at_place h
  have hfront : t.drop (i + 1 + frontLength v) = v.drop (frontLength v) := by
    rw [← List.drop_drop, hinside]
  refine .after ((step_outside h).trans (read_bracket hinside)) (.inside hfront ?_)
  rw [classLength?_front] at hend
  cases hclass : classRest? (v.drop (frontLength v)) with
  | none => simpa [hclass] using hend
  | some n =>
    rw [hclass, Option.map_some, Option.getD_some] at hend
    rwa [Option.elim_some, show i + 1 + frontLength v + n = i + (n + (frontLength v + 1)) by omega]

/-! ## Units -/

theorem read_braces {inside : Text} (hi : .char '\x7d' ∉ inside)
    (h : t.drop i = .char '\x7b' :: (inside ++ .char '\x7d' :: rest)) :
    read t i depth (.char '\x7b') = some (outside (i + (inside.length + 2)) depth) := by
  have hbraces : .char '\x7d' ∉ .char '\x7b' :: inside := by simpa using hi
  have hfound := findIdx?_close hbraces rest
  rw [read, if_neg (by decide), if_neg (by decide), if_pos rfl, h]
  exact congrArg (fun found => some (outside (i + (found.getD 0 + 1)) depth)) hfound

/-- A sign that stands for itself takes the search on by one character. -/
theorem read_sign (hu : (GroupUnit.sign c).Leads rest) (h : t.drop i = c :: rest)
    (hslash : c ≠ .char '\\') (hbracket : c ≠ .char '[') (hnext : c = .char ')' → depth ≠ 1) :
    read t i depth c = some (outside (i + 1) (depth + (GroupUnit.sign c).rise)) := by
  rw [read, if_neg hslash, if_neg hbracket]
  by_cases hbrace : c = .char '\x7b'
  · subst hbrace
    have hnone : (t.drop i).findIdx? (· == .char '\x7d') = none := by
      rw [h]
      exact findIdx?_close_eq_none (by simpa using hu.2.2 rfl)
    rw [if_pos rfl, hnone]
    simp [GroupUnit.rise]
  rw [if_neg hbrace, GroupUnit.rise]
  by_cases hopen : c = .char '('
  · rw [if_pos hopen, if_pos hopen]
  rw [if_neg hopen, if_neg hopen]
  by_cases hclose : c = .char ')'
  · have hdepth : depth - 1 ≠ 0 := fun heq => hnext hclose (by omega)
    rw [if_pos hclose, if_pos hclose, if_neg hdepth, Int.sub_eq_add_neg]
  · rw [if_neg hclose, if_neg hclose, Int.add_zero]

/-- The search passes over a unit, unless it is the parenthesis that is looked for. A backslash at
the end of the text takes it further. -/
theorem Ends.unit (hu : u.Leads rest) (h : t.drop i = u.text ++ rest)
    (hnext : u = .sign (.char ')') → depth ≠ 1) (hback : u ≠ .sign (.char '\\'))
    (hend : Ends t (outside (i + u.text.length) (depth + u.rise)) close) :
    Ends t (outside i depth) close := by
  cases u with
  | escape c =>
    rw [GroupUnit.rise, Int.add_zero] at hend
    exact .after (step_outside h) hend
  | cls b =>
    rw [GroupUnit.rise, Int.add_zero] at hend
    exact .behind_class h (hu ▸ hend)
  | braces inside =>
    have hwhole : t.drop i = .char '\x7b' :: (inside ++ .char '\x7d' :: rest) := by
      simpa [GroupUnit.text] using h
    rw [GroupUnit.rise, Int.add_zero] at hend
    refine .after ((step_outside hwhole).trans (read_braces hu hwhole)) ?_
    simpa [GroupUnit.text] using hend
  | sign c =>
    by_cases hbracket : c = .char '['
    · subst hbracket
      have hwhole : t.drop i = .char '[' :: rest := h
      refine .behind_class hwhole ?_
      rw [hu.2.1 rfl, Option.getD_none]
      simpa [GroupUnit.rise, GroupUnit.text] using hend
    · have hread : read t i depth c = _ :=
        read_sign hu h (fun hc => hback (hc ▸ rfl)) hbracket fun hc => hnext (hc ▸ rfl)
      exact .after ((step_outside h).trans hread) hend

/-- The search ends with what the look-ahead finds. By induction on the units of what is left of the
text. -/
theorem ends_of_splits (hus : GroupUnit.Splits v us) (h : t.drop i = v) :
    Ends t (outside i depth) ((closeDistance? depth 0 v).map (· + i)) := by
  induction hus generalizing i depth with
  | nil => exact ends_outside_nil h
  | @cons u rest us hu hus ih =>
    by_cases hnext : u = .sign (.char ')') ∧ depth = 1
    · obtain ⟨rfl, rfl⟩ := hnext
      have hfound : closeDistance? 1 0 (.char ')' :: rest) = some 0 := rfl
      have hlast : read t i 1 (.char ')') = some (ended (some i)) := rfl
      rw [show (GroupUnit.sign (.char ')')).text ++ rest = .char ')' :: rest from rfl, hfound,
        Option.map_some, Nat.zero_add]
      exact .after ((step_outside h).trans hlast) (.done (some i))
    · have hpass : u = .sign (.char ')') → depth ≠ 1 := fun hu hd => hnext ⟨hu, hd⟩
      by_cases hback : u = .sign (.char '\\')
      · subst hback
        obtain rfl := hu.1 rfl
        -- Nothing is left behind the backslash, so it does not matter that the search goes on by
        -- two.
        refine .after (step_outside h) (ends_outside_nil ?_)
        rw [← List.drop_drop, h]
        rfl
      · have hrest : t.drop (i + u.text.length) = rest := by
          rw [← List.drop_drop, h, List.drop_left]
        have hsum : (· + i) ∘ (· + u.text.length) = (· + (i + u.text.length)) := by
          funext n
          simp only [Function.comp_apply]
          omega
        rw [hu.closeDistance hpass, Option.map_map, hsum]
        exact .unit hu h hpass hback (ih hrest)

theorem Ends.unique {s : Search} {close' : Option Nat} (h : Ends t s close) (h' : Ends t s close') :
    close = close' := by
  induction h with
  | done close =>
    generalize hs : ended close = s at h'
    induction h' with
    | done =>
      cases hs
      rfl
    | after hstep _ ih =>
      subst hs
      exact ih (Option.some.inj hstep)
  | after hstep _ ih =>
    cases h' with
    | done => exact ih (Option.some.inj hstep ▸ .done close')
    | after hstep' h' => exact ih (Option.some.inj (hstep'.symm.trans hstep) ▸ h')

end Search

/-- From every offset on, the search comes to an end without asking for a character behind the end
of the text, and what it ends with is what the look-ahead finds. The text from there on has its
units in one way only, and found is the first closing parenthesis among them by which as many have
closed as have opened; none is found only where no parenthesis is like this. -/
theorem groupClose?_first_level (t : Text) (offset : Nat) :
    (∀ close, Search.Ends t (.outside offset 0) close ↔ close = groupClose? t offset) ∧
      ∃ us, (∀ vs, GroupUnit.Splits (t.drop offset) vs ↔ vs = us) ∧
        (∀ n, groupClose? t offset = some n ↔
          GroupUnit.LevelAt offset us n ∧ ∀ m < n, ¬ GroupUnit.LevelAt offset us m) ∧
        (groupClose? t offset = none ↔ ∀ n, ¬ GroupUnit.LevelAt offset us n) := by
  obtain ⟨us, hus⟩ := GroupUnit.exists_splits (t.drop offset)
  have hends : Search.Ends t (.outside offset 0) (groupClose? t offset) :=
    Search.ends_of_splits hus rfl
  refine ⟨fun close => ⟨fun h => h.unique hends, ?_⟩, us, fun vs => ⟨fun hvs => hvs.unique hus, ?_⟩,
    fun n => ?_, ?_⟩
  · rintro rfl
    exact hends
  · rintro rfl
    exact hus
  · exact hus.groupClose_eq_some_iff
  · exact hus.groupClose_eq_none_iff

example : groupClose? (Text.ofString "f == ([)]\\)(b)\x7b)\x7d) AND c") 5 = some 17 := by decide

end FileTags.Term

import FileTags.Proofs.Term.Closing

/-!
# The units that a look-ahead takes

The look-ahead of a group goes over a text by units: escapes, classes, braces with what they hold,
and single signs. Every text has its units in one way only. What is found is the first closing
parenthesis among the signs by which as many parentheses have closed as have opened.
-/

set_option autoImplicit false

namespace FileTags.Term

open Text

/-- A part of a text that the look-ahead of a group takes at once. The text of a class has its
closing bracket, but not the opening one, and that of braces has neither brace. -/
inductive GroupUnit
  | escape (c : Rune)
  | cls (inside : Text)
  | braces (inside : Text)
  | sign (c : Rune)
  deriving DecidableEq, Repr

namespace GroupUnit

def text : GroupUnit → Text
  | escape c => [.char '\\', c]
  | cls inside => .char '[' :: inside
  | braces inside => .char '\x7b' :: (inside ++ [.char '\x7d'])
  | sign c => [c]

def rise : GroupUnit → Int
  | sign c => if c = .char '(' then 1 else if c = .char ')' then -1 else 0
  | escape _ | cls _ | braces _ => 0

/-- Whether a unit is the first one of its text and the rest. Braces hold the text up to the first
one that closes, and a sign stands for itself only where no other unit begins. -/
def Leads : GroupUnit → Text → Prop
  | escape _, _ => True
  | cls inside, rest => classLength? (inside ++ rest) = some (inside.length + 1)
  | braces inside, _ => .char '\x7d' ∉ inside
  | sign c, rest => (c = .char '\\' → rest = []) ∧ (c = .char '[' → classLength? rest = none) ∧
      (c = .char '\x7b' → .char '\x7d' ∉ rest)

variable {u v : GroupUnit} {us vs ws : List GroupUnit} {t rest rest' : Text} {depth : Int}
  {c : Rune} {n : Nat}

/-! ## One way to split a text -/

theorem Leads.eq_sign (hs : (sign c).Leads rest) (hv : v.Leads rest')
    (h : c :: rest = v.text ++ rest') :
    v = sign c ∧ rest' = rest := by
  obtain ⟨hescape, hclass, hbraces⟩ := hs
  cases v with
  | escape d =>
    obtain ⟨rfl, rfl⟩ := List.cons_eq_cons.mp h
    exact nomatch hescape rfl
  | cls b =>
    obtain ⟨rfl, rfl⟩ := List.cons_eq_cons.mp h
    exact nomatch (hclass rfl).symm.trans hv
  | braces inside =>
    obtain ⟨rfl, rfl⟩ := List.cons_eq_cons.mp h
    exact absurd (by simp) (hbraces rfl)
  | sign d =>
    obtain ⟨rfl, rfl⟩ := List.cons_eq_cons.mp h
    exact ⟨rfl, rfl⟩

theorem braces_unique {inside inside' : Text} (hi : .char '\x7d' ∉ inside)
    (hi' : .char '\x7d' ∉ inside')
    (h : inside ++ .char '\x7d' :: rest = inside' ++ .char '\x7d' :: rest') :
    inside = inside' ∧ rest = rest' := by
  have hlength : inside.length = inside'.length := by
    have hfound := findIdx?_close hi rest
    rw [h, findIdx?_close hi' rest'] at hfound
    exact (Option.some.inj hfound).symm
  obtain ⟨hinside, hrest⟩ := List.append_inj h hlength
  exact ⟨hinside, (List.cons.inj hrest).2⟩

theorem Leads.unique (hu : u.Leads rest) (hv : v.Leads rest')
    (h : u.text ++ rest = v.text ++ rest') : u = v ∧ rest = rest' := by
  cases u with
  | sign c =>
    obtain ⟨hsign, hrest⟩ := hu.eq_sign hv h
    exact ⟨hsign.symm, hrest.symm⟩
  | escape c =>
    cases v with
    | sign d => exact hv.eq_sign hu h.symm
    | escape d => simpa [text] using h
    | cls | braces => simp [text] at h
  | cls b =>
    cases v with
    | sign d => exact hv.eq_sign hu h.symm
    | cls b' =>
      have hwhole : b ++ rest = b' ++ rest' := (List.cons.inj h).2
      have hlength : some (b.length + 1) = some (b'.length + 1) := by rw [← hu, hwhole, hv]
      obtain ⟨hb, hrest⟩ := List.append_inj hwhole (Nat.succ.inj (Option.some.inj hlength))
      exact ⟨congrArg cls hb, hrest⟩
    | escape | braces => simp [text] at h
  | braces inside =>
    cases v with
    | sign d => exact hv.eq_sign hu h.symm
    | braces inside' =>
      obtain ⟨hinside, hrest⟩ := braces_unique hu hv (by simpa [text] using h)
      exact ⟨congrArg braces hinside, hrest⟩
    | escape | cls => simp [text] at h

theorem exists_leads (c : Rune) (t : Text) :
    ∃ (u : GroupUnit) (rest : Text), c :: t = u.text ++ rest ∧ u.Leads rest := by
  by_cases hsign : (sign c).Leads t
  · exact ⟨sign c, t, rfl, hsign⟩
  · simp only [Leads, Classical.not_and_iff_not_or_not, Classical.not_imp] at hsign
    rcases hsign with ⟨rfl, ht⟩ | ⟨rfl, ht⟩ | ⟨rfl, ht⟩
    · obtain ⟨d, rest, rfl⟩ := List.exists_cons_of_ne_nil ht
      exact ⟨escape d, rest, rfl, trivial⟩
    · obtain ⟨n, hn⟩ := Option.ne_none_iff_exists'.mp ht
      obtain ⟨b, rest, rfl, rfl, -⟩ := classLength?_exact hn
      exact ⟨cls b, rest, rfl, hn⟩
    · obtain ⟨inside, rest, rfl, hi⟩ := List.eq_append_cons_of_mem (Classical.not_not.mp ht)
      exact ⟨braces inside, rest, by simp [text], hi⟩

inductive Splits : Text → List GroupUnit → Prop
  | nil : Splits [] []
  | cons {u : GroupUnit} {rest : Text} {us : List GroupUnit} (hu : u.Leads rest)
      (h : Splits rest us) : Splits (u.text ++ rest) (u :: us)

theorem text_ne_nil (u : GroupUnit) : u.text ≠ [] := by
  cases u <;> simp [text]

theorem Splits.unique (hu : Splits t us) (hv : Splits t vs) : us = vs := by
  induction hu generalizing vs with
  | nil =>
    generalize ht : ([] : Text) = t at hv
    cases hv with
    | nil => rfl
    | @cons v => exact absurd (List.append_eq_nil_iff.mp ht.symm).1 v.text_ne_nil
  | @cons u rest us hu _ ih =>
    generalize ht : u.text ++ rest = t at hv
    cases hv with
    | nil => exact absurd (List.append_eq_nil_iff.mp ht).1 u.text_ne_nil
    | cons hv h =>
      obtain ⟨rfl, rfl⟩ := hu.unique hv ht
      rw [ih h]

/-- By induction on the length, since each unit takes something of the text. -/
theorem exists_splits (t : Text) : ∃ us, Splits t us := by
  induction hn : t.length using Nat.strongRecOn generalizing t with
  | ind n ih =>
    cases t with
    | nil => exact ⟨[], .nil⟩
    | cons c t =>
      obtain ⟨u, rest, hsplit, hu⟩ := exists_leads c t
      have hlength : rest.length < n := by
        have := List.length_pos_iff.mpr u.text_ne_nil
        rw [← hn, hsplit, List.length_append]
        omega
      obtain ⟨us, hus⟩ := ih rest.length hlength rest rfl
      exact ⟨u :: us, hsplit ▸ .cons hu hus⟩

/-! ## The look-ahead by units -/

theorem Leads.closeDistance_sign (h : (sign c).Leads rest) (hopen : c ≠ .char '(')
    (hclose : c ≠ .char ')') :
    closeDistance? depth 0 (c :: rest) = (closeDistance? depth 0 rest).map (· + 1) := by
  obtain ⟨hescape, hclass, hbraces⟩ := h
  rw [closeDistance?]
  by_cases hslash : c = .char '\\'
  · rw [if_pos hslash, hescape hslash]
    rfl
  rw [if_neg hslash]
  by_cases hbracket : c = .char '['
  · rw [if_pos hbracket, hclass hbracket, Option.getD_none]
  rw [if_neg hbracket]
  by_cases hbrace : c = .char '\x7b'
  · rw [if_pos hbrace, findIdx?_close_eq_none (hbraces hbrace), Option.map_none, Option.getD_none]
  · rw [if_neg hbrace, if_neg hopen, if_neg hclose]

/-- The look-ahead passes over a unit at once, unless it is the parenthesis that is looked for. -/
theorem Leads.closeDistance (hu : u.Leads rest) (hnext : u = sign (.char ')') → depth ≠ 1) :
    closeDistance? depth 0 (u.text ++ rest) =
      (closeDistance? (depth + u.rise) 0 rest).map (· + u.text.length) := by
  cases u with
  | escape c =>
    rw [rise, Int.add_zero]
    exact closeDistance?_escape depth c rest
  | cls b =>
    obtain ⟨b', rest', hwhole, hlength, hb⟩ := classLength?_exact hu
    obtain ⟨rfl, rfl⟩ := List.append_inj hwhole (by omega)
    rw [rise, Int.add_zero]
    exact closeDistance?_class hb depth rest
  | braces inside =>
    rw [rise, Int.add_zero]
    simpa [text] using closeDistance?_braces hu depth rest
  | sign c =>
    by_cases hopen : c = .char '('
    · subst hopen
      exact closeDistance?_opening depth rest
    · by_cases hclose : c = .char ')'
      · subst hclose
        exact closeDistance?_closing (hnext rfl) rest
      · rw [rise, if_neg hopen, if_neg hclose, Int.add_zero]
        exact hu.closeDistance_sign hopen hclose

def written (us : List GroupUnit) : Text := us.flatMap text

theorem length_written_cons (u : GroupUnit) (us : List GroupUnit) :
    (written (u :: us)).length = (written us).length + u.text.length := by
  rw [written, List.flatMap_cons, List.length_append, Nat.add_comm, written]

def height : List GroupUnit → Int
  | [] => 0
  | u :: us => u.rise + height us

/-- At a distance, a closing parenthesis leads down to no depth from the one that the text begins
with. -/
def Closes (depth : Int) (us : List GroupUnit) (n : Nat) : Prop :=
  ∃ vs ws, us = vs ++ sign (.char ')') :: ws ∧ n = (written vs).length ∧ depth + height vs = 1

theorem closes_cons : Closes depth (u :: us) n ↔
    u = sign (.char ')') ∧ depth = 1 ∧ n = 0 ∨ ∃ m, n = m + u.text.length ∧
    Closes (depth + u.rise) us m := by
  constructor
  · rintro ⟨vs, ws, hsplit, hn, hdepth⟩
    rcases List.cons_eq_append_iff.mp hsplit with ⟨rfl, hws⟩ | ⟨vs, rfl, hus⟩
    · exact .inl ⟨(List.cons.inj hws).1.symm, by simpa [height] using hdepth, hn⟩
    · rw [height, ← Int.add_assoc] at hdepth
      exact .inr ⟨(written vs).length, hn.trans (length_written_cons u vs), vs, ws, hus,
        rfl, hdepth⟩
  · rintro (⟨rfl, rfl, rfl⟩ | ⟨m, rfl, vs, ws, rfl, rfl, hdepth⟩)
    · exact ⟨[], us, rfl, rfl, rfl⟩
    · rw [Int.add_assoc] at hdepth
      exact ⟨u :: vs, ws, rfl, (length_written_cons u vs).symm, hdepth⟩

theorem Splits.closeDistance_eq_some_iff (h : Splits t us) :
    closeDistance? depth 0 t = some n ↔ Closes depth us n ∧ ∀ m < n, ¬ Closes depth us m := by
  induction h generalizing depth n with
  | nil => simp [closeDistance?, Closes]
  | @cons u rest us hu h ih =>
    by_cases hnext : u = sign (.char ')') ∧ depth = 1
    · obtain ⟨rfl, rfl⟩ := hnext
      have hhere : Closes 1 (sign (.char ')') :: us) 0 := closes_cons.mpr (.inl ⟨rfl, rfl, rfl⟩)
      have hfound : closeDistance? 1 0 ((sign (.char ')')).text ++ rest) = some 0 := rfl
      rw [hfound, Option.some.injEq]
      constructor
      · rintro rfl
        exact ⟨hhere, by simp⟩
      · rintro ⟨-, hfirst⟩
        exact (Nat.eq_zero_of_not_pos fun hpos => hfirst 0 hpos hhere).symm
    · have hcloses : ∀ m, Closes depth (u :: us) m ↔
          ∃ k, m = k + u.text.length ∧ Closes (depth + u.rise) us k := fun m => by
        rw [closes_cons, or_iff_right fun hhere => hnext ⟨hhere.1, hhere.2.1⟩]
      rw [hu.closeDistance fun heq hd => hnext ⟨heq, hd⟩, Option.map_eq_some_iff]
      simp only [ih, hcloses]
      constructor
      · rintro ⟨m, ⟨hm, hfirst⟩, rfl⟩
        refine ⟨⟨m, rfl, hm⟩, ?_⟩
        rintro _ hlt ⟨k, rfl, hk⟩
        exact hfirst k (Nat.lt_of_add_lt_add_right hlt) hk
      · rintro ⟨⟨m, rfl, hm⟩, hfirst⟩
        exact ⟨m, ⟨hm, fun k hlt hk => hfirst _ (Nat.add_lt_add_right hlt _) ⟨k, rfl, hk⟩⟩, rfl⟩

def Level (us : List GroupUnit) : Prop := us.count (sign (.char '(')) = us.count (sign (.char ')'))

theorem height_eq_count (us : List GroupUnit) :
    height us = us.count (sign (.char '(')) - us.count (sign (.char ')')) := by
  induction us with
  | nil => rfl
  | cons u us ih =>
    rw [height, ih]
    by_cases hopen : u = sign (.char '(')
    · subst hopen
      simp [rise]
      omega
    · by_cases hclose : u = sign (.char ')')
      · subst hclose
        simp [rise]
        omega
      · have hrise : u.rise = 0 := by
          cases u with
          | sign c => simp_all [rise]
          | escape | cls | braces => rfl
        simp [hrise, hopen, hclose]

/-- In a text that begins at an offset, a closing parenthesis stands at a place and makes the
parentheses up to there level. -/
def LevelAt (offset : Nat) (us : List GroupUnit) (place : Nat) : Prop :=
  ∃ vs ws, us = vs ++ sign (.char ')') :: ws ∧ place = offset + (written vs).length ∧
    Level (vs ++ [sign (.char ')')])

theorem levelAt_iff {offset place : Nat} :
    LevelAt offset us place ↔ ∃ n, place = offset + n ∧ Closes 0 us n := by
  have hlevel : ∀ vs, Level (vs ++ [sign (.char ')')]) ↔ 0 + height vs = 1 := by
    intro vs
    rw [height_eq_count, Level]
    simp
    omega
  constructor
  · rintro ⟨vs, ws, hus, hplace, hvs⟩
    exact ⟨_, hplace, vs, ws, hus, rfl, (hlevel vs).mp hvs⟩
  · rintro ⟨_, hplace, vs, ws, hus, rfl, hvs⟩
    exact ⟨vs, ws, hus, hplace, (hlevel vs).mpr hvs⟩

variable {offset : Nat}

theorem Splits.groupClose_eq_some_iff (h : Splits (t.drop offset) us) :
    groupClose? t offset = some n ↔ LevelAt offset us n ∧ ∀ m < n, ¬ LevelAt offset us m := by
  simp only [groupClose?, Option.map_eq_some_iff, h.closeDistance_eq_some_iff, levelAt_iff]
  constructor
  · rintro ⟨k, ⟨hk, hfirst⟩, rfl⟩
    refine ⟨⟨k, Nat.add_comm k offset, hk⟩, ?_⟩
    rintro _ hlt ⟨m, rfl, hm⟩
    exact hfirst m (by omega) hm
  · rintro ⟨⟨k, rfl, hk⟩, hfirst⟩
    exact ⟨k, ⟨hk, fun m hlt hm => hfirst (offset + m) (by omega) ⟨m, rfl, hm⟩⟩,
      Nat.add_comm k offset⟩

/-- Where some parenthesis makes the ones up to it level, a first one does. -/
theorem Splits.groupClose_eq_none_iff (h : Splits (t.drop offset) us) :
    groupClose? t offset = none ↔ ∀ n, ¬ LevelAt offset us n := by
  constructor
  · intro hnone n hn
    induction n using Nat.strongRecOn with
    | ind n ih =>
      have hfound := h.groupClose_eq_some_iff.mpr ⟨hn, ih⟩
      rw [hnone] at hfound
      cases hfound
  · intro hnot
    rw [Option.eq_none_iff_forall_not_mem]
    exact fun n hn => hnot n (h.groupClose_eq_some_iff.mp hn).1

end GroupUnit

end FileTags.Term

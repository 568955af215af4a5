import FileTags.Proofs.Term.Lookahead

/-!
# The units of a pattern, one by one

A pattern is a row of escapes, classes and plain signs, in one way only. Outside of escapes and
classes its parentheses balance, no blank stands in it and no connective, and no comparison at depth
zero. It is read again in full when it is anchored and put anywhere where a pattern may end.
-/

set_option autoImplicit false

namespace FileTags.Term

open Text

/-- A part of a pattern that the lexer takes at once. The text of a class has its closing bracket,
but not the opening one. -/
inductive PatternUnit
  | escape (c : Rune)
  | cls (inside : Text)
  | sign (c : Rune)
  deriving DecidableEq, Repr

namespace PatternUnit

def rise : PatternUnit → Int
  | sign c => if c = .char '(' then 1 else if c = .char ')' then -1 else 0
  | _ => 0

def depth : List PatternUnit → Int
  | [] => 0
  | u :: us => u.rise + depth us

@[simp] theorem depth_nil : depth [] = 0 := rfl

@[simp] theorem depth_cons (u : PatternUnit) (us : List PatternUnit) :
    depth (u :: us) = u.rise + depth us := rfl

def leadingSigns : List PatternUnit → Text
  | sign c :: us => c :: leadingSigns us
  | _ => []

end PatternUnit

open PatternUnit

inductive Units : Text → List PatternUnit → Prop
  | nil : Units [] []
  | escape {c : Rune} {t : Text} {us : List PatternUnit} (h : Units t us) :
      Units (.char '\\' :: c :: t) (.escape c :: us)
  | cls {b t : Text} {us : List PatternUnit} (hb : IsClassRest b) (h : Units t us) :
      Units (.char '[' :: (b ++ t)) (.cls b :: us)
  | sign {c : Rune} {t : Text} {us : List PatternUnit} (hc : c ∉ [.char '\\', .char '['])
      (h : Units t us) : Units (c :: t) (.sign c :: us)

variable {t x : Text} {us vs : List PatternUnit} {u : PatternUnit} {k : Nat}

/-- A class ends where the lexer says, so that a text begins with one class at most. -/
theorem IsClassRest.unique {b b' t t' : Text} (hb : IsClassRest b) (hb' : IsClassRest b')
    (h : b ++ t = b' ++ t') :
    b = b' ∧ t = t' := by
  have hlength : b.length + 1 = b'.length + 1 := by
    have hwhole := hb t
    rw [h, hb' t'] at hwhole
    exact (Option.some.inj hwhole).symm
  exact List.append_inj h (Nat.succ.inj hlength)

theorem Units.unique (hu : Units t us) (hv : Units t vs) : us = vs := by
  induction hu generalizing vs with
  | nil =>
    cases hv
    rfl
  | escape _ ih =>
    cases hv with
    | escape hv => rw [ih hv]
    | sign hc => simp at hc
  | @cls b t us hb _ ih =>
    generalize hwhole : .char '[' :: (b ++ t) = whole at hv
    cases hv with
    | nil => cases hwhole
    | escape => simp at hwhole
    | cls hb' hv =>
      obtain ⟨rfl, rfl⟩ := hb.unique hb' (List.cons.inj hwhole).2
      rw [ih hv]
    | sign hc =>
      obtain ⟨rfl, -⟩ := List.cons.inj hwhole
      simp at hc
  | sign hc _ ih =>
    cases hv with
    | escape => simp at hc
    | cls => simp at hc
    | sign _ hv => rw [ih hv]

theorem Units.leadingSigns_prefix (h : Units t us) : leadingSigns us <+: t := by
  induction h with
  | nil => exact List.nil_prefix
  | escape => exact List.nil_prefix
  | cls => exact List.nil_prefix
  | @sign c t us _ _ ih => exact (List.prefix_cons_inj c).mpr ih

/-! ## Balance -/

def connectives : List Text := [[.char '&', .char '&'], [.char '|', .char '|']]

def comparisons : List Text :=
  [[.char '=', .char '='], [.char '!', .char '='], [.char '<'], [.char '>']]

/-- What holds outside of the escapes and classes of a text that leads from a depth of open
parentheses down to none. -/
structure Balances (start : Nat) (us : List PatternUnit) : Prop where
  ends : start + depth us = 0
  stays : ∀ vs ws, us = vs ++ ws → 0 ≤ start + depth vs
  noBlank : ∀ c, .sign c ∈ us → isBlank c = false
  noConnective : ∀ vs ws, us = vs ++ ws → ∀ s ∈ connectives, ¬ s <+: leadingSigns ws
  noComparison : ∀ vs ws, us = vs ++ ws → start + depth vs = 0 →
    ∀ s ∈ comparisons, ¬ s <+: leadingSigns ws

theorem ne_nil_of_symbol {s : Text} (h : s ∈ connectives ∨ s ∈ comparisons) : s ≠ [] := by
  rintro rfl
  revert h
  decide

theorem Balances.nil : Balances 0 [] where
  ends := rfl
  stays := by
    intro vs ws h
    simp [(List.append_eq_nil_iff.mp h.symm).1]
  noBlank := by simp
  noConnective := by
    intro vs ws h s hs hp
    obtain rfl := (List.append_eq_nil_iff.mp h.symm).2
    exact ne_nil_of_symbol (.inl hs) (List.prefix_nil.mp hp)
  noComparison := by
    intro vs ws h _ s hs hp
    obtain rfl := (List.append_eq_nil_iff.mp h.symm).2
    exact ne_nil_of_symbol (.inr hs) (List.prefix_nil.mp hp)

/-- One unit more in front. Only the row as a whole is new to look at. -/
theorem Balances.cons {k' : Nat} (h : Balances k' us) (hrise : (k' : Int) = k + u.rise)
    (hblank : ∀ c, u = .sign c → isBlank c = false)
    (hconnective : ∀ s ∈ connectives, ¬ s <+: leadingSigns (u :: us))
    (hcomparison : k = 0 → ∀ s ∈ comparisons, ¬ s <+: leadingSigns (u :: us)) :
    Balances k (u :: us) where
  ends := by
    have := h.ends
    rw [depth_cons]
    omega
  stays := by
    intro vs ws hsplit
    rcases List.cons_eq_append_iff.mp hsplit with ⟨rfl, -⟩ | ⟨vs, rfl, htail⟩
    · simp
    · have := h.stays vs ws htail
      rw [depth_cons]
      omega
  noBlank := by
    intro c hc
    rcases List.mem_cons.mp hc with hc | hc
    · exact hblank c hc.symm
    · exact h.noBlank c hc
  noConnective := by
    intro vs ws hsplit
    rcases List.cons_eq_append_iff.mp hsplit with ⟨-, rfl⟩ | ⟨vs, -, htail⟩
    · exact hconnective
    · exact h.noConnective vs ws htail
  noComparison := by
    intro vs ws hsplit hdepth
    rcases List.cons_eq_append_iff.mp hsplit with ⟨rfl, rfl⟩ | ⟨vs, rfl, htail⟩
    · exact hcomparison (by simpa using hdepth)
    · rw [depth_cons] at hdepth
      exact h.noComparison vs ws htail (by omega)

/-- An escape or a class is no symbol, and symbols do not go on over it. -/
theorem Balances.cons_closed (h : Balances k us) (hrise : u.rise = 0)
    (hsign : leadingSigns (u :: us) = []) (hblank : ∀ c, u ≠ .sign c) : Balances k (u :: us) := by
  refine h.cons (by omega) (fun c hc => absurd hc (hblank c)) ?_ ?_
  · intro s hs hp
    rw [hsign] at hp
    exact ne_nil_of_symbol (.inl hs) (List.prefix_nil.mp hp)
  · intro _ s hs hp
    rw [hsign] at hp
    exact ne_nil_of_symbol (.inr hs) (List.prefix_nil.mp hp)

theorem not_prefix_of_startsConnective (h : startsConnective t = false) :
    ∀ s ∈ connectives, ¬ s <+: t := by
  intro s hs hp
  rw [← startsWith_iff] at hp
  simp only [startsConnective, Bool.or_eq_false_iff] at h
  simp only [connectives, List.mem_cons, List.not_mem_nil, or_false] at hs
  rcases hs with rfl | rfl <;> simp_all

theorem not_prefix_of_startsOperator (h : startsOperator t = false) :
    ∀ s ∈ comparisons, ¬ s <+: t := by
  intro s hs hp
  rw [← startsWith_iff] at hp
  simp only [startsOperator, Bool.or_eq_false_iff] at h
  simp only [comparisons, List.mem_cons, List.not_mem_nil, or_false] at hs
  rcases hs with rfl | rfl | rfl | rfl <;> simp_all

theorem Balances.cons_sign {c : Rune} {k' : Nat} (h : Balances k' us) (hu : Units t us)
    (hrise : (k' : Int) = k + rise (.sign c))
    (hblank : isBlank c = false) (hconnective : startsConnective (c :: t) = false)
    (hoperator : k = 0 → startsOperator (c :: t) = false) : Balances k (.sign c :: us) := by
  have hahead : leadingSigns (.sign c :: us) <+: c :: t :=
    (List.prefix_cons_inj c).mpr hu.leadingSigns_prefix
  refine h.cons hrise ?_ ?_ ?_
  · intro d hd
    obtain rfl := PatternUnit.sign.inj hd
    exact hblank
  · exact fun s hs hp => not_prefix_of_startsConnective hconnective s hs (hp.trans hahead)
  · exact fun hk s hs hp => not_prefix_of_startsOperator (hoperator hk) s hs (hp.trans hahead)

theorem Run.units (h : Run k t) : ∃ us, Units t us ∧ Balances k us := by
  induction h with
  | nil => exact ⟨[], .nil, .nil⟩
  | @escape k c t _ ih =>
    obtain ⟨us, hu, hb⟩ := ih
    exact ⟨.escape c :: us, .escape hu, hb.cons_closed rfl rfl (by simp)⟩
  | @cls k b t hcls _ ih =>
    obtain ⟨us, hu, hb⟩ := ih
    exact ⟨.cls b :: us, .cls hcls hu, hb.cons_closed rfl rfl (by simp)⟩
  | @opening k t _ ih =>
    obtain ⟨us, hu, hb⟩ := ih
    refine ⟨.sign (.char '(') :: us, .sign (by decide) hu,
      hb.cons_sign hu (by simp [rise]) (by decide) ?_ fun _ => ?_⟩
    · simp [startsConnective, startsWith]
    · simp [startsOperator, startsConnective, startsWith]
  | @closing k t _ ih =>
    obtain ⟨us, hu, hb⟩ := ih
    have hrise : rise (.sign (.char ')')) = -1 := by decide
    refine ⟨.sign (.char ')') :: us, .sign (by decide) hu,
      hb.cons_sign hu (by omega) (by decide) ?_ fun _ => ?_⟩
    · simp [startsConnective, startsWith]
    · simp [startsOperator, startsConnective, startsWith]
  | @plain k c t hc hblank hconnective hoperator _ ih =>
    obtain ⟨us, hu, hb⟩ := ih
    simp only [special, List.mem_cons, List.not_mem_nil, or_false, not_or] at hc
    obtain ⟨h1, h2, h3, h4⟩ := hc
    exact ⟨.sign c :: us, .sign (by simp [h1, h2]) hu,
      hb.cons_sign hu (by simp [rise, h3, h4]) hblank hconnective hoperator⟩

/-! ## Patterns in a text -/

def patternAt? (t : Text) (offset : Nat) : Option Text :=
  (patternLength? (t.drop offset)).map (t.drop offset).take

theorem patternAt?_append {before rest : Text} (h : patternLength? (x ++ rest) = some x.length) :
    patternAt? (before ++ (x ++ rest)) before.length = some x := by
  rw [patternAt?, List.drop_left, h, Option.map_some, List.take_left]

/-- A pattern that the lexer finds, wherever it is found, is found again as a whole between its
anchors, whatever stands in front of it and whatever that may follow a pattern behind it. It is no
keyword, and the units it is made of balance. -/
theorem patternAt?_anchored {offset : Nat} (h : patternAt? t offset = some x) :
    (∀ before after, Stops after →
      patternAt? (before ++ (anchored x ++ after)) before.length = some (anchored x)) ∧
      x ≠ [] ∧ x ∉ keywords ∧ ∃ us, (∀ vs, Units x vs ↔ vs = us) ∧ Balances 0 us := by
  obtain ⟨n, hn, hx⟩ := Option.map_eq_some_iff.mp h
  obtain ⟨y, rest, hsplit, rfl, hbefore, hne, hkeyword⟩ := patternLength?_split hn
  rw [hsplit, List.take_left] at hx
  subst hx
  have hpattern : IsPattern y := isPattern_iff.mpr ⟨hbefore.run, hne, hkeyword⟩
  obtain ⟨us, hunits, hbalance⟩ := hbefore.run.units
  refine ⟨fun before after hafter => ?_, hne, hkeyword, us,
    fun vs => ⟨fun hvs => (hunits.unique hvs).symm, ?_⟩, hbalance⟩
  · exact patternAt?_append (hpattern.anchored.append hafter)
  · rintro rfl
    exact hunits

theorem patternAt?_anchored_class :
    patternAt? (Text.ofString "year == a(b|[)&]\\)c)&& z") 8 =
      some (Text.ofString "a(b|[)&]\\)c)") ∧
      patternAt? (Text.ofString "NOT (^a(b|[)&]\\)c)$) OR z") 5 =
        some (Text.ofString "^a(b|[)&]\\)c)$") ∧
      Text.ofString "a(b|[)&]\\)c)" ≠ [] ∧ Text.ofString "a(b|[)&]\\)c)" ∉ keywords ∧
      ∃ us, (∀ vs, Units (Text.ofString "a(b|[)&]\\)c)") vs ↔ vs = us) ∧ Balances 0 us := by
  have hfound : patternAt? (Text.ofString "year == a(b|[)&]\\)c)&& z") 8 =
      some (Text.ofString "a(b|[)&]\\)c)") := by decide
  obtain ⟨hagain, hrest⟩ := patternAt?_anchored hfound
  exact ⟨hfound,
    hagain (Text.ofString "NOT (") (Text.ofString ") OR z") (by simp [Stops, ofString]), hrest⟩

end FileTags.Term

import FileTags.Proofs.Text.Gap
import FileTags.Proofs.Text.Strip
import FileTags.TagMap.Codec

/-!
# What a tag list is

A tag list is cut at its commas, and every piece is a name, or a name and a value with an equals
sign between them. Gaps around names and values do not count, but no other blank may stand at their
ends. The reader takes words one after the other and looks no further than the next separator; it
accepts exactly the texts all of whose pieces are of this kind, and gives one entry for each.
-/

set_option autoImplicit false

namespace FileTags

open Text

def BareEnds (t : Text) : Prop :=
  (∀ c ∈ t.head?, isBlank c = false) ∧ ∀ c ∈ t.getLast?, isBlank c = false

namespace TagList

/-- What stands in front of the first equals sign of a piece, or all of it, without the gaps
around. -/
def pieceName (piece : Text) : Text := stripOf isGap (piece.takeWhile (· != .char '='))

/-- What stands behind the first equals sign of a piece, if it has one, without the gaps around. -/
def pieceValue? (piece : Text) : Option Text :=
  match piece.dropWhile (· != .char '=') with
  | [] => none
  | _ :: behind => some (stripOf isGap behind)

structure IsPiece (piece : Text) : Prop where
  signs : piece.count (.char '=') ≤ 1
  name_ne_nil : pieceName piece ≠ []
  name_ends : BareEnds (pieceName piece)
  value_ends : ∀ value ∈ pieceValue? piece, BareEnds value

/-- The entries of pieces that follow each other from an offset on, with a comma between each two of
them. -/
def entriesOf : Nat → List Text → List TagEntry
  | _, [] => []
  | offset, piece :: pieces =>
    ⟨pieceName piece, pieceValue? piece, offset + (piece.takeWhile isGap).length⟩ ::
      entriesOf (offset + piece.length + 1) pieces

end TagList

/-! ## Words -/

namespace TagEntry

variable {t u m tail trail : Text}

/-- Where a word has to end: at the end of the text or in front of a separator. -/
def AtSeparator (tail : Text) : Prop := ∀ c ∈ tail.head?, isSeparator c = true

def AtComma (tail : Text) : Prop := ∀ c ∈ tail.head?, c = .char ','

theorem AtComma.atSeparator (h : AtComma tail) : AtSeparator tail :=
  fun c hc => by simp [isSeparator, h c hc]

theorem isBlank_of_isSeparator {c : Rune} (h : isSeparator c = true) : isBlank c = false := by
  simp only [isSeparator, Bool.or_eq_true, beq_iff_eq] at h
  rcases h with rfl | rfl <;> decide

theorem isGap_of_not_isBlank {c : Rune} (h : isBlank c = false) : isGap c = false := by
  rw [Bool.eq_false_iff] at h ⊢
  exact fun hg => h (isBlank_of_isGap hg)

theorem atSeparator_sign (behind : Text) : AtSeparator (.char '=' :: behind) := by
  intro c hc
  obtain rfl : .char '=' = c := by simpa using hc
  rfl

theorem AtSeparator.skipGap (h : AtSeparator tail) : skipGap tail = tail := by
  cases tail with
  | nil => rfl
  | cons c tail =>
    exact skipGap_eq_self (isGap_of_not_isBlank (isBlank_of_isSeparator (h c rfl))) tail

theorem takeWhile_not_separator (hm : ∀ c ∈ m, isSeparator c = false) (ht : AtSeparator tail) :
    (m ++ tail).takeWhile (fun d => !isSeparator d) = m := by
  rw [List.takeWhile_append_of_pos fun c hc => by simp [hm c hc]]
  cases tail with
  | nil => simp
  | cons c tail => simp [ht c rfl]

theorem word_eq_nil {c : Rune} (h : isBlank c = true) (t : Text) : word (c :: t) = [] := by
    simp [word, h]

theorem word_of_atSeparator (h : AtSeparator tail) : word tail = [] := by
  cases tail with
  | nil => rfl
  | cons c tail =>
    have hc := h c rfl
    simp only [word, isBlank_of_isSeparator hc, List.takeWhile_cons, hc, dropTrailing]
    rfl

theorem word_append {c : Rune} (hc : isBlank c = false) (hm : ∀ d ∈ c :: m, isSeparator d = false)
    (ht : AtSeparator tail) :
    word (c :: m ++ tail) = dropTrailing isBlank (c :: m) := by
  have htake := takeWhile_not_separator hm ht
  rw [List.cons_append] at htake ⊢
  rw [word, hc, if_neg (by simp), htake]

/-- A word that no blank but those of gaps surrounds is taken in full. -/
theorem word_of_bareEnds (hm : ∀ c ∈ m, isSeparator c = false) (ht : AtSeparator tail)
    (hs : BareEnds (stripOf isGap m)) :
    word (skipGap (m ++ tail)) = stripOf isGap m ∧
      skipGap ((skipGap (m ++ tail)).drop (stripOf isGap m).length) = tail := by
  obtain ⟨lead, trail, hsplit, hlead, htrail, hhead, -⟩ := exists_stripOf isGap m
  generalize stripOf isGap m = s at *
  subst hsplit
  have hend : skipGap (trail ++ tail) = tail := by rw [skipGap_append htrail, ht.skipGap]
  rw [List.append_assoc, skipGap_append hlead, List.append_assoc]
  cases s with
  | nil => simp only [List.nil_append, hend, word_of_atSeparator ht, List.length_nil,
    List.drop_zero, ht.skipGap, and_self]
  | cons c s =>
    rw [List.cons_append, skipGap_eq_self (hhead c rfl), ← List.cons_append, List.drop_left,
      ← List.append_assoc]
    refine ⟨?_, hend⟩
    rw [List.cons_append, word_append (hs.1 c rfl) (fun d hd => hm d (by simp_all)) ht,
      ← List.cons_append]
    exact dropTrailing_append hs.2 fun d hd => isBlank_of_isGap (htrail d hd)

theorem word_of_not_bareEnds (hm : ∀ c ∈ m, isSeparator c = false) (ht : AtSeparator tail)
    (hs : ¬ BareEnds (stripOf isGap m)) :
    ∃ c u, skipGap ((skipGap (m ++ tail)).drop (word (skipGap (m ++ tail))).length) = c :: u ∧
    isBlank c = true := by
  obtain ⟨lead, trail, hsplit, hlead, htrail, hhead, hlast⟩ := exists_stripOf isGap m
  generalize stripOf isGap m = s at *
  subst hsplit
  rw [List.append_assoc, skipGap_append hlead, List.append_assoc]
  cases s with
  | nil => exact absurd (by simp [BareEnds]) hs
  | cons c s =>
    rw [List.cons_append, skipGap_eq_self (hhead c rfl), ← List.cons_append]
    cases hc : isBlank c with
    | true =>
      rw [List.cons_append, word_eq_nil hc]
      exact ⟨c, _, skipGap_eq_self (hhead c rfl) _, hc⟩
    | false =>
      -- The word breaks off in front of blanks, and not all of these belong to a gap.
      obtain ⟨b, hb, hblank, hw⟩ := exists_dropTrailing isBlank (c :: (s ++ trail))
      have hmid : ∀ d ∈ c :: (s ++ trail), isSeparator d = false :=
        fun d hd => hm d (List.mem_append_right _ hd)
      have hword := word_append hc hmid ht
      generalize dropTrailing isBlank (c :: (s ++ trail)) = w at *
      have hrest : c :: s ++ (trail ++ tail) = c :: (s ++ trail) ++ tail := by simp
      rw [hrest, hword, hb, List.append_assoc, List.drop_left]
      cases hg : skipGap b with
      | nil =>
        have hgap : ∀ d ∈ b, isGap d = true := List.dropWhile_eq_nil_iff.mp hg
        have hsame := dropTrailing_append (t := w) (fun d hd => isGap_of_not_isBlank (hw d hd)) hgap
        rw [← hb, ← List.cons_append, dropTrailing_append hlast htrail] at hsame
        subst hsame
        exact absurd ⟨fun d hd => Option.some.inj hd ▸ hc, hw⟩ hs
      | cons d u =>
        have hsuffix : skipGap b <:+ b := List.dropWhile_suffix isGap
        have hd : d ∈ b := hsuffix.mem (hg ▸ List.mem_cons_self)
        refine ⟨d, u ++ tail, ?_, hblank d hd⟩
        rw [skipGap, List.dropWhile_append, ← skipGap, hg]
        rfl

/-! ## Entries -/

def Stuck (rest : Text) : Prop := ∃ c u, skipGap rest = c :: u ∧ c ≠ .char ','

theorem stuck_of_blank {rest : Text} (h : ∃ c u, skipGap rest = c :: u ∧ isBlank c = true) :
    Stuck rest := by
  obtain ⟨c, u, hrest, hc⟩ := h
  exact ⟨c, u, hrest, by rintro rfl; exact absurd hc (by decide)⟩

/-- A name in front of the end or a comma is an entry. -/
theorem read?_plain (offset : Nat) (hm : ∀ c ∈ m, isSeparator c = false) (ht : AtComma tail)
    (hne : stripOf isGap m ≠ []) (hs : BareEnds (stripOf isGap m)) :
    ∃ rest, read? offset (skipGap (m ++ tail)) = some (⟨stripOf isGap m, none, offset⟩, rest) ∧
    skipGap rest = tail := by
  obtain ⟨hword, hrest⟩ := word_of_bareEnds hm ht.atSeparator hs
  refine ⟨_, ?_, hrest⟩
  simp only [read?, hword, hrest, List.isEmpty_iff, hne, if_false]
  cases tail with
  | nil => rfl
  | cons c tail =>
    obtain rfl := ht c rfl
    rfl

/-- A name in front of an equals sign is an entry with the word behind the sign. -/
theorem read?_signed (offset : Nat) (hm : ∀ c ∈ m, isSeparator c = false)
    (hne : stripOf isGap m ≠ []) (hs : BareEnds (stripOf isGap m)) (behind : Text) :
    ∃ rest, read? offset (skipGap (m ++ .char '=' :: behind)) =
        some (⟨stripOf isGap m, some (word (skipGap behind)), offset⟩, rest) ∧
      skipGap rest = skipGap ((skipGap behind).drop (word (skipGap behind)).length) := by
  obtain ⟨hword, hrest⟩ := word_of_bareEnds hm (atSeparator_sign behind) hs
  simp only [read?, hword, hrest, List.isEmpty_iff, hne, if_false]
  split
  · next hnil =>
      exact ⟨_, by rw [hnil], by rw [hnil, List.length_nil, List.drop_zero, skipGap_skipGap]⟩
  · exact ⟨_, rfl, rfl⟩

theorem read?_of_nil (offset : Nat) (hm : ∀ c ∈ m, isSeparator c = false) (ht : AtSeparator tail)
    (hnil : stripOf isGap m = []) : read? offset (skipGap (m ++ tail)) = none := by
  have hword := (word_of_bareEnds hm ht (hnil ▸ by simp [BareEnds])).1
  rw [read?, hword, hnil]
  rfl

theorem stuck_of_read? {offset : Nat} {entry : TagEntry} {rest : Text}
    (hm : ∀ c ∈ m, isSeparator c = false)
    (ht : AtSeparator tail) (hs : ¬ BareEnds (stripOf isGap m))
    (h : read? offset (skipGap (m ++ tail)) = some (entry, rest)) : Stuck rest := by
  obtain ⟨c, u, hrest, hc⟩ := word_of_not_bareEnds hm ht hs
  simp only [read?, hrest] at h
  split at h
  · cases h
  · split at h
    · next hsign =>
      obtain rfl : c = .char '=' := (List.cons.inj hsign).1
      exact absurd hc (by decide)
    · obtain ⟨-, rfl⟩ : _ ∧ _ := by simpa using h
      exact stuck_of_blank ⟨c, u, hrest, hc⟩

end TagEntry

namespace TagList

open TagEntry

variable {m tail behind piece : Text} {offset : Nat}

theorem ne_equals_of_not_mem (h : .char '=' ∉ m) : ∀ c ∈ m, (c != .char '=') = true :=
  fun _ hc => bne_iff_ne.mpr fun heq => h (heq ▸ hc)

theorem pieceName_plain (h : .char '=' ∉ m) : pieceName m = stripOf isGap m := by
  rw [pieceName, List.takeWhile_eq_self_iff.mpr (ne_equals_of_not_mem h)]

theorem pieceValue?_plain (h : .char '=' ∉ m) : pieceValue? m = none := by
  rw [pieceValue?, List.dropWhile_eq_nil_iff.mpr (ne_equals_of_not_mem h)]

theorem pieceName_signed (h : .char '=' ∉ m) (behind : Text) :
    pieceName (m ++ .char '=' :: behind) = stripOf isGap m := by
  rw [pieceName, List.takeWhile_append_of_pos (ne_equals_of_not_mem h)]
  simp

theorem pieceValue?_signed (h : .char '=' ∉ m) (behind : Text) :
    pieceValue? (m ++ .char '=' :: behind) = some (stripOf isGap behind) := by
  rw [pieceValue?, List.dropWhile_append_of_pos (ne_equals_of_not_mem h)]
  simp

theorem isPiece_plain (h : .char '=' ∉ m) :
    IsPiece m ↔ stripOf isGap m ≠ [] ∧ BareEnds (stripOf isGap m) := by
  constructor
  · intro hp
    exact ⟨pieceName_plain h ▸ hp.name_ne_nil, pieceName_plain h ▸ hp.name_ends⟩
  · rintro ⟨hne, hends⟩
    rw [← pieceName_plain h] at hne hends
    exact ⟨by simp [List.count_eq_zero.mpr h], hne, hends, by simp [pieceValue?_plain h]⟩

theorem isPiece_signed (h : .char '=' ∉ m) (behind : Text) : IsPiece (m ++ .char '=' :: behind) ↔
    (stripOf isGap m ≠ [] ∧ BareEnds (stripOf isGap m)) ∧ .char '=' ∉ behind ∧ BareEnds
    (stripOf isGap behind) := by
  have hname := pieceName_signed h behind
  have hvalue := pieceValue?_signed h behind
  have hcount : (m ++ .char '=' :: behind).count (.char '=') = behind.count (.char '=') + 1 := by
    simp [List.count_eq_zero.mpr h]
  constructor
  · intro hp
    have hsigns := hp.signs
    rw [hcount] at hsigns
    exact ⟨⟨hname ▸ hp.name_ne_nil, hname ▸ hp.name_ends⟩, List.count_eq_zero.mp (by omega),
      hp.value_ends _ hvalue⟩
  · rintro ⟨⟨hne, hends⟩, hsign, hv⟩
    rw [← hname] at hne hends
    refine ⟨by rw [hcount, List.count_eq_zero.mpr hsign], hne, hends, fun value hm => ?_⟩
    obtain rfl : stripOf isGap behind = value := by simpa [hvalue] using hm
    exact hv

theorem not_isSeparator (hcomma : .char ',' ∉ m) (hsign : .char '=' ∉ m) :
    ∀ c ∈ m, isSeparator c = false := by
  intro c hc
  have h1 : c ≠ .char ',' := fun heq => hcomma (heq ▸ hc)
  have h2 : c ≠ .char '=' := fun heq => hsign (heq ▸ hc)
  simp [isSeparator, h1, h2]

theorem read?_piece (h : IsPiece piece) (hcomma : .char ',' ∉ piece) (ht : AtComma tail)
    (offset : Nat) :
    ∃ rest, read? offset (skipGap (piece ++ tail)) =
      some (⟨pieceName piece, pieceValue? piece, offset⟩, rest) ∧
      skipGap rest = tail := by
  by_cases hsign : .char '=' ∈ piece
  · obtain ⟨m, behind, rfl, hm⟩ := List.eq_append_cons_of_mem hsign
    obtain ⟨⟨hne, hends⟩, hb, hv⟩ := (isPiece_signed hm behind).mp h
    simp only [List.mem_append, List.mem_cons, not_or] at hcomma
    obtain ⟨rest, hread, hrest⟩ :=
      read?_signed offset (not_isSeparator hcomma.1 hm) hne hends (behind ++ tail)
    obtain ⟨hword, hskip⟩ := word_of_bareEnds (not_isSeparator hcomma.2.2 hb) ht.atSeparator hv
    rw [hword, hskip] at hrest
    refine ⟨rest, ?_, hrest⟩
    rw [pieceName_signed hm, pieceValue?_signed hm, List.append_assoc, List.cons_append, hread,
      hword]
  · obtain ⟨hne, hends⟩ := (isPiece_plain hsign).mp h
    rw [pieceName_plain hsign, pieceValue?_plain hsign]
    exact read?_plain offset (not_isSeparator hcomma hsign) ht hne hends

theorem bareEnds_of_value {rest : Text} (hcomma : .char ',' ∉ behind) (ht : AtComma tail)
    (hskip : skipGap rest =
      skipGap ((skipGap (behind ++ tail)).drop (word (skipGap (behind ++ tail))).length))
    (hrest : ¬ Stuck rest) : .char '=' ∉ behind ∧ BareEnds (stripOf isGap behind) := by
  by_cases hsign : .char '=' ∈ behind
  · obtain ⟨m, more, rfl, hm⟩ := List.eq_append_cons_of_mem hsign
    simp only [List.mem_append, List.mem_cons, not_or] at hcomma
    have hat : AtSeparator (.char '=' :: (more ++ tail)) := atSeparator_sign _
    have hchars := not_isSeparator hcomma.1 hm
    rw [List.append_assoc, List.cons_append] at hskip
    by_cases hends : BareEnds (stripOf isGap m)
    · obtain ⟨hword, hstop⟩ := word_of_bareEnds hchars hat hends
      rw [hword, hstop] at hskip
      exact absurd ⟨.char '=', _, hskip, by decide⟩ hrest
    · obtain ⟨c, u, hstop, hc⟩ := word_of_not_bareEnds hchars hat hends
      exact absurd (stuck_of_blank ⟨c, u, hskip.trans hstop, hc⟩) hrest
  · refine ⟨hsign, ?_⟩
    by_contra hends
    obtain ⟨c, u, hstop, hc⟩ :=
      word_of_not_bareEnds (not_isSeparator hcomma hsign) ht.atSeparator hends
    exact hrest (stuck_of_blank ⟨c, u, hskip.trans hstop, hc⟩)

/-- What becomes an entry in front of the end or a comma is a piece. -/
theorem isPiece_of_read? {entry : TagEntry} {rest : Text} (hcomma : .char ',' ∉ piece)
    (ht : AtComma tail)
    (h : read? offset (skipGap (piece ++ tail)) = some (entry, rest)) (hrest : ¬ Stuck rest) :
    IsPiece piece := by
  have hname : ∀ {m tail : Text}, (∀ c ∈ m, isSeparator c = false) → AtSeparator tail →
      read? offset (skipGap (m ++ tail)) = some (entry, rest) →
        stripOf isGap m ≠ [] ∧ BareEnds (stripOf isGap m) := by
    intro m tail hm ht h
    constructor
    · intro hnil
      rw [read?_of_nil offset hm ht hnil] at h
      cases h
    · by_contra hends
      exact hrest (stuck_of_read? hm ht hends h)
  by_cases hsign : .char '=' ∈ piece
  · obtain ⟨m, behind, rfl, hm⟩ := List.eq_append_cons_of_mem hsign
    simp only [List.mem_append, List.mem_cons, not_or] at hcomma
    rw [List.append_assoc, List.cons_append] at h
    have hchars := not_isSeparator hcomma.1 hm
    obtain ⟨hne, hends⟩ := hname hchars (atSeparator_sign _) h
    obtain ⟨rest', hread, hskip⟩ := read?_signed offset hchars hne hends (behind ++ tail)
    obtain ⟨-, rfl⟩ : _ ∧ rest' = rest := by simpa [hread] using h
    exact (isPiece_signed hm behind).mpr ⟨⟨hne, hends⟩, bareEnds_of_value hcomma.2.2 ht hskip hrest⟩
  · exact (isPiece_plain hsign).mpr (hname (not_isSeparator hcomma hsign) ht.atSeparator h)

/-! ## Lists -/

variable {size fuel : Nat} {rest v : Text} {es : List TagEntry}

theorem more_nil (h : skipGap rest = []) : more size (fuel + 1) rest = .ok [] := by rw [more, h]

theorem more_congr {rest' : Text} (h : skipGap rest = skipGap rest') :
    more size (fuel + 1) rest = more size (fuel + 1) rest' := by
  rw [more, more, h]

/-- The entries of a text that are read one after the other, the first one without a comma. -/
def ReadsAs (size fuel : Nat) (v : Text) (es : List TagEntry) : Prop :=
  ∃ entry rest fs, read? (size - (skipGap v).length) (skipGap v) = some (entry, rest) ∧
    more size fuel rest = .ok fs ∧
    es = entry :: fs

theorem map_more_eq_ok_iff {entry : TagEntry} : (more size fuel rest).map (entry :: ·) = .ok es ↔
    ∃ fs, more size fuel rest = .ok fs ∧ es = entry :: fs := by
  cases more size fuel rest <;> simp [Except.map, eq_comm]

theorem more_comma_iff (v : Text) : more size (fuel + 1) (.char ',' :: v) = .ok es ↔
    ReadsAs size fuel v es := by
  rw [more, skipGap_eq_self (by decide)]
  cases hread : read? (size - (skipGap v).length) (skipGap v) with
  | none => simp [ReadsAs, hread]
  | some p =>
    simp only [hread, if_true, map_more_eq_ok_iff, ReadsAs, Option.some.injEq]
    constructor
    · exact fun ⟨fs, hfs, hes⟩ => ⟨p.1, p.2, fs, rfl, hfs, hes⟩
    · rintro ⟨entry, rest, fs, rfl, hfs, hes⟩
      exact ⟨fs, hfs, hes⟩

theorem not_stuck_of_more (h : more size (fuel + 1) rest = .ok es) : ¬ Stuck rest := by
  rintro ⟨c, u, hrest, hc⟩
  rw [more, hrest] at h
  simp [hc] at h

theorem exists_piece (u : Text) : ∃ piece tail, u = piece ++ tail ∧ .char ',' ∉ piece ∧
    (tail = [] ∧ u.splitOn (.char ',') = [piece] ∨
      ∃ v, tail = .char ',' :: v ∧ u.splitOn (.char ',') = piece :: v.splitOn (.char ',')) := by
  by_cases h : .char ',' ∈ u
  · obtain ⟨piece, v, rfl, hp⟩ := List.eq_append_cons_of_mem h
    exact ⟨piece, _, rfl, hp, .inr ⟨v, rfl, List.splitOn_append_cons_self_of_not_mem hp v⟩⟩
  · exact ⟨u, [], (List.append_nil u).symm, h, .inl ⟨rfl, List.splitOn_eq_singleton h⟩⟩

theorem takeWhile_gap_append (ht : AtComma tail) :
    (piece ++ tail).takeWhile isGap = piece.takeWhile isGap := by
  have hnil : tail.takeWhile isGap = [] := by
    cases tail with
    | nil => rfl
    | cons c tail =>
      obtain rfl := ht c rfl
      rfl
  rw [List.takeWhile_append, hnil, List.append_nil]
  split
  · next h => exact ((List.takeWhile_prefix isGap).eq_of_length h).symm
  · rfl

/-- The first entry is the first piece, and the others are read from what follows it. -/
theorem readsAs_append (hsize : (piece ++ tail).length ≤ size) (hcomma : .char ',' ∉ piece)
    (ht : AtComma tail) :
    ReadsAs size (fuel + 1) (piece ++ tail) es ↔
      IsPiece piece ∧ ∃ fs, more size (fuel + 1) tail = .ok fs ∧
        es = ⟨pieceName piece, pieceValue? piece,
          size - (piece ++ tail).length + (piece.takeWhile isGap).length⟩ :: fs := by
  have hoffset : size - (skipGap (piece ++ tail)).length =
      size - (piece ++ tail).length + (piece.takeWhile isGap).length := by
    have hlen := length_skipGap (piece ++ tail)
    rw [takeWhile_gap_append ht] at hlen
    omega
  have htail : ∀ {rest : Text}, skipGap rest = tail →
      more size (fuel + 1) rest = more size (fuel + 1) tail :=
    fun h => more_congr (h.trans ht.atSeparator.skipGap.symm)
  rw [← hoffset]
  constructor
  · rintro ⟨entry, rest, fs, hread, hmore, rfl⟩
    have hpiece := isPiece_of_read? hcomma ht hread (not_stuck_of_more hmore)
    obtain ⟨rest', hread', hrest⟩ :=
      read?_piece hpiece hcomma ht (size - (skipGap (piece ++ tail)).length)
    obtain ⟨rfl, rfl⟩ : _ ∧ rest' = rest := by simpa [hread'] using hread
    exact ⟨hpiece, fs, htail hrest ▸ hmore, rfl⟩
  · rintro ⟨hpiece, fs, hmore, rfl⟩
    obtain ⟨rest, hread, hrest⟩ :=
      read?_piece hpiece hcomma ht (size - (skipGap (piece ++ tail)).length)
    exact ⟨_, rest, fs, hread, (htail hrest).trans hmore, rfl⟩

/-- Entries are read as the pieces of the text. By induction on the fuel, which outlasts the
text. -/
theorem readsAs_iff (hsize : v.length ≤ size) (hfuel : v.length < fuel) :
    ReadsAs size fuel v es ↔
      (∀ piece ∈ v.splitOn (.char ','), IsPiece piece) ∧
      es = entriesOf (size - v.length) (v.splitOn (.char ',')) := by
  induction fuel generalizing v es with
  | zero => omega
  | succ fuel ih =>
    obtain ⟨piece, tail, rfl, hcomma, ⟨rfl, hsplit⟩ | ⟨w, rfl, hsplit⟩⟩ := exists_piece v
    · rw [readsAs_append hsize hcomma (by simp [AtComma]), more_nil rfl, hsplit]
      simp [entriesOf]
    · have hat : AtComma (.char ',' :: w) := fun c hc => by simpa using hc.symm
      simp only [List.length_append, List.length_cons] at hsize hfuel
      have hnext : size - (piece ++ .char ',' :: w).length + piece.length + 1 =
          size - w.length := by
        simp only [List.length_append, List.length_cons]
        omega
      have hrest : ∀ fs, ReadsAs size fuel w fs ↔ _ := fun fs => ih (by omega) (by omega)
      rw [readsAs_append (by simpa using hsize) hcomma hat, hsplit]
      simp only [more_comma_iff, hrest, List.mem_cons, forall_eq_or_imp, entriesOf, hnext,
        and_assoc, exists_and_left, exists_eq_left]

theorem isGap_iff_skipGap {t : Text} : IsGap t ↔ skipGap t = [] := List.dropWhile_eq_nil_iff.symm

theorem not_isPiece_of_isGap {t : Text} (h : IsGap t) : ¬ IsPiece t := by
  have hsign : .char '=' ∉ t := fun hm => absurd (h _ hm) (by decide)
  rw [isPiece_plain hsign, stripOf, ← skipGap, isGap_iff_skipGap.mp h]
  exact fun hp => hp.1 rfl

theorem not_isGap_of_pieces {t : Text} (h : ∀ piece ∈ t.splitOn (.char ','), IsPiece piece) :
    ¬ IsGap t := by
  intro hg
  have hcomma : .char ',' ∉ t := fun hm => absurd (hg _ hm) (by decide)
  rw [List.splitOn_eq_singleton hcomma] at h
  exact not_isPiece_of_isGap hg (h t (List.mem_singleton_self t))

theorem entries_eq_ok_iff (t : Text) (es : List TagEntry) : entries t = .ok es ↔
    IsGap t ∧ es = [] ∨ ReadsAs t.length (t.length + 1) t es := by
  rw [entries, isGap_iff_skipGap]
  cases hread : read? (t.length - (skipGap t).length) (skipGap t) with
  | none =>
    have hnone : ¬ ReadsAs t.length (t.length + 1) t es := by
      rintro ⟨entry, rest, fs, h, -⟩
      rw [hread] at h
      cases h
    cases skipGap t <;> simp [hnone, eq_comm]
  | some p =>
    have hne : skipGap t ≠ [] := by
      intro hnil
      rw [hnil] at hread
      cases hread
    simp only [hread, hne, false_and, false_or, map_more_eq_ok_iff, ReadsAs, Option.some.injEq]
    constructor
    · exact fun ⟨fs, hfs, hes⟩ => ⟨p.1, p.2, fs, rfl, hfs, hes⟩
    · rintro ⟨entry, rest, fs, rfl, hfs, hes⟩
      exact ⟨fs, hfs, hes⟩

/-- A gap has no entries, and any other list has those of its pieces. -/
theorem read_iff_gap_or_pieces {t : Text} {es : List TagEntry} : read t = .ok es ↔
    IsGap (expandTabs t) ∧ es = [] ∨
      (∀ piece ∈ (expandTabs t).splitOn (.char ','), IsPiece piece) ∧
      es = entriesOf 0 ((expandTabs t).splitOn (.char ',')) := by
  have hread : read t = .ok es ↔ entries (expandTabs t) = .ok es := by
    rw [read]
    cases entries (expandTabs t) <;> simp
  rw [hread, entries_eq_ok_iff, readsAs_iff (Nat.le_refl _) (Nat.lt_succ_self _), Nat.sub_self]

/-- A tag list is read exactly if it is a gap, or all of its pieces between commas are what they
should be; then there is one entry for each piece, in their order. -/
theorem read_eq_ok_iff (t : Text) (es : List TagEntry) : read t = .ok es ↔
    IsGap (expandTabs t) ∧ es = [] ∨
      ¬ IsGap (expandTabs t) ∧ (∀ piece ∈ (expandTabs t).splitOn (.char ','), IsPiece piece) ∧
        es = entriesOf 0 ((expandTabs t).splitOn (.char ',')) := by
  rw [read_iff_gap_or_pieces]
  exact or_congr_right (iff_and_self.mpr fun h => not_isGap_of_pieces h.1)

end TagList

end FileTags

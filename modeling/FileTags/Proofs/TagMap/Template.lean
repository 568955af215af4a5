import FileTags.Proofs.Text.Numeral
import FileTags.TagMap.Rename

/-!
# Expanding templates

A template is read once from left to right. Text with its dollar signs doubled stands for itself,
and a name in braces behind a dollar sign for what its group has captured, which is put in as it is.
-/

set_option autoImplicit false

namespace FileTags

open Text

/-- Digits that name a group are not too many to be read. -/
def Piece.IsShort : Piece → Prop
  | .literal _ => True
  | .reference name => name.all isDigit = true → name.length ≤ digitLimit

instance : DecidablePred Piece.IsShort
  | .literal _ => .isTrue trivial
  | .reference name =>
    inferInstanceAs (Decidable (name.all isDigit = true → name.length ≤ digitLimit))

namespace Template

variable {m : Match} {p : Piece} {ps qs : List Piece} {g rest t : Text} {c : Rune}

/-- Of all that a template refers to by number, the number can be read. -/
def IsShort (t : Text) : Prop := ∀ p ∈ pieces t, p.IsShort

instance (t : Text) : Decidable (IsShort t) :=
  inferInstanceAs (Decidable (∀ p ∈ pieces t, p.IsShort))

/-! ## Pieces -/

/-- The text of a group, by its number if there are only digits, and else by its name. -/
def groupText (m : Match) (g : Text) : Text :=
  (if g.all isDigit then m.group? (numberOf g) else m.named? g).getD []

def filling (m : Match) : Piece → Text
  | .literal c => [c]
  | .reference g => groupText m g

theorem pieceText_of_short (h : p.IsShort) : pieceText m p = .ok (filling m p) := by
  cases p with
  | literal c => rfl
  | reference g =>
    rw [pieceText, filling, groupText]
    by_cases hd : g.all isDigit = true
    · have hdigits : ∀ c ∈ g, .char '0' ≤ c ∧ c ≤ .char '9' := by simpa [isDigit] using hd
      have hread : readNatural g = .ok (numberOf g) :=
        (if_neg (Nat.not_lt.mpr (h hd))).trans (congrArg Except.ok (naturalOf_eq_numberOf hdigits))
      rw [if_pos hd, if_pos hd, hread]
      rfl
    · rw [if_neg hd, if_neg hd]

theorem expandPieces_of_short (h : ∀ p ∈ ps, p.IsShort) :
    expandPieces m ps = .ok (ps.flatMap (filling m)) := by
  induction ps with
  | nil => rfl
  | cons p ps ih =>
    rw [List.forall_mem_cons] at h
    rw [expandPieces, pieceText_of_short h.1, ih h.2]
    rfl

theorem expand_of_short (h : IsShort t) : expand m t = .ok ((pieces t).flatMap (filling m)) :=
  expandPieces_of_short h

/-! ## Reading what is written -/

def doubled (s : Text) : Text :=
  s.flatMap fun c => if c = .char '$' then [.char '$', .char '$'] else [c]

def braced (g : Text) : Text := .char '$' :: .char '\x7b' :: (g ++ [.char '\x7d'])

def IsReference (g : Text) : Prop := g ≠ [] ∧ ∀ c ∈ g, isNameChar c = true

instance (g : Text) : Decidable (IsReference g) :=
  decidable_of_iff (g ≠ [] ∧ g.all isNameChar = true) (and_congr_right fun _ => List.all_eq_true)

theorem piecesFrom_append (front rest : Text) :
    piecesFrom front.length (front ++ rest) = pieces rest := by
  induction front with
  | nil => rfl
  | cons c front ih => exact ih

theorem pieces_of_ne (hc : c ≠ .char '$') : pieces (c :: rest) = .literal c :: pieces rest := by
  rw [pieces, piecesFrom, if_neg hc]
  rfl

theorem pieces_dollars :
    pieces (.char '$' :: .char '$' :: rest) = .literal (.char '$') :: pieces rest := rfl

theorem takeWhile_reference (hg : ∀ c ∈ g, isNameChar c = true) :
    (g ++ .char '\x7d' :: rest).takeWhile isNameChar = g := by
  have hclose : isNameChar (.char '\x7d') = false := by decide
  rw [List.takeWhile_append_of_pos hg, List.takeWhile_cons_of_neg (by simp [hclose]),
    List.append_nil]

theorem afterDollar_reference (hg : IsReference g) :
    afterDollar (.char '\x7b' :: (g ++ .char '\x7d' :: rest)) = (.reference g, g.length + 2) := by
  have hne : g.isEmpty = false := by simpa using hg.1
  simp only [afterDollar, takeWhile_reference hg.2, List.drop_left, hne, Bool.false_eq_true,
    if_false]

theorem pieces_braced (hg : IsReference g) :
    pieces (braced g ++ rest) = .reference g :: pieces rest := by
  have htext : braced g ++ rest = .char '$' :: .char '\x7b' :: (g ++ .char '\x7d' :: rest) := by
    simp [braced]
  have hlength : g.length + 2 = (.char '\x7b' :: (g ++ [.char '\x7d'])).length := by simp
  have hrest : .char '\x7b' :: (g ++ .char '\x7d' :: rest) =
      (.char '\x7b' :: (g ++ [.char '\x7d'])) ++ rest := by simp
  rw [htext, pieces, piecesFrom, if_pos rfl, afterDollar_reference hg, hlength, hrest,
    piecesFrom_append]

theorem pieces_doubled (s rest : Text) :
    pieces (doubled s ++ rest) = s.map .literal ++ pieces rest := by
  induction s with
  | nil => rfl
  | cons c s ih =>
    rw [doubled, List.flatMap_cons, List.append_assoc]
    by_cases hc : c = .char '$'
    · subst hc
      exact pieces_dollars.trans (congrArg _ ih)
    · rw [if_neg hc]
      exact (pieces_of_ne hc).trans (congrArg _ ih)

/-! ## Segments -/

/-- A template as it is meant: text that stands for itself, and groups. -/
inductive Segment
  | literal (s : Text)
  | group (g : Text)
  deriving DecidableEq, Repr

namespace Segment

def written : Segment → Text
  | .literal s => doubled s
  | .group g => braced g

def text (m : Match) : Segment → Text
  | .literal s => s
  | .group g => groupText m g

def pieces : Segment → List Piece
  | .literal s => s.map .literal
  | .group g => [.reference g]

/-- A group can be referred to. -/
def IsProper : Segment → Prop
  | .literal _ => True
  | .group g => IsReference g ∧ (Piece.reference g).IsShort

instance : DecidablePred IsProper
  | .literal _ => .isTrue trivial
  | .group g => inferInstanceAs (Decidable (IsReference g ∧ (Piece.reference g).IsShort))

variable {s : Segment} {segments : List Segment}

theorem pieces_written (h : s.IsProper) (rest : Text) :
    Template.pieces (s.written ++ rest) = s.pieces ++ Template.pieces rest := by
  cases s with
  | literal s => exact pieces_doubled s rest
  | group g => exact pieces_braced h.1

theorem pieces_written_all (h : ∀ s ∈ segments, s.IsProper) :
    Template.pieces (segments.flatMap written) = segments.flatMap pieces := by
  induction segments with
  | nil => rfl
  | cons s segments ih =>
    rw [List.forall_mem_cons] at h
    rw [List.flatMap_cons, pieces_written h.1, ih h.2, List.flatMap_cons]

theorem isShort_pieces (h : s.IsProper) : ∀ p ∈ s.pieces, p.IsShort := by
  cases s with
  | literal s =>
    intro p hp
    obtain ⟨c, -, rfl⟩ := List.mem_map.mp hp
    trivial
  | group g =>
    intro p hp
    obtain rfl := List.mem_singleton.mp hp
    exact h.2

theorem filling_pieces (m : Match) (s : Segment) : s.pieces.flatMap (filling m) = s.text m := by
  cases s with
  | literal s => simp [pieces, text, List.flatMap_map, filling]
  | group g => simp [pieces, text, filling]

end Segment

variable {segments : List Segment}

/-- What is written for some segments expands to their texts, one after the other. -/
theorem expand_segments (h : ∀ s ∈ segments, s.IsProper) :
    expand m (segments.flatMap Segment.written) = .ok (segments.flatMap (Segment.text m)) := by
  have hshort : IsShort (segments.flatMap Segment.written) := by
    rw [IsShort, Segment.pieces_written_all h]
    intro p hp
    obtain ⟨s, hs, hp⟩ := List.mem_flatMap.mp hp
    exact Segment.isShort_pieces (h s hs) p hp
  rw [expand_of_short hshort, Segment.pieces_written_all h, List.flatMap_assoc]
  simp only [Segment.filling_pieces]

/-- A template is read once from left to right: it expands to the texts of its segments, whatever
these texts are, and doubled dollar signs are a way to write any text. -/
theorem expand_written (m : Match) (h : ∀ s ∈ segments, s.IsProper) :
    expand m (segments.flatMap Segment.written) = .ok (segments.flatMap (Segment.text m)) ∧
      ∀ s : Text, expand m (doubled s) = .ok s := by
  refine ⟨expand_segments h, fun s => ?_⟩
  have hliteral := @expand_segments m [.literal s] fun s hs => by
    obtain rfl := List.mem_singleton.mp hs
    trivial
  simpa [Segment.written, Segment.text] using hliteral

/-- Text with dollar signs and braces next to groups: one that has captured a dollar sign, one that
took no part, one that does not exist. -/
def priceTag : List Segment :=
  [.literal [.char '$', .char '\x7b', .char 'x', .char '\x7d'], .group [.char 'x'],
    .literal [.char '7'], .group [.char '2'], .group [.char '9'], .literal [.char '$']]

theorem expand_written_price :
    ∃ m, (Program.ofText (Text.ofString "(?P<x>.+)-(y)?")).toOption.bind (fun p =>
      p.fullMatch? [.char '$', .char '1', .char '-']) = some m ∧
      (∀ s ∈ priceTag, s.IsProper) ∧
      priceTag.flatMap Segment.written =
        (Text.ofString "$$\x7bx\x7d$\x7bx\x7d7$\x7b2\x7d$\x7b9\x7d$$") ∧
      expand m (priceTag.flatMap Segment.written) = .ok (Text.ofString "$\x7bx\x7d$17$") ∧
      ∀ s, expand m (doubled s) = .ok s := by
  refine ⟨⟨[.char '$', .char '1', .char '-'], 2, [([.char 'x'], 1)],
    ⟨3, [(3, 2), (2, 0)]⟩⟩, by decide +kernel, by decide, by decide, ?_⟩
  have hproper : ∀ s ∈ priceTag, s.IsProper := by decide
  exact expand_written _ hproper

end Template

end FileTags

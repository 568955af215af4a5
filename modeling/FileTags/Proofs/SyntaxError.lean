import FileTags.Proofs.Term.Assembly
import FileTags.Proofs.Term.Cover
import FileTags.Proofs.Text.Place
import FileTags.TagMap.Codec

/-!
# Places of syntax errors

A syntax error is about a place of the text with its tabs expanded. Its line and column are counted
in that text when no token can be read there, and in the text as given when a token is misplaced. So
it points into the text it is about unless a tab in front of the place gets in the way.
-/

set_option autoImplicit false

namespace FileTags

open Text

/-- The position is a place of the text, and line and column are those of the place, counted from
one. -/
structure SyntaxError.PointsInto (e : SyntaxError) : Prop where
  position_le : e.position ≤ e.text.length
  line_eq : e.line = (e.text.take e.position).count (.char '\n') + 1
  column_eq : e.column + lineStart e.text e.position = e.position + 1

/-- The errors of a reader of the text: about a place where nothing can be read, or about a
token. -/
inductive SyntaxError.Reports (t : Text) : SyntaxError → Prop
  | unread (kind : TextKind) {offset : Nat} (h : offset ≤ (expandTabs t).length) :
      Reports t (.locate t (expandTabs t) (.expectedEnd kind) offset)
  | misplaced (m : Term.Misplaced) {offset : Nat} (h : offset ≤ (expandTabs t).length) :
      Reports t (.locate t t (.misplaced m) offset)

variable {t : Text} {e : SyntaxError} {n : Nat}

/-! ## Search terms -/

namespace Term

theorem tokensFrom_error_le {behind offset pending : Nat}
    (h : tokensFrom behind offset pending t = .error n) :
    n ≤ offset + t.length := by
  induction t generalizing behind offset pending with
  | nil => cases pending <;> cases h
  | cons c t ih =>
    have hrest : ∀ {behind pending : Nat}, tokensFrom behind (offset + 1) pending t = .error n →
        n ≤ offset + (c :: t).length := by
      intro behind pending h
      have := ih h
      simp only [List.length_cons]
      omega
    cases pending with
    | succ pending => exact hrest h
    | zero =>
      rw [tokensFrom] at h
      split at h
      · exact hrest h
      · split at h
        · next token k _ =>
          cases htail : tokensFrom (offset + k) (offset + 1) (k - 1) t with
          | ok ts => simp [htail, Except.map] at h
          | error m =>
            obtain rfl : m = n := by simpa [htail, Except.map] using h
            exact hrest htail
        · cases h
          exact Nat.le_add_right _ _

theorem Cut.start_le {behind offset : Nat} {ts : List Token} (h : Cut behind offset t ts)
    (hle : behind ≤ offset) :
    ∀ token ∈ ts, token.start ≤ offset + t.length := by
  induction h with
  | nil => simp
  | gap hc h ih =>
    intro token htoken
    have := ih (Nat.le_succ_of_le hle) token htoken
    simp only [List.length_cons]
    omega
  | token hx h ih =>
    refine List.forall_mem_cons.mpr ⟨?_, fun token htoken => ?_⟩
    · rw [hx.start_eq]
      exact Nat.le_trans (Token.placed_bounds hle _).2 (Nat.le_add_right _ _)
    · have := ih (Nat.le_refl _) token htoken
      rw [List.length_append]
      omega

theorem start_le_of_tokens {ts : List Token} (h : tokens t = .ok ts) :
    ∀ token ∈ ts, token.start ≤ t.length := by
  intro token htoken
  have hsplit : (t.takeWhile isGap).length + (t.drop (t.takeWhile isGap).length).length =
      t.length := by
    have := (List.takeWhile_prefix isGap (l := t)).length_le
    rw [List.length_drop]
    omega
  rw [← hsplit]
  exact (cut_of_tokensFrom (Nat.le_refl _) h).start_le (Nat.le_refl _) token htoken

theorem tokens_error_le (h : tokens t = .error n) : n ≤ t.length := by
  have hle := tokensFrom_error_le h
  have hprefix := (List.takeWhile_prefix isGap (l := t)).length_le
  rw [List.length_drop] at hle
  omega

/-- What is wrong with a row of tokens is wrong at one of them or at the end. -/
theorem assemble_error {size : Nat} {ts : List Token} {m : Misplaced}
    (h : assemble size ts = .error (m, n)) :
    n = size ∨ ∃ token ∈ ts, n = token.start := by
  rcases goesWrongAt_of_assemble h with ⟨us, token, vs, rfl, -, -, hn⟩
    | ⟨-, ⟨us, vs, rfl, -⟩ | ⟨-, hn⟩⟩
  · exact .inr ⟨token, by simp, hn⟩
  · exact .inr ⟨.symbol .opening n, by simp, rfl⟩
  · exact .inl hn

end Term

namespace SyntaxError

theorem reports_of_ofTerm (h : Expr.ofTerm t = .error e) : Reports t e := by
  rw [Expr.ofTerm] at h
  cases htokens : Term.tokens (expandTabs t) with
  | error offset =>
    rw [htokens] at h
    cases h
    exact .unread _ (Term.tokens_error_le htokens)
  | ok ts =>
    simp only [htokens] at h
    cases hassemble : Term.assemble t.length ts with
    | ok f => simp [hassemble] at h
    | error f =>
      obtain ⟨m, offset⟩ := f
      simp only [hassemble] at h
      cases h
      refine .misplaced m ?_
      rcases Term.assemble_error hassemble with rfl | ⟨token, htoken, rfl⟩
      · exact length_le_expandTabsFrom t 0
      · exact Term.start_le_of_tokens htokens token htoken

end SyntaxError

/-! ## Tag lists -/

namespace TagList

theorem more_error_le {size fuel : Nat} {rest : Text} (h : more size fuel rest = .error n) :
    n ≤ size := by
  induction fuel generalizing rest with
  | zero => cases h
  | succ fuel ih =>
    rw [more] at h
    split at h
    · cases h
    · dsimp only at h
      split at h
      · split at h
        · next entry rest' _ =>
          cases hmore : more size fuel rest' with
          | ok es => simp [hmore, Except.map] at h
          | error m =>
            obtain rfl : m = n := by simpa [hmore, Except.map] using h
            exact ih hmore
        · cases h
          exact Nat.sub_le _ _
      · cases h
        exact Nat.sub_le _ _

theorem entries_error_le (h : entries t = .error n) : n ≤ t.length := by
  rw [entries] at h
  split at h
  · next entry rest _ =>
    cases hmore : more t.length (t.length + 1) rest with
    | ok es => simp [hmore, Except.map] at h
    | error m =>
      obtain rfl : m = n := by simpa [hmore, Except.map] using h
      exact more_error_le hmore
  · split at h
    · cases h
    · cases h
      exact Nat.sub_le _ _

end TagList

namespace SyntaxError

theorem reports_of_read (h : TagList.read t = .error e) : Reports t e := by
  rw [TagList.read] at h
  cases hentries : TagList.entries (expandTabs t) with
  | ok es => simp [hentries] at h
  | error offset =>
    simp only [hentries] at h
    cases h
    exact .unread _ (TagList.entries_error_le hentries)

/-! ## Places -/

theorem Reports.text_eq (h : Reports t e) : e.text = t := by
  cases h <;> rfl

theorem Reports.position_le (h : Reports t e) : e.position ≤ (expandTabs t).length := by
  cases h <;> assumption

/-- An error whose line and column are counted in a text that may differ in its tabs. -/
theorem pointsInto_locate_iff {seen : Text} {reason : SyntaxReason} {offset : Nat} :
    (locate t seen reason offset).PointsInto ↔
      offset ≤ t.length ∧ Text.line seen offset = Text.line t offset ∧
      Text.column seen offset = Text.column t offset := by
  constructor
  · intro hp
    have hcolumn := hp.column_eq
    have := column_add_lineStart hp.position_le
    simp only [locate] at this hcolumn
    exact ⟨hp.position_le, hp.line_eq, by omega⟩
  · rintro ⟨hle, hline, hcolumn⟩
    have := column_add_lineStart hle
    exact ⟨hle, hline, by simp only [locate]; omega⟩

/-- An error about a misplaced token points into the text if its position is in there. One about a
place where nothing can be read does if, moreover, no tab in front of the line takes more than one
column. -/
theorem Reports.pointsInto_iff (h : Reports t e) : e.PointsInto ↔ e.position ≤ t.length ∧
    ((∃ m, e.reason = .misplaced m) ∨
      (expandTabs (t.take (lineStart t e.position))).length = lineStart t e.position) := by
  cases h with
  | misplaced m =>
    constructor
    · exact fun hp => ⟨hp.position_le, .inl ⟨m, rfl⟩⟩
    · rintro ⟨hle, -⟩
      exact pointsInto_locate_iff.mpr ⟨hle, rfl, rfl⟩
  | unread kind =>
    rw [pointsInto_locate_iff]
    refine and_congr_right fun hle => ?_
    rw [place_expandTabs_iff hle]
    constructor
    · exact .inr
    · rintro (⟨m, hm⟩ | hstart)
      · cases hm
      · exact hstart

/-- Without a tab in front of its position an error points into the text. -/
theorem Reports.pointsInto_of_no_tab (h : Reports t e) (htab : .char '\t' ∉ t.take e.position) :
    e.PointsInto := by
  have hle : e.position ≤ t.length := by
    by_contra hbeyond
    rw [List.take_of_length_le (by omega)] at htab
    have := h.position_le
    rw [expandTabs_eq_self htab] at this
    exact hbeyond this
  refine h.pointsInto_iff.mpr ⟨hle, .inr ?_⟩
  have hstart := lineStart_le t e.position
  have hfront : t.take (lineStart t e.position) <+: t.take e.position :=
    List.take_prefix_take_left (by omega)
  rw [expandTabs_eq_self fun hmem => htab (hfront.subset hmem), List.length_take]
  omega

/-- A rejected text is reported with a place of the text whose tabs are expanded. The error points
into the text that it names exactly when that place is in there and, for a place where nothing can
be read, no tab in front of its line takes more than one column; so it does whenever there is no tab
in front of the position. -/
theorem pointsInto_text_iff (h : Expr.ofTerm t = .error e ∨ TagList.read t = .error e) :
    e.text = t ∧ e.position ≤ (expandTabs t).length ∧
      (e.PointsInto ↔ e.position ≤ t.length ∧
        ((∃ m, e.reason = .misplaced m) ∨
          (expandTabs (t.take (lineStart t e.position))).length = lineStart t e.position)) ∧
      (.char '\t' ∉ t.take e.position → e.PointsInto) := by
  have hreports : Reports t e := h.elim reports_of_ofTerm reports_of_read
  exact ⟨hreports.text_eq, hreports.position_le, hreports.pointsInto_iff,
    hreports.pointsInto_of_no_tab⟩

theorem pointsInto_text_iff_second_line :
    let t := Text.ofString "x\ty,\nb=c=d"
    let e : SyntaxError := ⟨t, .expectedEnd .tagList, 14, 2, 4⟩
    TagList.read t = .error e ∧ e.text = t ∧ e.position ≤ (expandTabs t).length ∧
      (e.PointsInto ↔ e.position ≤ t.length ∧
        ((∃ m, e.reason = .misplaced m) ∨
          (expandTabs (t.take (lineStart t e.position))).length = lineStart t e.position)) ∧
      (.char '\t' ∉ t.take e.position → e.PointsInto) := by
  intro t e
  have herror : TagList.read t = .error e := by decide
  exact ⟨herror, pointsInto_text_iff (.inr herror)⟩

/-- A misplaced operand behind a tab is reported at an offset that the text does not have. -/
theorem ofTerm_points_beyond :
    ¬ ∀ (t : Text) (e : SyntaxError), Expr.ofTerm t = .error e ∨ TagList.read t = .error e →
    e.PointsInto := by
  intro h
  have herror : Expr.ofTerm (Text.ofString "a\tb") =
      .error ⟨Text.ofString "a\tb", .misplaced .operandAfterOperand, 8, 1, 9⟩ := by
    rfl
  exact absurd (h _ _ (.inl herror)).position_le (by decide)

end SyntaxError

end FileTags

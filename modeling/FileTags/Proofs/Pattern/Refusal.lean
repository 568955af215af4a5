import FileTags.Command.Run
import FileTags.Proofs.Pattern.Anchoring
import Mathlib.Data.List.DropRight

/-!
# What anchors do to text that is no pattern

Text that is malformed alone is malformed between the anchors as well. The line start in front of it
only makes less of it a pattern, and the line end is read for itself when the text has been read.
The one exception is a backslash that dangles at the end of the text: it takes the dollar sign of
the line end for a character, so that the text in front of it alone decides what is refused.
-/

set_option autoImplicit false

namespace FileTags.Pattern

open Text

variable {r r' : Reading} {s : Sign} {rest signs : List Sign} {x : PatternFault}

/-! ## Errors behind a line start -/

theorem Gives.eq_malformed {α : Type} {P : α → Prop} {a : Except PatternFault α} (h : Gives P a)
    (ha : a = .error x) : x = .malformed := by
  rw [ha] at h
  exact h

theorem quantify_gives (r : Reading) (least : Nat) (most : Option Nat) (taken : Nat)
    (rest : List Sign) :
    OnlyMalformed (quantify r least most taken rest) := by
  simp only [quantify]
  split
  · exact .error
  · exact .error
  · exact .error
  · exact .ok trivial
  · exact .ok trivial

theorem quantifyBraces_error (h : quantifyBraces r rest = .error x) (hx : x ≠ .malformed)
    (other : Reading) :
    quantifyBraces other rest = .error x := by
  rw [quantifyBraces] at h ⊢
  split at h
  · cases h
  · next low high taken hbraces =>
    dsimp only
    split at h
    · exact absurd (Except.error.inj h).symm hx
    · next hend =>
      rw [if_neg hend]
      cases hlow : bound? low with
      | error y => rwa [hlow] at h
      | ok least =>
        cases hhigh : bound? high with
        | error y => rwa [hlow, hhigh] at h
        | ok most =>
          rw [hlow, hhigh] at h
          have hgives : OnlyMalformed (if most.any (· < least.getD 0) then .error .malformed
              else quantify r (least.getD 0) most taken rest) :=
            .ite (fun _ => .error) fun _ => quantify_gives r _ _ _ _
          exact absurd (hgives.eq_malformed h) hx

/-- An error that tells of more than malformed source is one of braces, and does not depend on what
has been read before them. -/
theorem Reading.Begun.step_error (hr : r.Begun) (h : Pattern.step r s rest = .error x)
    (hx : x ≠ .malformed) (other : Reading) : Pattern.step other s rest = .error x := by
  by_cases hs : s = .plain (.char '\x7b')
  · subst hs
    rw [step_brace] at h ⊢
    exact quantifyBraces_error h hx other
  · exact absurd ((hr.step_gives hs rest).eq_malformed h) hx

theorem Stacks.begunAt {f f' : Frame} {outer outer' : List Frame} (h : Stacks f outer f' outer') :
    BegunAt f' outer' := by
  induction h with
  | whole h => cases h <;> exact ⟨rfl, by simp⟩
  | group f _ ih => exact ih

theorem Behind.begun_behind (h : Behind r r') : r'.Begun := by
  cases h with
  | mk frames flags => exact ⟨frames.begunAt, flags⟩

/-- An error behind the line start that tells of more than malformed source is the error without
it. -/
theorem Behind.readFrom_error (h : Behind r r') {pending : Nat}
    (he : Pattern.readFrom r' pending signs = .error x) (hx : x ≠ .malformed) :
    Pattern.readFrom r pending signs = .error x := by
  induction signs generalizing r r' pending with
  | nil => cases he
  | cons s rest ih =>
    cases pending with
    | succ pending => exact ih h he
    | zero =>
      rw [Pattern.readFrom] at he ⊢
      cases hs : Pattern.step r' s rest with
      | error y =>
        rw [hs] at he
        obtain rfl := Except.error.inj he
        rw [h.begun_behind.step_error hs hx r]
      | ok q =>
        rw [hs] at he
        obtain ⟨p, hp, hnext, htaken⟩ := h.step s rest q hs
        rw [hp]
        exact ih hnext (htaken ▸ he)

/-! ## The end of the source -/

/-- A pattern without flags that is refused at its end: a group is open, a group is asked for that
there is not, or a look-behind has no width. -/
def Reading.isUnfinished (r : Reading) : Bool :=
  !r.outer.isEmpty || r.asked.any (r.groups.length ≤ ·) || r.uneven

theorem Reading.finish_eq (h : r.flags = []) :
    r.finish = if r.isUnfinished then .error .malformed
      else .ok ⟨r.frame.body, .ofFlags [], r.groups.length - 1, r.names⟩ := by
  rw [Reading.finish, Reading.conflicting, h, Reading.isUnfinished]
  cases r.outer <;> cases r.asked.any (r.groups.length ≤ ·) <;> cases r.uneven <;> rfl

theorem Reading.finish_error_iff (h : r.flags = []) :
    r.finish = .error x ↔ r.isUnfinished = true ∧ x = .malformed := by
  rw [finish_eq h]
  cases r.isUnfinished with
  | true => simp [eq_comm]
  | false => simp

theorem Behind.isUnfinished (h : Behind r r') : r'.isUnfinished = r.isUnfinished := by
  cases h with
  | mk frames flags =>
    obtain ⟨frame, out, _⟩ := r
    cases frames <;> rfl

/-! ## Signs as a program -/

def programOf (signs : List Sign) : Except PatternFault Program :=
  readFrom .start 0 signs >>= Reading.finish

theorem ofText_eq_programOf (t : Text) : Program.ofText t = programOf (Sign.ofText t) := by
  rw [Program.ofText, programOf]
  cases readFrom .start 0 (Sign.ofText t) <;> rfl

theorem programOf_lineStart (signs : List Sign) :
    programOf (.plain (.char '^') :: signs) =
      readFrom (Reading.start.push (.assertion .lineStart)) 0 signs >>= Reading.finish := rfl

theorem programOf_malformed (h : programOf signs = .error .malformed) :
    programOf (.plain (.char '^') :: signs) = .error .malformed := by
  rw [programOf_lineStart]
  cases hread : readFrom (Reading.start.push (.assertion .lineStart)) 0 signs with
  | error x =>
    by_cases hx : x = .malformed
    · rw [hx]
      rfl
    · rw [programOf, Behind.start.readFrom_error hread hx] at h
      exact absurd (Except.error.inj h) hx
  | ok r' =>
    obtain ⟨r, hr, hbehind⟩ := Behind.start.readFrom 0 signs r' hread
    have hflags : r.flags = [] := by cases hbehind; assumption
    rw [programOf, hr] at h
    obtain ⟨hrefused, -⟩ := (Reading.finish_error_iff hflags).mp h
    exact (Reading.finish_error_iff hbehind.begun_behind.flags).mpr
      ⟨hbehind.isUnfinished.trans hrefused, rfl⟩

/-- Behind a line start a dollar sign at the end changes nothing in what is refused. -/
theorem programOf_ending (e : Ending) (hd : .dangling ∉ signs) :
    programOf (.plain (.char '^') :: (signs ++ [e.sign])) = .error x ↔
    programOf (.plain (.char '^') :: signs) = .error x := by
  rw [programOf_lineStart, programOf_lineStart]
  rcases readFrom_ending (e := e) (Reading.start.push (.assertion .lineStart)) (Nat.zero_le _) hd
    with hplain | ⟨next, hnext, hverbose, hcomment⟩
  · rw [hplain]
    cases hread : readFrom (Reading.start.push (.assertion .lineStart)) 0 signs with
    | error y => rfl
    | ok next =>
      obtain ⟨_, -, hbehind⟩ := Behind.start.readFrom 0 signs next hread
      have hflags := hbehind.begun_behind.flags
      exact (Reading.finish_error_iff (r := next.push e.item) hflags).trans
        (Reading.finish_error_iff hflags).symm
  · rw [hcomment, hnext]

/-! ## A backslash that dangles -/

def backslashes (t : Text) : Nat := (t.rtakeWhile (· == .char '\\')).length

theorem backslashes_le (t : Text) : backslashes t ≤ t.length :=
  (List.rtakeWhile_suffix _ t).length_le

theorem backslashes_cons (c : Rune) (t : Text) :
    backslashes (c :: t) =
      if backslashes t = t.length ∧ c = .char '\\' then t.length + 1 else backslashes t := by
  have hback : backslashes t = (t.reverse.takeWhile (· == .char '\\')).length := by
    rw [backslashes, List.rtakeWhile, List.length_reverse]
  have hcons : backslashes (c :: t) = ((t.reverse ++ [c]).takeWhile (· == .char '\\')).length := by
    rw [backslashes, List.rtakeWhile, List.length_reverse, List.reverse_cons]
  rw [hcons, List.takeWhile_append, List.length_reverse, ← hback]
  by_cases ht : backslashes t = t.length
  · by_cases hc : c = .char '\\' <;> simp [ht, hc]
  · rw [if_neg ht, if_neg fun h => ht h.1]
    exact hback.symm

/-- A backslash dangles if the text ends with an odd number of them. -/
theorem dangling_mem_iff (t : Text) : .dangling ∈ Sign.ofText t ↔ backslashes t % 2 = 1 := by
  fun_induction Sign.ofText t
  case case1 => decide
  case case2 => decide
  case case3 c rest ih =>
    have hle := backslashes_le rest
    rw [List.mem_cons, or_iff_right (by simp), ih, backslashes_cons (.char '\\'),
      backslashes_cons c, List.length_cons]
    by_cases hall : backslashes rest = rest.length ∧ c = .char '\\'
    · rw [if_pos hall, if_pos ⟨rfl, rfl⟩]
      omega
    · rw [if_neg hall, if_neg (by omega)]
  case case4 c rest hlone hescape ih =>
    have hc : c ≠ .char '\\' := by
      intro hc
      cases rest with
      | nil => exact hlone hc rfl
      | cons d rest => exact hescape d rest hc rfl
    rw [List.mem_cons, or_iff_right (by simp), ih, backslashes_cons, if_neg fun h => hc h.2]

/-- The text is its front with a backslash behind it that no backslash of the front escapes. -/
def DanglesBehind (front t : Text) : Prop := t = front ++ [.char '\\'] ∧ backslashes front % 2 = 0

theorem exists_danglesBehind {t : Text} (h : .dangling ∈ Sign.ofText t) :
    ∃ front, DanglesBehind front t := by
  obtain ⟨signs, hsigns⟩ := ofText_dangling h
  have ht : t = signs.flatMap Sign.written ++ [.char '\\'] := by
    rw [← flatMap_written_ofText t, hsigns, List.flatMap_append]
    rfl
  have hodd := (dangling_mem_iff t).mp h
  rw [ht, backslashes, List.rtakeWhile_concat_pos _ _ _ rfl, List.length_append,
    List.length_singleton] at hodd
  exact ⟨_, ht, by rw [backslashes]; omega⟩

namespace DanglesBehind

variable {front t : Text}

theorem not_mem (h : DanglesBehind front t) : .dangling ∉ Sign.ofText front := fun hd => by
  have hodd := (dangling_mem_iff front).mp hd
  have heven := h.2
  omega

theorem anchored_eq (h : DanglesBehind front t) :
    anchored t = .char '^' :: (front ++ [.char '\\', .char '$']) := by
  have hlast : t.getLast? ≠ some (.char '$') := by
    rw [h.1, List.getLast?_concat]
    decide
  rw [anchored, if_neg fun hboth => hlast hboth.2, h.1, List.cons_append, List.append_assoc]
  rfl

end DanglesBehind

/-! ## Malformed text between anchors -/

variable {t : Text}

theorem ofSource_eq_error_iff : ofSource t = .error x ↔ Program.ofText (anchored t) = .error x := by
  rw [ofSource]
  split <;> simp_all

/-- Text without a backslash that dangles is malformed between the anchors if it is so alone. -/
theorem ofSource_malformed (hd : .dangling ∉ Sign.ofText t)
    (h : Program.ofText t = .error .malformed) : ofSource t = .error .malformed := by
  rw [ofSource_eq_error_iff, anchored]
  split
  · exact h
  · rw [ofText_eq_programOf] at h ⊢
    have hsigns : Sign.ofText (.char '^' :: t ++ [.char '$']) =
        .plain (.char '^') :: (Sign.ofText t ++ [Ending.line.sign]) :=
      congrArg (Sign.plain (.char '^') :: ·) (ofText_append hd [.char '$'])
    rw [hsigns, programOf_ending .line hd]
    exact programOf_malformed h

/-- A backslash that dangles takes the dollar sign for a character: what stands in front of it
decides what is refused. -/
theorem DanglesBehind.ofSource_error_iff {front : Text} (h : DanglesBehind front t) :
    ofSource t = .error x ↔ Program.ofText (.char '^' :: front) = .error x := by
  rw [ofSource_eq_error_iff, h.anchored_eq, ofText_eq_programOf, ofText_eq_programOf]
  have hsigns : Sign.ofText (.char '^' :: (front ++ [.char '\\', .char '$'])) =
      .plain (.char '^') :: (Sign.ofText front ++ [Ending.character.sign]) :=
    congrArg (Sign.plain (.char '^') :: ·) (ofText_append h.not_mem [.char '\\', .char '$'])
  rw [hsigns]
  exact programOf_ending .character h.not_mem

/-- The text is refused as malformed, and named, in a term as in a renaming of any tags to any
replacement. -/
def IsRefused (t : Text) : Prop :=
  Filter.patternOf t = .error (.badPattern t .malformed) ∧
    ∀ replace m, Command.renamed t replace m = .error (.badPattern t .malformed)

theorem isRefused_iff_ofSource : IsRefused t ↔ ofSource t = .error .malformed := by
  rw [IsRefused, Filter.patternOf]
  simp only [Command.renamed]
  cases hread : ofSource t with
  | ok p => simp
  | error e => simp +contextual

/-- Text that is malformed alone is refused with the anchors too, unless it ends with a backslash
that dangles. Then it is refused exactly if what stands in front of the backslash is malformed
behind the line start. -/
theorem isRefused_iff (h : Program.ofText t = .error .malformed) :
    IsRefused t ↔ ∀ front, DanglesBehind front t →
    Program.ofText (.char '^' :: front) = .error .malformed := by
  rw [isRefused_iff_ofSource]
  constructor
  · intro hrefused front hfront
    exact hfront.ofSource_error_iff.mp hrefused
  · intro hfronts
    by_cases hd : .dangling ∈ Sign.ofText t
    · obtain ⟨front, hfront⟩ := exists_danglesBehind hd
      exact hfront.ofSource_error_iff.mpr (hfronts front hfront)
    · exact ofSource_malformed hd h

/-- A group that is open stays open between the anchors. -/
theorem isRefused_open_group : Program.ofText (Text.ofString "(a") = .error .malformed ∧
    IsRefused (Text.ofString "(a") :=
  have h : Program.ofText (Text.ofString "(a") = .error .malformed := by decide +kernel
  ⟨h, (isRefused_iff h).mpr fun front hfront =>
    absurd (congrArg List.getLast? hfront.1) (by simp [ofString])⟩

/-- A letter and a backslash are no pattern, but between the anchors they are, and rename the tag of
the letter and a dollar sign. -/
theorem not_isRefused_backslash :
    Program.ofText [.char 'a', .char '\\'] = .error .malformed ∧
    ¬ IsRefused [.char 'a', .char '\\'] ∧
      Command.renamed [.char 'a', .char '\\'] (some [.char 'b'])
        (.ofList [([.char 'a', .char '$'], none)]) = .ok (.ofList [([.char 'b'], none)]) := by
  have hrenamed : Command.renamed [.char 'a',
      .char '\\'] (some [.char 'b']) (.ofList [([.char 'a', .char '$'], none)]) =
      .ok (.ofList [([.char 'b'], none)]) := by
    decide +kernel
  refine ⟨by decide +kernel, fun h => ?_, hrenamed⟩
  rw [h.2] at hrenamed
  cases hrenamed

end FileTags.Pattern

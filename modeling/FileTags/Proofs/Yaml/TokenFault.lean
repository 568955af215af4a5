import FileTags.Yaml.Layout

/-!
# Faults among the tokens of a YAML text

A text that cannot be cut into tokens has bad syntax, an escape for a code point that does not
exist, or a version with more digits than can be read. No token but the last one tells of a fault.
-/

set_option autoImplicit false

namespace FileTags.Yaml

inductive IsTokenFault : YamlFault → Prop
  | malformed : IsTokenFault .malformed
  | noCharacter : IsTokenFault .noCharacter
  | tooManyDigits (e : Text.TooManyDigits) : IsTokenFault (.tooManyDigits e)

/-- What is read satisfies a predicate, and so does the fault of what is not read. -/
inductive Gives {α : Type} (E : YamlFault → Prop) (P : α → Prop) : Except YamlFault α → Prop
  | ok {x : α} (h : P x) : Gives E P (.ok x)
  | fault {e : YamlFault} (h : E e) : Gives E P (.error e)

abbrev Scans {α : Type} (r : Except YamlFault α) : Prop := Gives IsTokenFault (fun _ => True) r

namespace Gives

variable {α β : Type} {E : YamlFault → Prop} {P : α → Prop} {Q : β → Prop} {r : Except YamlFault α}

theorem error : Gives IsTokenFault P (.error .malformed) := .fault .malformed

theorem of_ok {x : α} (hr : Gives E P r) (h : r = .ok x) : P x := by
  subst h
  cases hr
  assumption

theorem of_error {e : YamlFault} (hr : Gives E P r) (h : r = .error e) : E e := by
  subst h
  cases hr
  assumption

theorem map {f : α → β} (hr : Gives E P r) (hf : ∀ x, P x → Q (f x)) : Gives E Q (r.map f) := by
  cases hr with
  | ok h => exact .ok (hf _ h)
  | fault h => exact .fault h

theorem bind {f : α → Except YamlFault β} (hr : Gives E P r) (hf : ∀ x, P x → Gives E Q (f x)) :
    Gives E Q (r >>= f) := by
  cases hr with
  | ok h => exact hf _ h
  | fault h => exact .fault h

theorem ite {p : Prop} [Decidable p] {r' : Except YamlFault α} (h : Gives E P r)
    (h' : Gives E P r') : Gives E P (if p then r else r') := by
  split
  · exact h
  · exact h'

theorem mapM {f : β → Except YamlFault α} (hf : ∀ y, Gives E (fun _ => True) (f y)) (ys : List β) :
    Gives E (fun _ => True) (ys.mapM f) := by
  induction ys with
  | nil => exact .ok trivial
  | cons y ys ih =>
    rw [List.mapM_cons]
    exact .bind (hf y) fun _ _ => .bind ih fun _ _ => .ok trivial

end Gives

/-! ## Scalars -/

theorem quotedBreaks_scans (fuel : Nat) (c : Cursor) : Scans (quotedBreaks fuel c) := by
  induction fuel generalizing c with
  | zero => exact .error
  | succ fuel ih =>
    rw [quotedBreaks]
    exact .ite .error (.ite (.bind (ih _) fun _ _ => .ok trivial) (.ok trivial))

theorem readEscape_scans (fuel : Nat) (c : Cursor) : Scans (readEscape fuel c) := by
  rw [readEscape]
  split
  · exact .ok trivial
  · exact .ite .error (.ite (.fault .noCharacter) (.ok trivial))
  · exact .ite (quotedBreaks_scans _ _) .error

theorem readQuoted_scans (quote : Rune) (fuel : Nat) (c : Cursor) :
    Scans (readQuoted quote fuel c) := by
  induction fuel generalizing c with
  | zero => exact .error
  | succ fuel ih =>
    have hmore (part : Text) (c : Cursor) : Scans (do
        let x ← readQuoted quote fuel c
        return (part ++ x.1, x.2)) := .bind (ih c) fun _ _ => .ok trivial
    rw [readQuoted]
    refine .ite .error (.ite (.ite (hmore _ _) (.ok trivial))
      (.ite (.bind (readEscape_scans _ _) fun _ _ => hmore _ _) (.ite ?_ (hmore _ _))))
    exact .ite (.bind (quotedBreaks_scans _ _) fun _ _ => hmore _ _) (hmore _ _)

theorem blockHeader_scans (c : Cursor) : Scans (blockHeader c) := by
  have hended (header : Chomping × Option Nat × Cursor) : Scans (
      if header.2.1 = some 0 || !isSpaceOrEnd header.2.2.peek then .error .malformed
      else if isEnd header.2.2.skipSpaces.skipComment.peek then
        .ok (header.1, header.2.1, header.2.2.skipSpaces.skipComment.lineBreak.2)
      else .error .malformed) := .ite .error (.ite (.ok trivial) .error)
  exact hended _

theorem readBlock_scans (folded : Bool) (parent : Int) (c : Cursor) :
    Scans (readBlock folded parent c) :=
  .bind (blockHeader_scans c) fun _ _ => .ok trivial

/-! ## Names, tags and directives -/

theorem readName_scans (c : Cursor) : Scans (readName c) := .ite .error (.ok trivial)

theorem escapedBytes_scans (fuel : Nat) (c : Cursor) : Scans (escapedBytes fuel c) := by
  induction fuel generalizing c with
  | zero => exact .ok trivial
  | succ fuel ih =>
    rw [escapedBytes]
    exact .ite (.ite .error (.bind (ih _) fun _ _ => .ok trivial)) (.ok trivial)

theorem addressParts_scans (fuel : Nat) (c : Cursor) : Scans (addressParts fuel c) := by
  induction fuel generalizing c with
  | zero => exact .ok trivial
  | succ fuel ih =>
    rw [addressParts]
    refine .ite (.bind (escapedBytes_scans _ _) fun _ _ =>
      ?_) (.ite (.bind (ih _) fun _ _ => .ok trivial) (.ok trivial))
    dsimp only
    split
    · exact .error
    · exact .bind (ih _) fun _ _ => .ok trivial

theorem readAddress_scans (c : Cursor) : Scans (readAddress c) :=
  .ite (addressParts_scans _ _) .error

theorem readHandle_scans (c : Cursor) : Scans (readHandle c) :=
  .ite .error (.ite (.ok trivial) (.ite (.ok trivial) .error))

theorem closed_scans (c : Cursor) : Scans (closed c) :=
  .bind (readAddress_scans c) fun _ _ => .ite (.ok trivial) .error

theorem withSuffix_scans (handle : Text) (c : Cursor) : Scans (withSuffix handle c) :=
  .bind (readAddress_scans c) fun _ _ => .ok trivial

theorem readTag_scans (c : Cursor) : Scans (readTag c) := by
  have hended (r : Except YamlFault (Option Text × Text × Cursor)) (hr : Scans r) : Scans (do
      let x ← r
      if isSpaceOrEnd x.2.2.peek then return (x.1, x.2.1, x.2.2) else .error .malformed) :=
    .bind hr fun _ _ => .ite (.ok trivial) .error
  have hnamed : Scans ((readHandle c).bind fun x => withSuffix x.1 x.2) :=
    .bind (readHandle_scans c) fun _ _ => withSuffix_scans _ _
  rw [readTag]
  exact .ite (hended _ (closed_scans _))
    (.ite (hended _ (.ok trivial)) (.ite (hended _ hnamed) (hended _ (withSuffix_scans _ _))))

theorem readVersionPart_scans (c : Cursor) : Scans (readVersionPart c) := by
  refine .ite .error ?_
  split
  · exact .ok trivial
  · exact .fault (.tooManyDigits _)

def Token.IsSound (t : Token) : Prop := ∀ e, t ≠ .fault e

theorem readVersion_gives (c : Cursor) :
    Gives IsTokenFault (fun r => r.1.IsSound) (readVersion c) := by
  refine .bind (readVersionPart_scans _) fun _ _ => .ite .error ?_
  exact .bind (readVersionPart_scans _) fun _ _ => .ite (.ok nofun) .error

theorem readTagHandle_gives (c : Cursor) :
    Gives IsTokenFault (fun r => r.1.IsSound) (readTagHandle c) := by
  refine .bind (readHandle_scans _) fun _ _ => .ite .error ?_
  exact .bind (readAddress_scans _) fun _ _ => .ite (.ok nofun) .error

theorem readDirective_gives (c : Cursor) :
    Gives IsTokenFault (fun r => r.1.IsSound) (readDirective c) := by
  have hended (r : Except YamlFault (Token × Cursor))
    (hr : Gives IsTokenFault (fun r => r.1.IsSound) r) : Gives IsTokenFault (fun r =>
    r.1.IsSound) (do
      let x ← r
      let c := x.2.skipSpaces.skipComment
      if isEnd c.peek then return (x.1, c.lineBreak.2) else .error .malformed) :=
    .bind hr fun _ ht => .ite (.ok ht) .error
  rw [readDirective]
  refine .ite .error ?_
  dsimp only
  split
  · exact hended _ (readVersion_gives _)
  · split
    · exact hended _ (readTagHandle_gives _)
    · exact hended (.ok _) (.ok nofun)

/-! ## Layout -/

namespace Layout

def IsSound (l : Layout) : Prop := ∀ t ∈ l.tokens, t.IsSound

variable {l : Layout} {t : Token}

theorem IsSound.emit (h : l.IsSound) (ht : t.IsSound) : (l.emit t).IsSound :=
  List.forall_mem_cons.mpr ⟨ht, h⟩

theorem IsSound.closeBlocks (h : l.IsSound) (column : Int) (indents : List Int) :
    (closeBlocks column indents l).IsSound := by
  induction indents generalizing l with
  | nil => exact h
  | cons outer rest ih =>
    rw [Layout.closeBlocks]
    split
    · exact h
    · exact ih (h.emit (t := .blockEnd) nofun)

theorem IsSound.unwind (h : l.IsSound) (column : Int) : (l.unwind column).IsSound := by
  rw [Layout.unwind]
  split
  · exact h
  · exact h.closeBlocks _ _

theorem IsSound.openBlock (h : l.IsSound) (ht : t.IsSound) : (l.openBlock t).IsSound := by
  rw [Layout.openBlock]
  split
  · exact h.emit ht
  · exact h

theorem IsSound.skipLines (h : l.IsSound) (fuel : Nat) : (l.skipLines fuel).IsSound := by
  induction fuel generalizing l with
  | zero => exact h
  | succ fuel ih =>
    rw [Layout.skipLines]
    split
    · exact ih h
    · exact h

theorem IsSound.toToken (h : l.IsSound) : l.toToken.IsSound := by
  rw [Layout.toToken]
  split
  · exact IsSound.skipLines (l := { l with cursor := l.cursor.step }) h _
  · exact h.skipLines _

theorem IsSound.settle (h : l.IsSound) (k : PendingKey) : (l.settle k).IsSound := by
  rw [Layout.settle]
  split <;> exact h

theorem freshen_scans (l : Layout) (k : Option PendingKey) : Scans (l.freshen k) := by
  cases k with
  | none => exact .ok trivial
  | some k => exact .ite (.ok trivial) (.ite .error (.ok trivial))

theorem IsSound.dropStale (h : l.IsSound) : Gives IsTokenFault IsSound l.dropStale := by
  exact .bind (freshen_scans _ _) fun _ _ =>
    .bind (.mapM (freshen_scans l) l.outer) fun _ _ => .ok h

theorem IsSound.dropKey (h : l.IsSound) : Gives IsTokenFault IsSound l.dropKey :=
  .ite .error (.ok h)

theorem IsSound.holdKey (h : l.IsSound) : Gives IsTokenFault IsSound l.holdKey :=
  .ite (.bind h.dropKey fun _ hl => .ok hl) (.ok h)

theorem IsSound.outermost (h : l.IsSound) : Gives IsTokenFault IsSound l.outermost :=
  .bind (h.unwind _).dropKey fun _ hl => .ok hl

theorem IsSound.directive (h : l.IsSound) : Gives IsTokenFault IsSound l.directive :=
  .bind h.outermost fun _ hl => .bind (readDirective_gives _) fun _ ht => .ok (hl.emit ht)

theorem IsSound.marker (h : l.IsSound) (ht : t.IsSound) : Gives IsTokenFault IsSound (l.marker t) :=
  .bind h.outermost fun _ hl => .ok (hl.emit ht)

theorem IsSound.openFlow (h : l.IsSound) (ht : t.IsSound) :
    Gives IsTokenFault IsSound (l.openFlow t) :=
  .bind h.holdKey fun _ hl => .ok (hl.emit ht)

theorem IsSound.closeFlow (h : l.IsSound) (ht : t.IsSound) :
    Gives IsTokenFault IsSound (l.closeFlow t) := by
  refine .bind h.dropKey fun l hl => ?_
  split
  · exact .error
  · exact .ok (hl.emit ht)

theorem IsSound.flowEntry (h : l.IsSound) : Gives IsTokenFault IsSound l.flowEntry :=
  .bind (IsSound.dropKey h) fun _ hl => .ok (hl.emit (t := .flowEntry) nofun)

theorem IsSound.blockFor (h : l.IsSound) (ht : t.IsSound) :
    Gives IsTokenFault IsSound (l.blockFor t) :=
  .ite (.ok h) (.ite (.ok (h.openBlock ht)) .error)

theorem IsSound.blockEntry (h : l.IsSound) : Gives IsTokenFault IsSound l.blockEntry :=
  .bind (h.blockFor nofun) fun _ hl => .bind (IsSound.dropKey hl) fun _ hl =>
    .ok (hl.emit (t := .blockEntry) nofun)

theorem IsSound.explicitKey (h : l.IsSound) : Gives IsTokenFault IsSound l.explicitKey :=
  .bind (h.blockFor nofun) fun _ hl => .bind (IsSound.dropKey hl) fun _ hl =>
    .ok (hl.emit (t := .key) nofun)

theorem IsSound.colon (h : l.IsSound) : Gives IsTokenFault IsSound l.colon := by
  rw [Layout.colon]
  split
  · exact .ok ((h.settle _).emit (t := .value) nofun)
  · exact .bind (h.blockFor nofun) fun _ hl => .ok (hl.emit (t := .value) nofun)

theorem IsSound.content (h : l.IsSound) {read : Cursor → Except YamlFault (Token × Cursor)}
    (hread : ∀ c, Gives IsTokenFault (fun r => r.1.IsSound) (read c)) :
    Gives IsTokenFault IsSound (l.content read) :=
  .bind h.holdKey fun _ hl => .bind (hread _) fun _ ht => .ok (hl.emit ht)

theorem IsSound.block (h : l.IsSound) (folded : Bool) :
    Gives IsTokenFault IsSound (l.block folded) :=
  .bind (IsSound.dropKey h) fun _ hl => .bind (readBlock_scans _ _ _) fun _ _ =>
    .ok (hl.emit (t := .scalar _) nofun)

theorem IsSound.plain (h : l.IsSound) : Gives IsTokenFault IsSound l.plain :=
  .bind h.holdKey fun _ hl => .ok (hl.emit (t := .scalar _) nofun)

theorem named_gives {make : Text → Token} (hmake : ∀ t, (make t).IsSound) (c : Cursor) :
    Gives IsTokenFault (fun r => r.1.IsSound) (named make c) :=
  .map (readName_scans c) fun _ _ => hmake _

theorem tagged_gives (c : Cursor) : Gives IsTokenFault (fun r => r.1.IsSound) (tagged c) :=
  .map (readTag_scans c) fun _ _ => nofun

theorem inQuotes_gives (quote : Rune) (c : Cursor) :
    Gives IsTokenFault (fun r => r.1.IsSound) (inQuotes quote c) :=
  .map (readQuoted_scans _ _ _) fun _ _ => nofun

theorem IsSound.token (h : l.IsSound) : Gives IsTokenFault IsSound l.token := by
  rw [Layout.token]
  repeat' apply Gives.ite
  · exact h.directive
  · exact h.marker nofun
  · exact h.marker nofun
  · exact h.openFlow nofun
  · exact h.openFlow nofun
  · exact h.closeFlow nofun
  · exact h.closeFlow nofun
  · exact h.flowEntry
  · exact h.blockEntry
  · exact h.explicitKey
  · exact h.colon
  · exact h.content (named_gives nofun)
  · exact h.content (named_gives nofun)
  · exact h.content tagged_gives
  · exact h.block _
  · exact h.block _
  · exact h.content (inQuotes_gives _)
  · exact h.plain
  · exact .error

theorem isSound_of_mem_keyAt {settled : List (Nat × Bool)} {number : Nat}
    (h : t ∈ keyAt settled number) : t.IsSound := by
  rw [keyAt] at h
  split at h
  · cases h
  · rintro e rfl
    split at h <;> simp at h

theorem isSound_of_mem_lineUp {settled : List (Nat × Bool)} {number : Nat} {ts : List Token}
    (hts : ∀ t ∈ ts, t.IsSound) (h : t ∈ lineUp settled number ts) : t.IsSound := by
  induction ts generalizing number with
  | nil => cases h
  | cons first ts ih =>
    obtain ⟨hfirst, hts⟩ := List.forall_mem_cons.mp hts
    rw [lineUp, List.mem_append, List.mem_cons] at h
    rcases h with h | rfl | h
    · exact isSound_of_mem_keyAt h
    · exact hfirst
    · exact ih hts h

theorem IsSound.result (h : l.IsSound) (ht : t ∈ l.result) : t.IsSound :=
  isSound_of_mem_lineUp (fun t ht => h t (List.mem_reverse.mp ht)) ht

theorem IsSound.firm (h : l.IsSound) (ht : t ∈ l.firm) : t.IsSound :=
  isSound_of_mem_lineUp (fun t ht => h t (List.mem_reverse.mp (List.mem_of_mem_take ht))) ht

/-- A fault that stands behind firm tokens is the one that was met there. -/
theorem IsSound.fault_of_mem (h : l.IsSound) {e e' : YamlFault} (he' : IsTokenFault e')
    (he : Token.fault e ∈ l.firm ++ [.fault e']) :
    IsTokenFault e := by
  rcases List.mem_append.mp he with he | he
  · exact absurd rfl (h.firm he e)
  · obtain rfl : e = e' := by simpa using he
    exact he'

section Run

-- Without this, opening `run` looks into the lines that are skipped, as far as there are any.
attribute [local irreducible] Layout.toToken

theorem run_succ (fuel : Nat) (l : Layout) : l.run (fuel + 1) =
    match l.toToken.dropStale with
    | .error e => l.firm ++ [.fault e]
    | .ok here =>
      let ready := here.unwind here.cursor.column
      if ready.cursor.rest.isEmpty then
        match ready.outermost with
        | .error e => here.firm ++ [.fault e]
        | .ok ended => (ended.emit .streamEnd).result
      else
        match ready.token with
        | .error e => here.firm ++ [.fault e]
        | .ok next => next.run fuel := rfl

theorem IsSound.run (h : l.IsSound) (fuel : Nat) {e : YamlFault} (he : .fault e ∈ l.run fuel) :
    IsTokenFault e := by
  induction fuel generalizing l with
  | zero => exact h.fault_of_mem .malformed he
  | succ fuel ih =>
    rw [run_succ] at he
    have hdrop := h.toToken.dropStale
    cases hstale : l.toToken.dropStale with
    | error e' =>
      rw [hstale] at he
      exact h.fault_of_mem (hdrop.of_error hstale) he
    | ok here =>
      have hhere := hdrop.of_ok hstale
      have hready := hhere.unwind here.cursor.column
      rw [hstale] at he
      dsimp only at he
      split at he
      · cases hout : (here.unwind here.cursor.column).outermost with
        | error e' =>
          rw [hout] at he
          exact hhere.fault_of_mem (hready.outermost.of_error hout) he
        | ok ended =>
          rw [hout] at he
          exact absurd rfl
            (((hready.outermost.of_ok hout).emit (t := .streamEnd) nofun).result he e)
      · cases htoken : (here.unwind here.cursor.column).token with
        | error e' =>
          rw [htoken] at he
          exact hhere.fault_of_mem (hready.token.of_error htoken) he
        | ok next =>
          rw [htoken] at he
          exact ih (hready.token.of_ok htoken) he

end Run

end Layout

end FileTags.Yaml

import FileTags.Proofs.Yaml.TokenFault
import FileTags.Yaml.Value
import Mathlib.Data.List.Infix

/-!
# Where the faults of a YAML text come from

A text that is no data has bad syntax, or something in it has no value. Reading nodes from tokens
fails for bad syntax only, or with a fault that stands among the tokens: this is by induction on the
bound of the steps, for all kinds of nodes at once. Reading data from nodes fails for bad syntax
only, or with the fault of a scalar.
-/

set_option autoImplicit false

namespace FileTags.Yaml

namespace Reader

/-- A reader takes tokens away, and fails for bad syntax or with a fault among the tokens that it
was given. -/
def Faithful {α : Type} (m : Reading α) : Prop :=
  ∀ r, match m.run r with
    | .ok (_, r') => r'.tokens ⊆ r.tokens
    | .error e => e = .malformed ∨ Token.fault e ∈ r.tokens

namespace Faithful

variable {α β : Type} {m : Reading α} {f : α → Reading β}

theorem pure (x : α) : Faithful (Pure.pure x : Reading α) := fun _ => List.Subset.refl _

theorem fail : Faithful (Reader.fail : Reading α) := fun _ => .inl rfl

theorem state : Faithful (get : Reading Reader) := fun _ => List.Subset.refl _

theorem change {step : Reader → Reader} (h : ∀ r, (step r).tokens ⊆ r.tokens) :
    Faithful (modify step : Reading PUnit) := h

theorem bind (hm : Faithful m) (hf : ∀ x, Faithful (f x)) : Faithful (m >>= f) := by
  intro r
  rw [StateT.run_bind]
  have hr := hm r
  rcases h : m.run r with e | ⟨x, r'⟩
  · rw [h] at hr
    exact hr
  · rw [h] at hr
    have hr' := hf x r'
    change match (f x).run r' with
      | .ok (_, r'') => r''.tokens ⊆ r.tokens
      | .error e => e = .malformed ∨ Token.fault e ∈ r.tokens
    rcases h' : (f x).run r' with e | ⟨y, r''⟩ <;> rw [h'] at hr'
    · exact hr'.imp_right fun he => hr he
    · exact List.Subset.trans hr' hr

theorem ite {p : Prop} [Decidable p] {m' : Reading α} (hm : Faithful m) (hm' : Faithful m') :
    Faithful (if p then m else m') := by
  split
  · exact hm
  · exact hm'

theorem error {r : Reader} {e : YamlFault} (hm : Faithful m)
    (h : (m.run r).map Prod.fst = .error e) :
    e = .malformed ∨ Token.fault e ∈ r.tokens := by
  have hr := hm r
  rcases hrun : m.run r with e' | ⟨x, r'⟩ <;> rw [hrun] at h hr <;> cases h
  exact hr

end Faithful

theorem run_peek (r : Reader) : peek.run r =
    match r.tokens with
    | [] => .error .malformed
    | .fault e :: _ => .error e
    | t :: _ => .ok (t, r) := by
  rw [peek, StateT.run_bind]
  change StateT.run _ r = _
  rcases r.tokens with _ | ⟨t, ts⟩
  · rfl
  · cases t <;> rfl

theorem faithful_peek : Faithful peek := by
  rintro ⟨tokens, handles, anchors⟩
  rw [run_peek]
  rcases tokens with _ | ⟨t, ts⟩
  · exact .inl rfl
  · cases t <;> first | exact .inr List.mem_cons_self | exact fun _ h => h

theorem faithful_skip : Faithful skip := .change fun r => List.tail_subset r.tokens

theorem faithful_name (anchor : Option Text) (n : Node) : Faithful (name anchor n) := by
  cases anchor with
  | none => exact .pure _
  | some a => exact .change fun r => List.Subset.refl _

/-! ## Anchors and tags -/

theorem faithful_fullTag (handle : Option Text) (suffix : Text) :
    Faithful (fullTag handle suffix) := by
  cases handle with
  | none => exact .pure _
  | some h =>
    refine .bind .state fun r => ?_
    split
    · exact .pure _
    · exact .fail

theorem faithful_tag : Faithful tag? := by
  refine .bind faithful_peek fun t => ?_
  split
  · exact .bind faithful_skip fun _ => .pure _
  · exact .pure _

theorem faithful_anchor : Faithful anchor? := by
  refine .bind faithful_peek fun t => ?_
  split
  · exact .bind faithful_skip fun _ => .pure _
  · exact .pure _

theorem faithful_properties : Faithful properties := by
  refine .bind faithful_anchor fun early => .bind faithful_tag fun tag => ?_
  cases tag with
  | none => exact .ite (.bind faithful_anchor fun _ => .pure _) (.bind (.pure _) fun _ => .pure _)
  | some t =>
    have hrest (anchor : Option Text) : Faithful (do return (anchor, some (← fullTag t.1 t.2))) :=
      .bind (faithful_fullTag _ _) fun _ => .pure _
    exact .ite (.bind faithful_anchor hrest) (.bind (.pure _) hrest)

theorem faithful_checkAnchor (anchor : Option Text) : Faithful (checkAnchor anchor) := by
  cases anchor with
  | none => exact .pure _
  | some a => exact .bind .state fun r => .ite .fail (.pure _)

theorem faithful_aliased (a : Text) : Faithful (aliased a) := by
  refine .bind .state fun r => ?_
  split
  · exact .pure _
  · exact .fail

/-! ## Nodes -/

structure NodesFaithful (fuel : Nat) : Prop where
  node (place : Place) : Faithful (node place fuel)
  nodeUnless (stops : List Token) (place : Place) : Faithful (nodeUnless stops place fuel)
  valueUnless (stops : List Token) (place : Place) : Faithful (valueUnless stops place fuel)
  blockItems : Faithful (blockItems fuel)
  entryItems : Faithful (entryItems fuel)
  blockEntries : Faithful (blockEntries fuel)
  flowEntry (stops : List Token) : Faithful (flowEntry stops fuel)
  flowItems (first : Bool) : Faithful (flowItems first fuel)
  flowEntries (first : Bool) : Faithful (flowEntries first fuel)

theorem faithful_named {α : Type} {read : Reading α} (hread : Faithful read) (anchor : Option Text)
    (start : Node) (make : α → Node) :
    Faithful (do
      name anchor start
      let n := make (← read)
      name anchor n
      return n) :=
  .bind (faithful_name _ _) fun _ => .bind hread fun _ => .bind (faithful_name _ _) fun _ => .pure _

theorem NodesFaithful.node_succ {fuel : Nat} (h : NodesFaithful fuel) (place : Place) :
    Faithful (Reader.node place (fuel + 1)) := by
  rw [Reader.node]
  refine .bind faithful_peek fun t => ?_
  split
  · exact .bind faithful_skip fun _ => faithful_aliased _
  · refine .bind faithful_properties fun _ => .bind faithful_peek fun _ =>
      .bind (faithful_checkAnchor _) fun _ => ?_
    have hscalar (anchor : Option Text) (n : Node) : Faithful (do
        name anchor n
        return n) := .bind (faithful_name _ _) fun _ => .pure _
    dsimp only
    split
    · exact .bind faithful_skip fun _ => hscalar _ _
    · exact .bind faithful_skip fun _ => faithful_named (h.flowItems true) _ _ _
    · exact .bind faithful_skip fun _ => faithful_named (h.flowEntries true) _ _ _
    · exact faithful_named h.entryItems _ _ _
    · exact .bind faithful_skip fun _ => faithful_named h.blockItems _ _ _
    · exact .bind faithful_skip fun _ => faithful_named h.blockItems _ _ _
    · exact .bind faithful_skip fun _ => faithful_named h.blockEntries _ _ _
    · exact .bind faithful_skip fun _ => faithful_named h.blockEntries _ _ _
    · exact .ite (hscalar _ _) .fail

/-- Only the first item between brackets has no comma in front of it. -/
theorem faithful_behindComma {α : Type} {rest : Reading α} (hrest : Faithful rest) (first : Bool) :
    Faithful (do
      if !first then
        if (← peek) = .flowEntry then skip else fail
      rest) :=
  .ite (.bind faithful_peek fun _ =>
    .ite (.bind faithful_skip fun _ => hrest) (.bind .fail fun _ => hrest)) hrest

theorem NodesFaithful.flowItems_succ {fuel : Nat} (h : NodesFaithful fuel) (first : Bool) :
    Faithful (Reader.flowItems first (fuel + 1)) := by
  rw [Reader.flowItems]
  refine .bind faithful_peek fun t =>
    .ite (.bind faithful_skip fun _ => .pure _)
    (faithful_behindComma (.bind faithful_peek fun t => ?_) first)
  split
  · exact .bind faithful_skip fun _ => .pure _
  · exact .bind (h.flowEntry _) fun _ => .bind (h.flowItems false) fun _ => .pure _
  · exact .bind (h.node _) fun _ => .bind (h.flowItems false) fun _ => .pure _

theorem NodesFaithful.flowEntries_succ {fuel : Nat} (h : NodesFaithful fuel) (first : Bool) :
    Faithful (Reader.flowEntries first (fuel + 1)) := by
  rw [Reader.flowEntries]
  refine .bind faithful_peek fun t =>
    .ite (.bind faithful_skip fun _ => .pure _)
    (faithful_behindComma (.bind faithful_peek fun t => ?_) first)
  split
  · exact .bind faithful_skip fun _ => .pure _
  · exact .bind (h.flowEntry _) fun _ => .bind (h.flowEntries false) fun _ => .pure _
  · exact .bind (h.node _) fun _ => .bind (h.flowEntries false) fun _ => .pure _

theorem NodesFaithful.succ {fuel : Nat} (h : NodesFaithful fuel) : NodesFaithful (fuel + 1) where
  node := h.node_succ
  nodeUnless stops place := by
    rw [Reader.nodeUnless]
    exact .bind faithful_peek fun _ => .ite (.pure _) (h.node place)
  valueUnless stops place := by
    rw [Reader.valueUnless]
    exact .bind faithful_peek fun _ =>
      .ite (.bind faithful_skip fun _ => h.nodeUnless stops place) (.pure _)
  blockItems := by
    rw [Reader.blockItems]
    refine .bind faithful_peek fun t => ?_
    split
    · exact .bind faithful_skip fun _ => .bind (h.nodeUnless _ _) fun _ =>
        .bind h.blockItems fun _ => .pure _
    · exact .bind faithful_skip fun _ => .pure _
    · exact .fail
  entryItems := by
    rw [Reader.entryItems]
    refine .bind faithful_peek fun t => ?_
    split
    · exact .bind faithful_skip fun _ => .bind (h.nodeUnless _ _) fun _ =>
        .bind h.entryItems fun _ => .pure _
    · exact .pure _
  blockEntries := by
    rw [Reader.blockEntries]
    refine .bind faithful_peek fun t => ?_
    split
    · exact .bind faithful_skip fun _ => .bind (h.nodeUnless _ _) fun _ =>
        .bind (h.valueUnless _ _) fun _ =>
        .bind h.blockEntries fun _ => .pure _
    · exact .bind faithful_skip fun _ => .pure _
    · exact .fail
  flowEntry stops := by
    rw [Reader.flowEntry]
    exact .bind faithful_skip fun _ => .bind (h.nodeUnless _ _) fun _ =>
      .bind (h.valueUnless _ _) fun _ => .pure _
  flowItems := h.flowItems_succ
  flowEntries := h.flowEntries_succ

end Reader

/-- Why a text is no data although its syntax is good: an escape stands for no character, a version
has too many digits, or a scalar has no value of its kind. -/
inductive Valueless : YamlFault → Prop
  | escape : Valueless .noCharacter
  | version (e : Text.TooManyDigits) : Valueless (.tooManyDigits e)
  | scalar {kind : Kind} {value : Text} {e : YamlFault}
      (hkind : kind ∈ [.bool, .int, .float, .timestamp])
      (h : scalarDatum kind value = .error e) : Valueless e
  | map : Valueless .timestampMap

def Valued.Blames {α : Type} : Valued α → Prop
  | .ok _ => True
  | .error e => e.2 = .malformed ∨ Valueless e.2

namespace Valued.Blames

variable {α β : Type} {r : Valued α} {r' : Valued β}

theorem malformed (n : Nat) : Blames (.error (n, .malformed) : Valued α) := .inl rfl

theorem lower (h : r.Blames) : r.lower.Blames := by
  rcases r with e | x <;> exact h

theorem map (h : r.Blames) (f : α → β) : Blames (r.map f) := by
  rcases r with e | x <;> exact h

theorem ite {p : Prop} [Decidable p] {s : Valued α} (h : r.Blames) (h' : s.Blames) :
    Blames (if p then r else s) := by
  split
  · exact h
  · exact h'

theorem both (h : r.Blames) (h' : r'.Blames) : (Valued.both r r').Blames := by
  rcases r with e | x <;> rcases r' with e' | y
  · rw [Valued.both]
    split
    · exact h'
    · exact h
  · exact h
  · exact h'
  · trivial

theorem all {rs : List (Valued α)} (h : ∀ r ∈ rs, r.Blames) : (Valued.all rs).Blames := by
  induction rs with
  | nil => trivial
  | cons r rs ih =>
    obtain ⟨hr, hrs⟩ := List.forall_mem_cons.mp h
    exact (hr.both (ih hrs)).map _

end Valued.Blames

namespace Node

open FileTags.Yaml.Valued (Blames)

end Node

end FileTags.Yaml

import FileTags.Proofs.Command.Words
import Mathlib.Data.List.Forall2

/-!
# Files of a command line

A place that has to be filled takes an argument. It is left empty all the same where that argument
is itself two dashes behind a separator, as it is dropped like one. A command line with one
separator at most has files for its command.
-/

set_option autoImplicit false

namespace FileTags

namespace Usage

variable {u : Usage} {words : List Text} {w : Word} {ws : List Word} {a : Arity}
  {as places : List Arity} {ns : List Nat}
  {parsed r : Parsed} {n least most : Nat}

def Word.IsClear (w : Word) : Prop := w.isArgument = true → w.text ≠ [.char '-', .char '-']

/-- The words are behind each other in the words of a command line, and none of their arguments
could be a separator. -/
structure Follows (words : List Text) (ws : List Word) : Prop where
  sublist : (ws.map Word.text).Sublist words
  clear : ∀ w ∈ ws, w.IsClear

/-- What a place has been given comes from the words, and is not nothing if the place has to be
filled. -/
structure Takes (words : List Text) (a : Arity) (slot : List Text) : Prop where
  sublist : slot.Sublist words
  filled : Arity.isNeeded a = true → slot ≠ []

theorem Follows.of_sublist {ws' : List Word} (h : Follows words ws) (hsub : ws'.Sublist ws) :
    Follows words ws' :=
  ⟨(hsub.map _).trans h.sublist, fun w hw => h.clear w (hsub.subset hw)⟩

theorem Follows.behind (h : Follows words (w :: ws)) : Follows words ws :=
  h.of_sublist (List.sublist_cons_self w ws)

/-! ## Filling places -/

/-- What a place that has to be filled takes has an argument in it. -/
theorem exists_argument_of_bounds (ha : Arity.isNeeded a = true)
    (h : bounds a ws = some (least, most)) (hn : least ≤ n) :
    ∃ w ∈ ws.take n, w.isArgument = true := by
  have hbounds : ∃ lead, (ws.drop lead).head?.any Word.isArgument = true ∧ lead < least := by
    cases a <;> simp only [Arity.isNeeded, bounds] at ha h <;> first | contradiction | skip
    all_goals
      split at h
      · next hargument =>
        obtain ⟨rfl, -⟩ := Prod.mk.inj (Option.some.inj h)
        exact ⟨_, hargument, Nat.lt_succ_self _⟩
      · cases h
  obtain ⟨lead, hargument, hlead⟩ := hbounds
  obtain ⟨w, hw, harg⟩ := (Option.any_eq_true _ _).mp hargument
  rw [List.head?_drop] at hw
  have htake : (ws.take n)[lead]? = some w := by
    rw [List.getElem?_take_of_lt (Nat.lt_of_lt_of_le hlead hn), hw]
  exact ⟨w, List.mem_of_getElem? htake, harg⟩

theorem takes_slotOf (h : Follows words ws)
    (hslot : Arity.isNeeded a = true → ∃ w ∈ ws, w.isArgument = true) :
    Takes words a (slotOf a ws) where
  sublist := by
    rw [slotOf]
    split
    · exact h.sublist
    · exact List.erase_sublist.trans h.sublist
  filled ha := by
    obtain ⟨w, hw, harg⟩ := hslot ha
    have htext : w.text ∈ ws.map Word.text := List.mem_map_of_mem hw
    rw [slotOf]
    split
    · exact List.ne_nil_of_mem htext
    · exact List.ne_nil_of_mem ((List.mem_erase_of_ne (h.clear w hw harg)).mpr htext)

theorem takes_of_fill? (h : fill? as ws = some ns) (hws : Follows words ws) :
    ns.length = as.length ∧ List.Forall₂ (Takes words) as (slotsOf as ns ws) := by
  induction as generalizing ws ns with
  | nil =>
    cases h
    exact ⟨rfl, .nil⟩
  | cons a as ih =>
    obtain ⟨⟨least, most⟩, hbounds, hfind⟩ := Option.bind_eq_some_iff.mp h
    obtain ⟨k, hk, hrest⟩ := List.exists_of_findSome?_eq_some hfind
    obtain ⟨rest, hfill, rfl⟩ := Option.map_eq_some_iff.mp hrest
    have hle : least ≤ most - k := by
      have := List.mem_range.mp hk
      omega
    obtain ⟨hlength, htakes⟩ := ih hfill (hws.of_sublist (List.drop_sublist _ _))
    refine ⟨congrArg (· + 1) hlength, .cons ?_ htakes⟩
    exact takes_slotOf (hws.of_sublist (List.take_sublist _ _)) fun ha =>
      exists_argument_of_bounds ha hbounds hle

theorem slotsOf_append (as bs : List Arity) (ns : List Nat) (ws : List Word)
    (h : ns.length = as.length) :
    slotsOf (as ++ bs) ns ws = slotsOf as ns ws := by
  induction as generalizing ns ws with
  | nil =>
    obtain rfl := List.length_eq_zero_iff.mp h
    cases bs <;> rfl
  | cons a as ih =>
    obtain ⟨n, ns, rfl⟩ := List.exists_cons_of_length_eq_add_one h
    rw [List.cons_append, slotsOf, slotsOf, ih ns _ (Nat.succ.inj h)]

theorem takes_of_fillMost (hws : Follows words ws) (places : List Arity) (n : Nat) :
    ∃ front behind, places = front ++ behind ∧ (fillMost places ws n).length = front.length ∧
      List.Forall₂ (Takes words) front (slotsOf places (fillMost places ws n) ws) := by
  induction n with
  | zero =>
    refine ⟨[], places, rfl, rfl, ?_⟩
    cases places <;> exact .nil
  | succ n ih =>
    rw [fillMost]
    cases hfill : fill? (places.take (n + 1)) ws with
    | none => exact ih
    | some ns =>
      obtain ⟨hlength, htakes⟩ := takes_of_fill? hfill hws
      refine ⟨places.take (n + 1), places.drop (n + 1), (List.take_append_drop _ _).symm, hlength,
        ?_⟩
      rw [← slotsOf_append _ (places.drop (n + 1)) _ _ hlength, List.take_append_drop] at htakes
      exact htakes

/-! ## All words -/

def Serves (words : List Text) (places : List Arity) (slots : List (List Text)) : Prop :=
  ∃ front behind, places = front ++ behind ∧ List.Forall₂ (Takes words) front slots ∧
    behind.any Arity.isNeeded = false

theorem Serves.append {front rest : List Arity} {slots slots' : List (List Text)}
    (hfront : List.Forall₂ (Takes words) front slots) (h : Serves words rest slots') :
    Serves words (front ++ rest) (slots ++ slots') := by
  obtain ⟨front', behind, rfl, htakes, hnone⟩ := h
  exact ⟨front ++ front', behind, (List.append_assoc _ _ _).symm, List.rel_append hfront htakes,
    hnone⟩

theorem takes_of_counts (hws : Follows words ws) (places : List Arity) (skips : Bool) :
    ∃ front rest, places = front ++ rest ∧
      (if skips then [] else fillMost places ws places.length).length = front.length ∧
      List.Forall₂ (Takes words) front
        (slotsOf places (if skips then [] else fillMost places ws places.length) ws) := by
  cases skips with
  | false => exact takes_of_fillMost hws places places.length
  | true =>
    refine ⟨[], places, rfl, rfl, ?_⟩
    cases places <;> exact .nil

theorem serves_readWords {fuel : Nat} (hws : Follows words ws)
    (h : u.readWords fuel places ws parsed = .ok r) :
    ∃ slots, r.slots = parsed.slots ++ slots ∧ Serves words places slots := by
  induction fuel generalizing places ws parsed with
  | zero => cases h
  | succ fuel ih =>
    rw [readWords] at h
    dsimp only at h
    split at h
    · obtain ⟨front, rest, hplaces, hlength, htakes⟩ := takes_of_fillMost hws places places.length
      split at h
      · cases h
      · next hneeded =>
        cases h
        rw [hlength, hplaces, List.drop_left] at hneeded
        exact ⟨_, rfl, front, rest, hplaces, htakes, by simpa using hneeded⟩
    · next w behind hsplit =>
      have hbehind : behind.Sublist ws := by
        have hdrop := List.drop_sublist (ws.takeWhile fun w => !w.isOption).length ws
        rw [hsplit] at hdrop
        exact (List.sublist_cons_self w behind).trans hdrop
      obtain ⟨front, rest, hplaces, hlength, htakes⟩ :=
        takes_of_counts hws places (ws.takeWhile fun w => !w.isOption).isEmpty
      generalize (if (ws.takeWhile fun w => !w.isOption).isEmpty then []
        else fillMost places ws places.length) = counts at h hlength htakes
      -- Words that are read later fill the places that the words before have left.
      have hstep {ws' : List Word} {parsed' : Parsed} (hsub : ws'.Sublist ws)
          (hslots : parsed'.slots = parsed.slots ++ slotsOf places counts ws)
          (hread : u.readWords fuel (places.drop counts.length) ws' parsed' = .ok r) :
          ∃ slots, r.slots = parsed.slots ++ slots ∧ Serves words places slots := by
        rw [hlength, hplaces, List.drop_left] at hread
        obtain ⟨slots, hr, hserves⟩ := ih (hws.of_sublist hsub) hread
        refine ⟨slotsOf places counts ws ++ slots, by rw [hr, hslots, List.append_assoc], ?_⟩
        rw [hplaces] at htakes ⊢
        exact .append htakes hserves
      split at h
      · exact hstep (List.drop_sublist _ _) rfl h
      · split at h
        · next hit _ =>
          cases htaken : u.takeOption behind (w.text.length + 1) hit with
          | error e => simp [htaken, bind, Except.bind] at h
          | ok taken =>
            simp only [htaken, bind, Except.bind] at h
            split at h
            · cases h
            · exact hstep ((List.drop_sublist _ _).trans hbehind) rfl h
        · exact hstep hbehind rfl h

/-! ## Words with one separator at most -/

/-- The separator is the first pair of dashes, and all the others are arguments. -/
theorem isClear_of_roles {ws : List Word} (h : u.roles words = .ok ws)
    (hcount : words.count [.char '-', .char '-'] ≤ 1) : ∀ w ∈ ws, w.IsClear := by
  induction words generalizing ws with
  | nil =>
    cases h
    simp
  | cons t words ih =>
    obtain ⟨rfl, rfl⟩ | ⟨ht, r, rest, -, hrest, rfl⟩ := roles_cons_cases h
    · rw [List.count_cons_self] at hcount
      have hnone : [.char '-', .char '-'] ∉ words := List.count_eq_zero.mp (by omega)
      rw [List.forall_mem_cons, List.forall_mem_map]
      exact ⟨fun hargument => absurd hargument Bool.false_ne_true,
        fun t ht _ heq => hnone (heq ▸ ht)⟩
    · rw [List.count_cons_of_ne ht] at hcount
      exact List.forall_mem_cons.mpr ⟨fun _ => ht, ih hrest hcount⟩

theorem serves_read (hcount : words.count [.char '-', .char '-'] ≤ 1) (h : u.read words = .ok r) :
    Serves words u.places r.slots := by
  rw [read] at h
  cases hroles : u.roles words with
  | error e => simp [hroles, bind, Except.bind] at h
  | ok ws =>
    simp only [hroles, bind, Except.bind] at h
    have hws : Follows words ws :=
      ⟨by rw [map_text_of_roles hroles], isClear_of_roles hroles hcount⟩
    obtain ⟨slots, hslots, hserves⟩ := serves_readWords hws h
    rwa [hslots]

theorem Serves.last_ne_nil {places : List Arity} {last : Arity} {slots : List (List Text)}
    (h : Serves words (places ++ [last]) slots) (hlast : Arity.isNeeded last = true) :
    slots.getD places.length [] ≠ [] := by
  obtain ⟨front, behind, hplaces, htakes, hnone⟩ := h
  have hbehind : behind = [] := by
    refine Classical.byContradiction fun hne => ?_
    have hmem : last ∈ behind := by
      have hgetLast := congrArg List.getLast? hplaces
      rw [List.getLast?_append_of_ne_nil _ hne, List.getLast?_concat] at hgetLast
      exact List.mem_of_getLast? hgetLast.symm
    rw [List.any_eq_false] at hnone
    exact hnone last hmem hlast
  rw [hbehind, List.append_nil] at hplaces
  have hdrop := List.forall₂_drop places.length (hplaces ▸ htakes)
  rw [List.drop_left] at hdrop
  obtain ⟨slot, rest, hslot, -, hslots⟩ := List.forall₂_cons_left_iff.mp hdrop
  rw [List.getD_eq_getElem?_getD, ← List.head?_drop, hslots]
  exact hslot.filled hlast

end Usage

namespace Command

open Usage

def paths : Command → List Text
  | .show paths | .add _ paths | .remove _ paths | .clear paths | .rename _ _ paths => paths
  | .search _ roots _ => roots
  | .check _ | .bookmark _ _ => []

theorem paths_ofParsed_ne_nil {k : Kind} {p : Parsed} {words : List Text}
    (hk : k ∉ [.check, .bookmark])
    (h : Serves words k.usage.places p.slots) : (ofParsed k p).paths ≠ [] := by
  have hlast {places : List Arity} (h : Serves words (places ++ [.some]) p.slots) :
      p.slots.getD places.length [] ≠ [] := h.last_ne_nil rfl
  cases k with
  | check | bookmark => simp at hk
  | search =>
    simp only [ofParsed, paths, rootsOf]
    split
    · simp
    · next hroots => simpa using hroots
  | «show» | clear => exact @hlast [] h
  | add | remove => exact @hlast [.one] h
  | rename => exact @hlast [.one, .one] h

theorem kind_ofParsed (k : Kind) (p : Parsed) : (ofParsed k p).kind = k := by
  cases k <;> rfl

theorem exists_ofParsed_of_read {words extras : List Text} {c : Command}
    (h : read words = .ok (c, extras)) :
    ∃ k name ws p, words = name :: ws ∧ k.usage.read ws = .ok p ∧ c = ofParsed k p := by
  cases words with
  | nil => cases h
  | cons name ws =>
    rw [read] at h
    split at h
    · cases h
    · next k _ =>
      cases hp : k.usage.read ws with
      | error e => simp [hp, bind, Except.bind] at h
      | ok p =>
        simp only [hp, bind, Except.bind, pure, Except.pure] at h
        cases h
        exact ⟨k, name, ws, p, rfl, hp, rfl⟩

end Command

namespace CommandLine

open Command Usage

theorem exists_slot_of_ofWords {words : List Text} {line : CommandLine} {c : Command}
    (h : ofWords words = .ok line) (hc : line.command = some c) :
    ∃ p extras, outerUsage.read words = .ok p ∧
    Command.read (p.slots.getD 0 []) = .ok (c, extras) := by
  rw [ofWords] at h
  cases hp : outerUsage.read words with
  | error e => simp [hp, bind, Except.bind] at h
  | ok p =>
    simp only [hp, bind, Except.bind] at h
    refine ⟨p, ?_⟩
    cases hrest : p.slots.getD 0 [] with
    | nil =>
      simp only [hrest] at h
      split at h <;> cases h
      cases hc
    | cons name rest =>
      simp only [hrest] at h
      cases hread : Command.read (name :: rest) with
      | error e => simp [hread, Except.map] at h
      | ok found =>
        simp only [hread, Except.map] at h
        split at h <;> cases h
        cases hc
        exact ⟨_, rfl, rfl⟩

/-- With one separator at most, a command line has files for its command, if the command works on
files. -/
theorem paths_ne_nil {words : List Text} {line : CommandLine} {c : Command}
    (h : ofWords words = .ok line) (hc : line.command = some c) (hk : c.kind ∉ [.check, .bookmark])
    (hcount : words.count [.char '-', .char '-'] ≤ 1) : c.paths ≠ [] := by
  obtain ⟨p, extras, hp, hread⟩ := exists_slot_of_ofWords h hc
  have hsub : (p.slots.getD 0 []).Sublist words := by
    obtain ⟨front, behind, -, htakes, -⟩ := serves_read hcount hp
    cases hslots : p.slots with
    | nil => exact List.nil_sublist words
    | cons slot slots =>
      rw [hslots] at htakes
      obtain ⟨_, _, hslot, -, -⟩ := List.forall₂_cons_right_iff.mp htakes
      exact hslot.sublist
  obtain ⟨k, name, ws, parsed, hslot, hws, rfl⟩ := exists_ofParsed_of_read hread
  rw [kind_ofParsed] at hk
  rw [hslot] at hsub
  have hcount' := ((List.sublist_cons_self name ws).trans hsub).count_le [.char '-', .char '-']
  exact paths_ofParsed_ne_nil hk (serves_read (Nat.le_trans hcount' hcount) hws)

/-- Behind a separator, two more dashes stand for the file, and are dropped. -/
example : ofWords [Text.ofString "add", ['a'], ['-', '-'], ['-', '-']] =
    .ok ⟨[], false, some (.add ['a'] [])⟩ := by rfl

end CommandLine

end FileTags

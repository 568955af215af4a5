import FileTags.Command.Basic

/-!
# Words that make a command

A command whose arguments are all taken as arguments is read back from its name and them, each in
its place: what is needed singly comes first, and the rest are files.
-/

set_option autoImplicit false

namespace FileTags

namespace Usage

variable {u : Usage}

def takes (u : Usage) (w : Text) : Bool :=
  w != [.char '-', .char '-'] &&
    match u.role w with
    | .ok .argument => true
    | _ => false

theorem takes_iff {w : Text} : u.takes w = true ↔
    w ≠ [.char '-', .char '-'] ∧ u.role w = .ok .argument := by
  rw [takes, Bool.and_eq_true, bne_iff_ne]
  refine and_congr_right fun _ => ?_
  split
  · next h => simp [h]
  · next h => simpa using h

def argument (w : Text) : Word := ⟨w, .argument⟩

theorem roles_arguments {ws : List Text} (h : ∀ w ∈ ws, u.takes w = true) :
    u.roles ws = .ok (ws.map argument) := by
  induction ws with
  | nil => rfl
  | cons w ws ih =>
    obtain ⟨hne, hrole⟩ := takes_iff.mp (h w List.mem_cons_self)
    rw [roles, if_neg hne, hrole, ih fun x hx => h x (List.mem_cons_of_mem w hx)]
    rfl

/-- The first word is a separator with nothing but arguments behind it, or has its own role. -/
theorem roles_cons_cases {w : Text} {ws : List Text} {rs : List Word}
    (h : u.roles (w :: ws) = .ok rs) :
    (w = [.char '-', .char '-'] ∧ rs = ⟨w, .separator⟩ :: ws.map argument) ∨
      (w ≠ [.char '-', .char '-'] ∧ ∃ r rest, u.role w = .ok r ∧ u.roles ws = .ok rest ∧
        rs = ⟨w, r⟩ :: rest) := by
  rw [roles] at h
  split at h
  · next hw => exact .inl ⟨hw, (Except.ok.inj h).symm⟩
  · next hw =>
    cases hr : u.role w with
    | error e => simp [hr, bind, Except.bind] at h
    | ok r =>
      cases hrest : u.roles ws with
      | error e => simp [hr, hrest, bind, Except.bind] at h
      | ok rest =>
        simp only [hr, hrest, bind, Except.bind, pure, Except.pure] at h
        exact .inr ⟨hw, r, rest, rfl, rfl, (Except.ok.inj h).symm⟩

theorem map_text_of_roles {ws : List Text} {rs : List Word} (h : u.roles ws = .ok rs) :
    rs.map Word.text = ws := by
  induction ws generalizing rs with
  | nil =>
    cases h
    rfl
  | cons w ws ih =>
    obtain ⟨-, rfl⟩ | ⟨-, r, rest, -, hrest, rfl⟩ := roles_cons_cases h
    · simp [argument, Function.comp_def]
    · exact congrArg (w :: ·) (ih hrest)

/-! ## Filling places -/

theorem fill?_cons {a : Arity} {as : List Arity} {ws : List Word} {least most : Nat} {ns : List Nat}
    (ha : bounds a ws = some (least, most))
    (hle : least ≤ most) (has : fill? as (ws.drop most) = some ns) :
    fill? (a :: as) ws = some (most :: ns) := by
  obtain ⟨n, hn⟩ : ∃ n, most + 1 - least = n + 1 := ⟨most - least, by omega⟩
  simp [fill?, ha, hn, List.range_succ_eq_map, has]

theorem isSeparator_arguments (ws : List Text) :
    (ws.map argument).takeWhile Word.isSeparator = [] := by
  cases ws <;> rfl

theorem isOption_arguments (ws : List Text) :
    (ws.map argument).takeWhile (fun w => !w.isOption) = ws.map argument := by
  induction ws with
  | nil => rfl
  | cons w ws ih => exact congrArg (argument w :: ·) ih

theorem bounds_one (w : Text) (ws : List Text) :
    bounds .one ((w :: ws).map argument) = some (1, 1) := by
  simp only [bounds, isSeparator_arguments]
  rw [List.map_cons, List.length_nil, List.drop_succ_cons, List.drop_zero, List.drop_zero,
    isSeparator_arguments]
  rfl

theorem bounds_some (w : Text) (ws : List Text) :
    bounds .some ((w :: ws).map argument) = some (1, (w :: ws).length) := by
  simp only [bounds, isSeparator_arguments, isOption_arguments, List.length_map]
  rfl

theorem slotOf_arguments (a : Arity) {ws : List Text} (h : [.char '-', .char '-'] ∉ ws) :
    slotOf a (ws.map argument) = ws := by
  have htext : (ws.map argument).map Word.text = ws := by simp [argument, Function.comp_def]
  rw [slotOf, htext]
  split
  · rfl
  · exact List.erase_of_not_mem h

/-- Words that are all arguments are read by filling the places with them. -/
theorem readWords_arguments {ws : List Text} {counts : List Nat} (fuel : Nat)
    (hfill : fill? u.places (ws.map argument) = some counts)
    (hlength : counts.length = u.places.length)
    (htotal : total counts = ws.length) (hplaces : u.places ≠ []) :
    u.readWords (fuel + 1) u.places (ws.map argument) .empty =
      .ok ⟨[], slotsOf u.places counts (ws.map argument), []⟩ := by
  have hcounts : fillMost u.places (ws.map argument) u.places.length = counts := by
    obtain ⟨n, hn⟩ := Nat.exists_eq_add_one_of_ne_zero fun h =>
      hplaces (List.length_eq_zero_iff.mp h)
    rw [hn, fillMost, ← hn, List.take_length, hfill]
    rfl
  simp only [readWords, isOption_arguments, List.drop_length, hcounts, hlength, htotal]
  simp [Parsed.empty]

theorem read_arguments {ws : List Text} {counts : List Nat} (htakes : ∀ w ∈ ws, u.takes w = true)
    (hfill : fill? u.places (ws.map argument) = some counts)
    (hlength : counts.length = u.places.length)
    (htotal : total counts = ws.length) (hplaces : u.places ≠ []) :
    u.read ws = .ok ⟨[], slotsOf u.places counts (ws.map argument), []⟩ := by
  rw [read, roles_arguments htakes]
  exact readWords_arguments _ hfill hlength htotal hplaces

variable {switches : List Switch} {first second path : Text} {paths : List Text}

theorem read_some (h : ∀ w ∈ path :: paths, takes ⟨switches, [.some]⟩ w = true) :
    read ⟨switches, [.some]⟩ (path :: paths) = .ok ⟨[], [path :: paths], []⟩ := by
  have hfill : fill? [.some] ((path :: paths).map argument) = some [(path :: paths).length] :=
    fill?_cons (bounds_some path paths) (by simp) rfl
  have hplain : [.char '-', .char '-'] ∉ path :: paths := fun hm => (takes_iff.mp (h _ hm)).1 rfl
  rw [read_arguments h hfill rfl (by simp [total]) (by simp)]
  change Except.ok
    (Parsed.mk [] [slotOf .some (((path :: paths).map argument).take (path :: paths).length)] []) =
    _
  rw [List.take_of_length_le (by simp), slotOf_arguments _ hplain]

theorem read_one_some (h : ∀ w ∈ first :: path :: paths, takes ⟨switches, [.one, .some]⟩ w = true) :
    read ⟨switches, [.one, .some]⟩ (first :: path :: paths) =
      .ok ⟨[], [[first], path :: paths], []⟩ := by
  have hfill : fill? [.one, .some] ((first :: path :: paths).map argument) =
      some [1, (path :: paths).length] :=
    fill?_cons (bounds_one first _) (by simp) (fill?_cons (bounds_some path paths) (by simp) rfl)
  have hplain : ∀ ws ⊆ first :: path :: paths, [.char '-', .char '-'] ∉ ws :=
    fun ws hsub hm => (takes_iff.mp (h _ (hsub hm))).1 rfl
  rw [read_arguments h hfill rfl (by simp [total]; omega) (by simp)]
  change Except.ok (Parsed.mk [] [slotOf .one ([first].map argument),
    slotOf .some (((path :: paths).map argument).take (path :: paths).length)] []) = _
  rw [List.take_of_length_le (by simp), slotOf_arguments .one (hplain [first] (by simp)),
    slotOf_arguments .some (hplain (path :: paths) (by simp))]

/-! ## Around a command -/

/-- Words of which the first is an argument all go to a place for the rest. -/
theorem read_rest {words : List Text} {ws : List Word}
    (hroles : roles ⟨switches, [.rest]⟩ words = .ok ws)
    (htexts : ws.map Word.text = words) (hfirst : ws.head?.any Word.isArgument = true) :
    read ⟨switches, [.rest]⟩ words = .ok ⟨[], [words], []⟩ := by
  obtain ⟨w, behind, rfl⟩ : ∃ w behind, ws = w :: behind := by
    cases ws with
    | nil => simp at hfirst
    | cons w behind => exact ⟨w, behind, rfl⟩
  have hargument : w.isArgument = true := by simpa using hfirst
  have hrole : w.role = .argument := by
    rw [Word.isArgument] at hargument
    split at hargument
    · assumption
    · cases hargument
  have hseparator : w.isSeparator = false := by rw [Word.isSeparator, hrole]
  have hoption : w.isOption = false := by rw [Word.isOption, hrole]
  have hbounds : bounds .rest (w :: behind) = some (1, (w :: behind).length) := by
    simp [bounds, hseparator, hargument]
  have hcounts : fillMost [.rest] (w :: behind) 1 = [(w :: behind).length] := by
    have hfill : fill? [.rest] (w :: behind) = some [(w :: behind).length] :=
      fill?_cons hbounds (by simp) rfl
    change (fill? [.rest] (w :: behind)).getD _ = _
    rw [hfill, Option.getD_some]
  have hslots : slotsOf [.rest] [(w :: behind).length] (w :: behind) = [words] := by
    change [slotOf .rest ((w :: behind).take (w :: behind).length)] = _
    rw [List.take_length, slotOf, if_pos rfl, htexts]
  have htotal : total [(w :: behind).length] = (w :: behind).length := by simp [total]
  -- Whether or not options come behind, all words go to the one place at once.
  have hfilled : (if ((w :: behind).takeWhile fun w => !w.isOption).isEmpty then []
    else fillMost [.rest] (w :: behind) 1) =
      [(w :: behind).length] := by
    rw [List.takeWhile_cons_of_pos (by simp [hoption]), List.isEmpty_cons]
    exact hcounts
  rw [read, hroles]
  change readWords _ ((w :: behind).length + 1) [.rest] (w :: behind) .empty = _
  rw [readWords]
  split
  · simp only [List.length_singleton, hcounts, hslots, htotal, List.drop_length]
    rfl
  · simp only [List.length_singleton, hfilled, hslots, htotal, List.drop_length]
    rfl

/-! ## Words around a command -/

theorem atEquals_fst (w : Text) : (atEquals w).1 = w.takeWhile (· != .char '=') := by
  simp only [atEquals]
  split <;> rfl

/-- A word that a dash starts is an argument only where it cuts no option short. -/
theorem candidates_of_argument {c : Rune} {rest : Text}
    (h : u.role (.char '-' :: c :: rest) = .ok .argument) :
    u.candidates (.char '-' :: c :: rest) = [] := by
  rw [role] at h
  cases hexact : u.switch? (.char '-' :: c :: rest) with
  | some s => simp [hexact] at h
  | none =>
    simp only [hexact] at h
    split at h
    · cases h
    · split at h
      · cases h
      · cases h
      · assumption

/-- The role of a word that a dash starts is clear unless the word cuts several options short. -/
theorem exists_role_of_candidates {c : Rune} {rest : Text}
    (h : (u.candidates (.char '-' :: c :: rest)).length ≤ 1) :
    ∃ r, u.role (.char '-' :: c :: rest) = .ok r := by
  rw [role]
  cases u.switch? (.char '-' :: c :: rest) with
  | some s => exact ⟨_, rfl⟩
  | none =>
    dsimp only
    split
    · exact ⟨_, rfl⟩
    · split
      · exact ⟨_, rfl⟩
      · next hmany =>
        rw [hmany] at h
        simp at h
      · exact ⟨_, rfl⟩

theorem candidates_append (ss ts : List Switch) (places places' places'' : List Arity) (w : Text) :
    candidates ⟨ss ++ ts, places⟩ w = candidates ⟨ss, places'⟩ w ++ candidates ⟨ts,
      places''⟩ w := by
  simp only [candidates, names, List.flatMap_append]
  split <;> simp

theorem length_candidates (u : Usage) (rest : Text) :
    (u.candidates (.char '-' :: .char '-' :: rest)).length =
      (u.names.filter fun e =>
        Text.startsWith e.1 (.char '-' :: .char '-' ::
        rest.takeWhile (· != .char '='))).length := by
  have hleft : (atEquals (.char '-' :: .char '-' :: rest)).1 =
      .char '-' :: .char '-' :: rest.takeWhile (· != .char '=') := by
    rw [atEquals_fst]
    rfl
  rw [candidates]
  rcases hat : atEquals (.char '-' :: .char '-' :: rest) with ⟨left, value⟩
  rw [hat] at hleft
  dsimp only at hleft ⊢
  rw [hleft, List.length_map]

/-- The options that are there around every command alone start differently behind two dashes, so
that a word which is more than that cuts one of them short at most. -/
theorem length_candidates_around {places : List Arity} {c : Rune} {rest : Text}
    (h : c = .char '-' → rest.takeWhile (· != .char '=') ≠ []) :
    (candidates ⟨[Command.settingsSwitch, Command.verboseSwitch],
      places⟩ (.char '-' :: c :: rest)).length ≤ 1 := by
  by_cases hc : c = .char '-'
  · subst hc
    obtain ⟨d, more, hd⟩ := List.exists_cons_of_ne_nil (h rfl)
    rw [length_candidates, hd]
    simp only [names, Command.settingsSwitch, Command.verboseSwitch, Text.ofString]
    by_cases hd : .char 'c' = d
    · subst hd
      simp [Text.startsWith, List.filter_cons]
      split <;> simp
    · simp [Text.startsWith, List.filter_cons, hd]
      split <;> simp
  · simp only [candidates, names, Command.settingsSwitch, Command.verboseSwitch, Text.ofString]
    simp [Text.startsWith, List.filterMap_cons, hc, Ne.symm hc]
    split <;> simp

/-- A word that a command takes as an argument has a clear role around the command as well. -/
theorem exists_role {places : List Arity} {w : Text}
    (h : takes ⟨[Command.helpSwitch], places⟩ w = true) :
    ∃ r, Command.outerUsage.role w = .ok r := by
  obtain ⟨hne, hrole⟩ := takes_iff.mp h
  by_cases hdash : ∃ c rest, w = .char '-' :: c :: rest
  · obtain ⟨c, rest, rfl⟩ := hdash
    have hnone := candidates_of_argument hrole
    apply exists_role_of_candidates
    rw [Command.outerUsage, ← List.singleton_append, candidates_append _ _ _ places [.rest], hnone,
      List.nil_append]
    apply length_candidates_around
    rintro rfl hempty
    -- Two dashes alone cut the help short, whatever value comes behind.
    have hlength := length_candidates ⟨[Command.helpSwitch], places⟩ rest
    rw [hnone, hempty] at hlength
    cases hlength
  · exact ⟨.argument, by rw [role]; exact fun c rest hw => hdash ⟨c, rest, hw⟩⟩

theorem roles_of_exists {ws : List Text} (h : ∀ w ∈ ws, ∃ r, u.role w = .ok r) :
    ∃ rs, u.roles ws = .ok rs := by
  induction ws with
  | nil => exact ⟨[], rfl⟩
  | cons w ws ih =>
    rw [roles]
    split
    · exact ⟨_, rfl⟩
    · obtain ⟨r, hr⟩ := h w List.mem_cons_self
      obtain ⟨rs, hrs⟩ := ih fun x hx => h x (List.mem_cons_of_mem w hx)
      rw [hr, hrs]
      exact ⟨⟨w, r⟩ :: rs, rfl⟩

end Usage

namespace Command

open Usage

def kind : Command → Kind
  | .show _ => .show
  | .add _ _ => .add
  | .remove _ _ => .remove
  | .clear _ => .clear
  | .rename _ _ _ => .rename
  | .search _ _ _ => .search
  | .check _ => .check
  | .bookmark _ _ => .bookmark

def arguments : Command → List Text
  | .show paths => paths
  | .add tags paths => tags :: paths
  | .remove names paths => names :: paths
  | .clear paths => paths
  | .rename find replace paths => find :: (replace.toList ++ paths)
  | .search term roots _ => term :: roots
  | .check term => [term]
  | .bookmark name term => name :: term.toList

def words (c : Command) : List Text := Text.ofString c.kind.name :: c.arguments

theorem ofName?_name (k : Kind) : Kind.ofName? (Text.ofString k.name) = some k := by
  cases k <;> rfl

theorem roles_name (k : Kind) {ws : List Text} {rs : List Word} (h : outerUsage.roles ws = .ok rs) :
    outerUsage.roles (Text.ofString k.name :: ws) =
      .ok (argument (Text.ofString k.name) :: rs) := by
  have hrole : Text.ofString k.name ≠ [.char '-', .char '-'] ∧
      outerUsage.role (Text.ofString k.name) = .ok .argument := by
    cases k <;> exact ⟨by decide, rfl⟩
  rw [roles, if_neg hrole.1, hrole.2, h]
  rfl

end Command

namespace CommandLine

open Command Usage

/-- A name with the arguments that its command reads is read as that command. -/
theorem ofWords_of_read {k : Kind} {ws : List Text} {slots : List (List Text)}
    (hroles : ∀ w ∈ ws, ∃ r, outerUsage.role w = .ok r)
    (hread : k.usage.read ws = .ok ⟨[], slots, []⟩) :
    ofWords (Text.ofString k.name :: ws) = .ok ⟨[], false, some (ofParsed k ⟨[], slots, []⟩)⟩ := by
  obtain ⟨rs, hrs⟩ := roles_of_exists hroles
  have houter : outerUsage.read (Text.ofString k.name :: ws) =
      .ok ⟨[], [Text.ofString k.name :: ws], []⟩ :=
    read_rest (roles_name k hrs) (congrArg (Text.ofString k.name :: ·) (map_text_of_roles hrs)) rfl
  have hinner : Command.read (Text.ofString k.name :: ws) =
      .ok (ofParsed k ⟨[], slots, []⟩, []) := by
    rw [Command.read, ofName?_name]
    simp only [hread]
    rfl
  simp only [ofWords, houter, bind, Except.bind, List.getD_cons_zero, hinner, Except.map]
  rfl

/-- A command for tags whose arguments are all taken as such is read from its words, if it has a
file to work on. -/
theorem ofWords_words {c : Command} {path : Text} {paths : List Text}
    (htakes : ∀ w ∈ c.arguments, c.kind.usage.takes w = true)
    (hc : (∃ tags, c = .add tags (path :: paths)) ∨ (∃ names, c = .remove names (path :: paths)) ∨
      c = .clear (path :: paths)) :
    ofWords c.words = .ok ⟨[], false, some c⟩ := by
  rcases hc with ⟨tags, rfl⟩ | ⟨names, rfl⟩ | rfl
  · exact ofWords_of_read (k := .add) (fun w hw => exists_role (htakes w hw)) (read_one_some htakes)
  · exact ofWords_of_read (k :=
      .remove) (fun w hw => exists_role (htakes w hw)) (read_one_some htakes)
  · exact ofWords_of_read (k := .clear) (fun w hw => exists_role (htakes w hw)) (read_some htakes)

end CommandLine

end FileTags

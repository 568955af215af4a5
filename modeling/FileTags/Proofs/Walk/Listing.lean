import FileTags.Proofs.Volume.Path
import FileTags.Walk

/-!
# What a walk lists

A root is a file, a folder or missing, unless its path is too long for anything to be looked up.
Missing roots are counted and nothing else is. Every path that is listed can be given to the system,
if no name in the volume has a null byte, so what keeps a listed file from being read is one of the
faults that users are told of.
-/

set_option autoImplicit false

namespace FileTags

/-! ## Looking up -/

namespace Volume

variable {v : Volume} {path : Text}

def followFaults : List SystemError := [.noEntry, .notDirectory, .nameTooLong, .loop]

theorem followWith_error {next : Place → List Blob → Except SystemError Place}
    (hnext : ∀ here names e, next here names = .error e → e ∈ followFaults) {here : Place}
    {names : List Blob} {e : SystemError}
    (h : v.followWith next here names = .error e) : e ∈ followFaults := by
  induction names generalizing here with
  | nil => cases h
  | cons name names ih =>
    rw [followWith] at h
    split at h
    · cases h
      decide
    · split at h
      · exact ih h
      · split at h
        · exact ih h
        · split at h
          · cases h
            decide
          · split at h
            · cases h
              decide
            · exact hnext _ _ e h
            · exact ih h

theorem follow_error {links : Nat} {here : Place} {names : List Blob} {e : SystemError}
    (h : v.follow links here names = .error e) : e ∈ followFaults := by
  induction links generalizing here names e with
  | zero =>
    refine followWith_error (fun here names e he => ?_) h
    cases he
    decide
  | succ links ih => exact followWith_error (fun here names e he => ih he) h

theorem place_error {b : Blob} {e : SystemError} (h : v.place b = .error e) : e ∈ followFaults := by
  rw [place] at h
  cases hc : checkPath b with
  | ok u =>
    rw [hc] at h
    exact follow_error h
  | error x =>
    rw [hc] at h
    cases h
    rw [checkPath] at hc
    split at hc
    · cases hc
      decide
    · split at hc
      · cases hc
        decide
      · cases hc

def IsTooLong (v : Volume) (path : Text) : Prop :=
  Text.unfit? path = none ∧ v.place (Utf8.bytes path) = .error .nameTooLong

instance (v : Volume) (path : Text) : Decidable (v.IsTooLong path) :=
  inferInstanceAs (Decidable (_ ∧ _))

/-- Only a path that is too long leaves open whether something is there. -/
theorem exists?_cases (v : Volume) (path : Text) :
    (v.IsTooLong path ∧ v.exists? path = .error (.system .nameTooLong path none)) ∨
      (¬ v.IsTooLong path ∧
        (v.exists? path = .ok false ∨
          (Text.unfit? path = none ∧ v.exists? path = .ok true ∧
            ∃ b, v.isFile? path = .ok b))) := by
  rw [IsTooLong, exists?, isFile?, status]
  cases hfit : Text.unfit? path with
  | some e =>
    rw [located, hfit]
    exact .inr ⟨fun h => Option.some_ne_none e h.1, .inl rfl⟩
  | none =>
    rw [located_of_fit hfit]
    cases hp : v.place (Utf8.bytes path) with
    | ok p => exact .inr ⟨fun h => absurd h.2 (by simp), .inr ⟨rfl, rfl, _, rfl⟩⟩
    | error e =>
      have he := place_error hp
      simp only [followFaults, List.mem_cons, List.not_mem_nil, or_false] at he
      rcases he with rfl | rfl | rfl | rfl
      · exact .inr ⟨fun h => absurd (Except.error.inj h.2) (by decide), .inl rfl⟩
      · exact .inr ⟨fun h => absurd (Except.error.inj h.2) (by decide), .inl rfl⟩
      · exact .inl ⟨⟨rfl, rfl⟩, rfl⟩
      · exact .inr ⟨fun h => absurd (Except.error.inj h.2) (by decide), .inl rfl⟩

/-- The names of a volume have no null bytes, as file systems have it. -/
def IsNamed (v : Volume) : Prop := ∀ e ∈ v.nodes, ∀ name ∈ e.1, (0 : UInt8) ∉ name

instance (v : Volume) : Decidable v.IsNamed :=
  inferInstanceAs (Decidable (∀ e ∈ v.nodes, ∀ name ∈ e.1, (0 : UInt8) ∉ name))

theorem IsNamed.list (hv : v.IsNamed) {entries : List (Text × Node)} (h : v.list path = .ok entries)
    {e : Text × Node} (he : e ∈ entries) : Text.unfit? e.1 = none := by
  obtain ⟨-, h⟩ := located_eq_ok_iff.mp h
  cases hp : v.place (Utf8.bytes path) with
  | error x => simp [hp, bind, Except.bind] at h
  | ok p =>
    simp only [hp, bind, Except.bind] at h
    split at h
    · cases h
      obtain ⟨⟨b, n⟩, hchild, rfl⟩ := List.mem_map.mp he
      obtain ⟨⟨place, node⟩, hmem, hchild⟩ := List.mem_filterMap.mp hchild
      cases place with
      | nil => cases hchild
      | cons name above =>
        simp only [Option.ite_none_right_eq_some, Option.some.injEq, Prod.mk.injEq] at hchild
        obtain ⟨-, rfl, -⟩ := hchild
        exact Text.unfit?_ofBytes (hv _ hmem name List.mem_cons_self)
    · cases h

/-! ## Reading tags -/

theorem located_unfit {α : Type} {lookup : Blob → Except SystemError α} {x : UnfitText}
    (h : located path lookup = .error (.unfit x)) : Text.unfit? path = some x := by
  rw [located] at h
  split at h
  · next e he =>
    cases h
    exact he
  · cases hb : lookup (Utf8.bytes path) <;> simp [hb, Except.mapError] at h

theorem getAttribute_unfit {name : Text} {x : UnfitText}
    (h : v.getAttribute path name = .error (.unfit x)) :
    Text.unfit? path = some x := by
  rw [getAttribute] at h
  cases hp : v.attributePlace .get path with
  | error e =>
    rw [hp] at h
    cases h
    exact located_unfit hp
  | ok p =>
    simp only [hp, bind, Except.bind] at h
    split at h <;> cases h

theorem isForeseen_ofVolume {call : AttributeCall} {x : VolumeFault} (h : ∀ e, x ≠ .unfit e) :
    (TagFault.ofVolume call path x).isForeseen = true := by
  cases x with
  | system e path second => rfl
  | unfit e => exact absurd rfl (h e)

theorem isForeseen_of_readBlob {name : Text} {e : TagFault} (hfit : Text.unfit? path = none)
    (h : v.readBlob name path = .error e) : e.isForeseen = true := by
  rw [readBlob, requireAttributes] at h
  split at h
  · cases hg : v.getAttribute path name with
    | ok blob => simp [hg, bind, Except.bind, pure, Except.pure] at h
    | error x =>
      simp only [hg, bind, Except.bind] at h
      split at h
      · cases h
      · cases h
        refine isForeseen_ofVolume ?_
        rintro e rfl
        cases hfit.symm.trans (getAttribute_unfit hg)
  · cases h
    rfl

theorem isForeseen_of_tagsOfBlob {blob : Blob} {e : TagFault}
    (h : tagsOfBlob path blob = .error e) :
    e.isForeseen = true := by
  rw [tagsOfBlob] at h
  cases hd : Utf8.decode blob with
  | error x =>
    rw [hd] at h
    cases h
    rfl
  | ok t =>
    simp only [hd, Except.mapError, bind, Except.bind] at h
    split at h
    · cases h
      rfl
    · cases h

/-- Where the path is one that something can have, tags that cannot be read give a fault that users
are told of. -/
theorem isForeseen_of_tags {name : Text} {e : TagFault} (hfit : Text.unfit? path = none)
    (h : v.tags name path = .error e) : e.isForeseen = true := by
  cases hb : v.readBlob name path with
  | error x =>
    rw [tags, hb] at h
    cases h
    exact isForeseen_of_readBlob hfit hb
  | ok blob =>
    rw [tags, hb] at h
    cases blob with
    | none => cases h
    | some blob => exact isForeseen_of_tagsOfBlob h

end Volume

/-! ## Texts of listed paths -/

namespace Path

variable {p q : Path}

def IsFit (p : Path) : Prop := ∀ name ∈ p.names, Text.unfit? name = none

theorem isFit_ofText {t : Text} (h : Text.unfit? t = none) : (ofText t).IsFit := by
  intro name hname
  have hsplit := (List.mem_filter.mp hname).1
  rw [Text.split_eq_splitOn] at hsplit
  have hmem : ∀ c ∈ name, c ∈ t := fun c hc => (Text.mem_of_mem_splitOn hsplit hc).2
  rw [Text.unfit?_eq_none_iff] at h ⊢
  exact ⟨fun c hc => h.1 c (hmem c hc), fun hc => h.2 (hmem _ hc)⟩

theorem IsFit.append (hp : p.IsFit) (hq : q.IsFit) : (p ++ q).IsFit := by
  change (Path.append p q).IsFit
  rw [Path.append]
  split
  · exact hq
  · intro name hname
    rcases List.mem_append.mp hname with h | h
    · exact hp name h
    · exact hq name h

end Path

/-! ## Listings -/

namespace Listing

theorem append_files (a b : Listing) : (a ++ b).files = a.files ++ b.files := rfl

theorem append_missing (a b : Listing) : (a ++ b).missing = a.missing + b.missing := rfl

theorem stats_append (a b : Listing) : (a ++ b).stats = a.stats + b.stats := rfl

theorem join_cons (l : Listing) (ls : List Listing) : join (l :: ls) = l ++ join ls := rfl

theorem files_join (ls : List Listing) : (join ls).files = ls.flatMap files := by
  induction ls with
  | nil => rfl
  | cons l ls ih => rw [join_cons, append_files, ih, List.flatMap_cons]

theorem missing_join {ls : List Listing} (h : ∀ l ∈ ls, l.missing = 0) : (join ls).missing = 0 := by
  induction ls with
  | nil => rfl
  | cons l ls ih =>
    rw [join_cons, append_missing, h l List.mem_cons_self,
      ih fun l' hl => h l' (List.mem_cons_of_mem _ hl)]

end Listing

namespace Walk

variable {s : Settings} {v : Volume}

theorem unfit?_below {folder name : Text} (hf : Text.unfit? folder = none)
    (hn : Text.unfit? name = none) :
    Text.unfit? (below folder name) = none := by
  rw [below]
  split
  · exact Text.unfit?_append.mpr ⟨hf, hn⟩
  · exact Text.unfit?_append.mpr ⟨hf, Text.unfit?_cons.mpr ⟨rfl, by decide, hn⟩⟩

theorem isFit_of_listEntries {folder : Text} {folders others : List Text}
    (hf : Text.unfit? folder = none) (hothers : ∀ name ∈ others, Text.unfit? name = none) {p : Path}
    (h : p ∈ (listEntries s folder folders others).files) : p.IsFit := by
  obtain ⟨name, hname, rfl⟩ := List.mem_map.mp h
  have hmem : name ∈ others := List.mem_mergeSort.mp (List.mem_filter.mp hname).1
  exact (Path.isFit_ofText hf).append (Path.isFit_ofText (hothers name hmem))

theorem isFit_of_listFolder (hv : v.IsNamed) {depth : Nat} {folder : Text}
    (hf : Text.unfit? folder = none) {p : Path}
    (h : p ∈ (listFolder s v depth folder).files) : p.IsFit := by
  induction depth generalizing folder with
  | zero => cases h
  | succ depth ih =>
    rw [listFolder] at h
    split at h
    · cases h
    · next entries hlist =>
      rcases List.mem_append.mp h with h | h
      · refine isFit_of_listEntries hf (fun name hname => ?_) h
        obtain ⟨e, he, rfl⟩ := List.mem_map.mp hname
        exact hv.list hlist (List.mem_filter.mp he).1
      · rw [Listing.files_join] at h
        obtain ⟨l, hl, hp⟩ := List.mem_flatMap.mp h
        obtain ⟨e, he, rfl⟩ := List.mem_map.mp hl
        exact ih (unfit?_below hf (hv.list hlist (List.mem_filter.mp (List.mem_filter.mp he).1).1))
          hp

theorem missing_listFolder (depth : Nat) (folder : Text) :
    (listFolder s v depth folder).missing = 0 := by
  induction depth generalizing folder with
  | zero => rfl
  | succ depth ih =>
    rw [listFolder]
    split
    · rfl
    · refine (Nat.zero_add _).trans (Listing.missing_join fun l hl => ?_)
      obtain ⟨e, -, rfl⟩ := List.mem_map.mp hl
      exact ih _

def IsMissing (v : Volume) (root : Text) : Prop := v.exists? (Path.ofText root).text = .ok false

instance (v : Volume) (root : Text) : Decidable (IsMissing v root) :=
  inferInstanceAs (Decidable (_ = _))

/-- A root is too long, or it is listed, and counted if it is missing. -/
theorem listRoot_cases (s : Settings) (v : Volume) (root : Text) :
    (v.IsTooLong (Path.ofText root).text ∧
      listRoot s v root = .error (.system .nameTooLong (Path.ofText root).text none)) ∨
    (¬ v.IsTooLong (Path.ofText root).text ∧ ∃ l, listRoot s v root = .ok l ∧
      l.missing = (if IsMissing v root then 1 else 0) ∧
      (v.IsNamed → ∀ p ∈ l.files, Text.unfit? p.text = none)) := by
  rcases v.exists?_cases (Path.ofText root).text with ⟨hlong, he⟩ | ⟨hlong, he | ⟨hfit, he, b, hb⟩⟩
  · exact .inl ⟨hlong, by rw [listRoot, he]; rfl⟩
  · refine .inr ⟨hlong, _, by rw [listRoot, he]; rfl, (if_pos (show IsMissing v root from he)).symm,
      fun _ _ hp => ?_⟩
    cases hp
  · have hthere : ¬ IsMissing v root := fun h => by simp [IsMissing, he] at h
    simp only [if_neg hthere]
    cases b with
    | true =>
      refine .inr ⟨hlong, _, by rw [listRoot, he]; simp only [bind, Except.bind, hb]; rfl, rfl,
        fun _ p hp => ?_⟩
      obtain rfl := List.mem_singleton.mp hp
      exact hfit
    | false =>
      refine .inr ⟨hlong, _, by rw [listRoot, he]; simp only [bind, Except.bind, hb]; rfl, ?_,
        fun hv p hp => ?_⟩
      · exact (Nat.zero_add _).trans (missing_listFolder _ _)
      · exact Path.unfit?_text_iff.mpr
          (isFit_of_listFolder hv hfit ((List.mem_append.mp hp).resolve_left nofun))

/-- Roots are listed to the end unless one of them is too long. -/
theorem listRoots_fault_eq_none_iff {roots : List Text} : (listRoots s v roots).2 = none ↔
    ∀ root ∈ roots, ¬ v.IsTooLong (Path.ofText root).text := by
  induction roots with
  | nil => simp [listRoots]
  | cons root roots ih =>
    rcases listRoot_cases s v root with ⟨hlong, he⟩ | ⟨hlong, l, hl, -⟩
    · simp [listRoots, he, hlong]
    · simp [listRoots, hl, hlong, ih]

theorem missing_listRoots {roots : List Text} (h : (listRoots s v roots).2 = none) :
    (listRoots s v roots).1.missing = roots.countP fun root => IsMissing v root := by
  induction roots with
  | nil => rfl
  | cons root roots ih =>
    rcases listRoot_cases s v root with ⟨-, he⟩ | ⟨-, l, hl, hmissing, -⟩
    · simp [listRoots, he] at h
    · simp only [listRoots, hl] at h ⊢
      rw [Listing.append_missing, hmissing, ih h, List.countP_cons, Nat.add_comm]
      simp only [decide_eq_true_eq]

theorem unfit?_listRoots (hv : v.IsNamed) {roots : List Text} {p : Path}
    (hp : p ∈ (listRoots s v roots).1.files) :
    Text.unfit? p.text = none := by
  induction roots with
  | nil => cases hp
  | cons root roots ih =>
    rcases listRoot_cases s v root with ⟨-, he⟩ | ⟨-, l, hl, -, hnamed⟩
    · simp only [listRoots, he] at hp
      cases hp
    · simp only [listRoots, hl] at hp
      rcases List.mem_append.mp hp with hp | hp
      · exact hnamed hv p hp
      · exact ih hp

end Walk

end FileTags

import FileTags.Proofs.Text.Split
import FileTags.Proofs.Text.System
import FileTags.Proofs.Volume.Trail

/-!
# Texts of paths

The text of a path leads through the names of the path. A name below a path that leads to a folder
is a slot in this folder, and nothing has to be made when the folder itself is to be there.
-/

set_option autoImplicit false

namespace FileTags

namespace Text

theorem exists_intercalate_concat {α : Type} (sep : List α) (parts : List (List α)) (t : List α) :
    ∃ lead, sep.intercalate (parts ++ [t]) = lead ++ t := by
  induction parts with
  | nil => exact ⟨[], by simp⟩
  | cons part parts ih =>
    obtain ⟨lead, hlead⟩ := ih
    refine ⟨part ++ sep ++ lead, ?_⟩
    rw [List.cons_append, List.intercalate_cons_of_ne_nil (by simp), hlead]
    simp

theorem not_mem_of_mem_split {α : Type} [DecidableEq α] {sep : α} {part t : List α}
    (h : part ∈ split sep t) : sep ∉ part := by
  rw [split_eq_splitOn] at h
  exact fun hmem => (mem_of_mem_splitOn h hmem).1 rfl

end Text

namespace Path

variable {p q : Path} {name : Text}

/-- All names are such as stand in a path that has been read. -/
def IsNormal (p : Path) : Prop := ∀ name ∈ p.names, .char '/' ∉ name ∧ isName name = true

theorem isNormal_ofText (t : Text) : (ofText t).IsNormal := by
  intro name hname
  obtain ⟨hsplit, hproper⟩ := List.mem_filter.mp hname
  exact ⟨Text.not_mem_of_mem_split hsplit, hproper⟩

theorem IsNormal.append (hp : p.IsNormal) (hq : q.IsNormal) : (p ++ q).IsNormal := by
  change (Path.append p q).IsNormal
  rw [Path.append]
  split
  · exact hq
  · intro name hname
    rcases List.mem_append.mp hname with h | h
    · exact hp name h
    · exact hq name h

theorem isNormal_expandUser {homes : Homes} (hp : p.IsNormal) (h : p.expandUser homes = .ok q) :
    q.IsNormal := by
  rw [expandUser] at h
  split at h
  · next rest hslashes hnames =>
    split at h
    · cases h
    · split at h
      · next home _ =>
        obtain rfl := Except.ok.inj h
        exact (isNormal_ofText home).append fun name hname =>
          hp name (hnames ▸ List.mem_cons_of_mem _ hname)
      · cases h
  · obtain rfl := Except.ok.inj h
    exact hp

theorem text_of_names (h : p.names ≠ []) :
    p.text = List.replicate p.slashes (.char '/') ++ Text.join [.char '/'] p.names := by
  rw [text, if_neg fun hp => h hp.2]

theorem ne_nil_of_isName (h : isName name = true) : name ≠ [] := by
  rintro rfl
  cases h

theorem takeWhile_slash_of_not_mem {t : Text} (h : .char '/' ∉ t) :
    t.takeWhile (· == .char '/') = [] := by
  cases t with
  | nil => rfl
  | cons c t => exact List.takeWhile_cons_of_neg fun hc => h (eq_of_beq hc ▸ List.mem_cons_self)

theorem ofText_name (hslash : .char '/' ∉ name) (hname : isName name = true) :
    ofText name = ⟨0, [name]⟩ := by
  rw [ofText, Text.split_of_not_mem hslash, takeWhile_slash_of_not_mem hslash,
    List.filter_singleton, hname]
  rfl

theorem filter_split_slashes {keep : Text → Bool} (hkeep : keep [] = false) (k : Nat) (t : Text) :
    (Text.split (.char '/') (List.replicate k (.char '/') ++ t)).filter keep =
    (Text.split (.char '/') t).filter keep := by
  induction k with
  | zero => rfl
  | succ k ih =>
    rw [List.replicate_succ, List.cons_append, Text.split, if_pos rfl,
      List.filter_cons_of_neg (by simp [hkeep]), ih]

theorem filter_split_text {keep : Text → Bool} (hkeep : keep [] = false) (hp : p.IsNormal)
    (hne : p.names ≠ []) (hall : ∀ name ∈ p.names, keep name = true) :
    (Text.split (.char '/') p.text).filter keep = p.names := by
  rw [text_of_names hne, filter_split_slashes hkeep, Text.split_eq_splitOn,
    Text.join_eq_intercalate,
    List.splitOn_intercalate (Rune.char '/') (fun name hname => (hp name hname).1) hne]
  exact List.filter_eq_self.mpr hall

/-! ## Bytes of paths -/

theorem unfit?_text_iff : Text.unfit? p.text = none ↔
    ∀ name ∈ p.names, Text.unfit? name = none := by
  constructor
  · intro h name hname
    have hmem : ∀ c ∈ name, c ∈ p.text := by
      intro c hc
      rw [text_of_names (List.ne_nil_of_mem hname)]
      exact List.mem_append_right _ (Text.mem_join_of_mem hname hc)
    rw [Text.unfit?_eq_none_iff] at h ⊢
    exact ⟨fun c hc => h.1 c (hmem c hc), fun hc => h.2 (hmem _ hc)⟩
  · intro h
    have hslash : ∀ c : Rune, c = .char '/' → c.isStray = false ∧ c ≠ .char '\x00' := by
      rintro c rfl; decide
    have hall : ∀ c ∈ p.text, c.isStray = false ∧ c ≠ .char '\x00' := by
      intro c hc
      rw [text] at hc
      split at hc
      · obtain rfl := List.mem_singleton.mp hc
        decide
      · rcases List.mem_append.mp hc with hc | hc
        · exact hslash c (List.eq_of_mem_replicate hc)
        · rcases Text.mem_join hc with hc | ⟨name, hname, hc⟩
          · exact hslash c (List.mem_singleton.mp hc)
          · obtain ⟨hstray, hnull⟩ := Text.unfit?_eq_none_iff.mp (h name hname)
            exact ⟨hstray c hc, fun heq => hnull (heq ▸ hc)⟩
    exact Text.unfit?_eq_none_iff.mpr ⟨fun c hc => (hall c hc).1, fun hc => (hall _ hc).2 rfl⟩

theorem bytes_join (parts : List Text) :
    Utf8.bytes (Text.join [.char '/'] parts) =
      [Volume.slash].intercalate (parts.map Utf8.bytes) := by
  rw [Text.join_eq_intercalate]
  induction parts with
  | nil => rfl
  | cons part parts ih =>
    cases parts with
    | nil => simp
    | cons next parts =>
      rw [List.intercalate_cons_cons, Utf8.bytes_append, Utf8.bytes_append, ih]
      simp only [List.map_cons, List.intercalate_cons_cons]
      rfl

structure IsStep (name : Blob) : Prop where
  ne_nil : name ≠ []
  ne_dot : name ≠ Volume.dot
  no_slash : Volume.slash ∉ name

theorem eq_dots_of_bytes {n : Nat} (hfit : Text.unfit? name = none)
    (h : Utf8.bytes name = List.replicate n 46) : name = List.replicate n (.char '.') := by
  have hascii : ∀ x ∈ Utf8.bytes name, x.toNat < 128 := by
    intro x hx
    rw [h] at hx
    rw [List.eq_of_mem_replicate hx]
    decide
  rw [Text.eq_of_ascii hfit hascii, h, List.map_replicate]
  rfl

theorem isStep_bytes (hfit : Text.unfit? name = none)
    (hname : .char '/' ∉ name ∧ isName name = true) : IsStep (Utf8.bytes name) where
  ne_nil h := ne_nil_of_isName hname.2 (Text.bytes_eq_nil.mp h)
  ne_dot h := by
    rw [eq_dots_of_bytes (n := 1) hfit h] at hname
    cases hname.2
  no_slash h := hname.1 (Text.mem_of_mem_bytes hfit h (by decide))

theorem bytes_replicate_slash (k : Nat) :
    Utf8.bytes (List.replicate k (.char '/')) = List.replicate k Volume.slash := by
  induction k with
  | zero => rfl
  | succ k ih => rw [List.replicate_succ, List.replicate_succ, Utf8.bytes_cons, ih]; rfl

theorem filter_split_bytes (k : Nat) (b : Blob) :
    (Text.split Volume.slash (List.replicate k Volume.slash ++ b)).filter
    (fun name => !name.isEmpty) =
      (Text.split Volume.slash b).filter (fun name => !name.isEmpty) := by
  induction k with
  | zero => rfl
  | succ k ih =>
    rw [List.replicate_succ, List.cons_append, Text.split, if_pos rfl,
    List.filter_cons_of_neg (by simp), ih]

theorem stepsOf_slashes (k : Nat) : Volume.stepsOf (Utf8.bytes (text ⟨k + 1, []⟩)) = [] := by
  have hbytes : Utf8.bytes (text ⟨k + 1, []⟩) = List.replicate (k + 1) Volume.slash ++ [] := by
    simp [text, Text.join, bytes_replicate_slash]
  rw [Volume.stepsOf, hbytes, filter_split_bytes]
  simp [Text.split]

theorem stepsOf_text (hp : p.IsNormal) (hfit : Text.unfit? p.text = none) (hne : p.names ≠ []) :
    Volume.stepsOf (Utf8.bytes p.text) = p.names.map Utf8.bytes := by
  have hsteps : ∀ step ∈ p.names.map Utf8.bytes, IsStep step := by
    intro step hstep
    obtain ⟨name, hname, rfl⟩ := List.mem_map.mp hstep
    exact isStep_bytes (unfit?_text_iff.mp hfit name hname) (hp name hname)
  have hbytes : Utf8.bytes p.text = List.replicate p.slashes Volume.slash ++
      [Volume.slash].intercalate (p.names.map Utf8.bytes) := by
    rw [text_of_names hne, Utf8.bytes_append, bytes_replicate_slash, bytes_join]
  have hmap : p.names.map Utf8.bytes ≠ [] := by simpa using hne
  generalize p.names.map Utf8.bytes = steps at hsteps hbytes hmap ⊢
  have hsplit : (Text.split Volume.slash (Utf8.bytes p.text)).filter (fun name => !name.isEmpty) =
      steps := by
    rw [hbytes, filter_split_bytes, Text.split_eq_splitOn,
      List.splitOn_intercalate Volume.slash (fun step hstep => (hsteps step hstep).no_slash) hmap]
    exact List.filter_eq_self.mpr fun step hstep => by simpa using (hsteps step hstep).ne_nil
  have hlast : (Utf8.bytes p.text).getLast? ≠ some Volume.slash := by
    have hstep := hsteps (steps.getLast hmap) (List.getLast_mem hmap)
    obtain ⟨lead, hlead⟩ :=
      Text.exists_intercalate_concat [Volume.slash] steps.dropLast (steps.getLast hmap)
    rw [List.dropLast_concat_getLast] at hlead
    rw [hbytes, hlead, ← List.append_assoc, List.getLast?_append,
      List.getLast?_eq_some_getLast hstep.ne_nil]
    exact fun h => hstep.no_slash (Option.some.inj h ▸ List.getLast_mem hstep.ne_nil)
  rw [Volume.stepsOf, hsplit, if_neg fun h => hlast h.1]

theorem takeWhile_text (hp : p.IsNormal) (hne : p.names ≠ []) :
    p.text.takeWhile (· == .char '/') = List.replicate p.slashes (.char '/') := by
  have hnone : (Text.join [.char '/'] p.names).takeWhile (· == .char '/') = [] := by
    obtain ⟨name, names, hnames⟩ := List.exists_cons_of_ne_nil hne
    obtain ⟨hslash, hname⟩ := hp name (hnames ▸ List.mem_cons_self)
    obtain ⟨c, rest, rfl⟩ := List.exists_cons_of_ne_nil (ne_nil_of_isName hname)
    have hc : c ≠ .char '/' := fun hc => hslash (hc ▸ List.mem_cons_self)
    rw [hnames]
    cases names <;> simp [Text.join, hc]
  rw [text_of_names hne, List.takeWhile_append, hnone, List.append_nil]
  simp

theorem slashes_ofText_le (t : Text) : (ofText t).slashes ≤ 2 := by
  simp only [ofText]
  split <;> omega

theorem ofText_text (hp : p.IsNormal) (hslashes : p.slashes ≤ 2) : ofText p.text = p := by
  by_cases hne : p.names = []
  · obtain ⟨slashes, names⟩ := p
    obtain rfl := hne
    match slashes, hslashes with
    | 0, _ => rfl
    | 1, _ => rfl
    | 2, _ => rfl
  · rw [ofText, takeWhile_text hp hne, filter_split_text rfl hp hne fun name hname =>
      (hp name hname).2, List.length_replicate,
      if_neg (Nat.not_lt.mpr hslashes)]

theorem ofText_text_ofText (t : Text) : ofText (ofText t).text = ofText t :=
  ofText_text (isNormal_ofText t) (slashes_ofText_le t)

/-- A path with slashes in front starts at the top, any other where one is. -/
theorem rootOf_text (hp : p.IsNormal) (hfit : Text.unfit? p.text = none) (here : Place) :
    Volume.rootOf here (Utf8.bytes p.text) = if p.slashes = 0 then here else [] := by
  rw [Volume.rootOf]
  by_cases hslashes : p.slashes = 0
  · rw [if_pos hslashes, if_neg]
    by_cases hne : p.names = []
    · obtain ⟨slashes, names⟩ := p
      obtain rfl : slashes = 0 := hslashes
      obtain rfl : names = [] := hne
      decide
    · obtain ⟨name, names, hnames⟩ := List.exists_cons_of_ne_nil hne
      have hmem : name ∈ p.names := hnames ▸ List.mem_cons_self
      have hstep := isStep_bytes (unfit?_text_iff.mp hfit name hmem) (hp name hmem)
      obtain ⟨x, rest, hbytes⟩ := List.exists_cons_of_ne_nil hstep.ne_nil
      have hx : x ≠ Volume.slash :=
        fun h => hstep.no_slash (by rw [hbytes, h]; exact List.mem_cons_self)
      rw [text_of_names hne, hslashes, List.replicate_zero, List.nil_append, bytes_join, hnames,
        List.map_cons, hbytes]
      cases names <;> simpa [List.intercalate_cons_cons] using hx
  · rw [if_neg hslashes, if_pos]
    obtain ⟨k, hk⟩ := Nat.exists_eq_succ_of_ne_zero hslashes
    rw [text, if_neg fun h => hslashes h.1, hk, List.replicate_succ, List.cons_append,
      Utf8.bytes_cons]
    rfl

end Path

namespace Volume

variable {v w : Volume} {p : Path} {d : Place} {name : Text} {b : Blob}

/-! ## Folders -/

theorem Leads.follow (h : v.Leads p.text d) (hp : p.IsNormal) :
    v.follow linkLimit (rootOf v.work (Utf8.bytes p.text)) (p.names.map Utf8.bytes) = .ok d := by
  obtain ⟨hfit, hplace⟩ := leads_iff.mp h
  rw [place] at hplace
  cases hcheck : checkPath (Utf8.bytes p.text) with
  | error e => simp [hcheck, bind, Except.bind] at hplace
  | ok =>
    simp only [hcheck, bind, Except.bind] at hplace
    by_cases hne : p.names = []
    · obtain ⟨slashes, names⟩ := p
      subst hne
      cases slashes with
      | zero =>
        -- The text of the empty path is a dot, which stays where it is.
        have hsteps : stepsOf (Utf8.bytes (Path.text ⟨0, []⟩)) = [dot] := rfl
        rw [hsteps, follow_cons] at hplace
        split at hplace
        · cases hplace
        · exact hplace
      | succ k =>
        rwa [Path.stepsOf_slashes] at hplace
    · rwa [Path.stepsOf_text hp hfit hne] at hplace

/-- A name below a path to a folder is a slot in the folder, if the whole is not too long. -/
theorem slot_below (hp : p.IsNormal)
    (hfit : Text.unfit? (Path.text ⟨p.slashes, p.names ++ [name]⟩) = none)
    (hd : v.follow linkLimit (rootOf v.work (Utf8.bytes p.text)) (p.names.map Utf8.bytes) = .ok d)
    (hfolder : v.isFolder d = true)
    (hname : .char '/' ∉ name ∧ Path.isName name = true) (hdots : name ≠ [.char '.', .char '.']) :
    v.slot (Utf8.bytes (Path.text ⟨p.slashes, p.names ++ [name]⟩)) = (do
      checkPath (Utf8.bytes (Path.text ⟨p.slashes, p.names ++ [name]⟩))
      if (Utf8.bytes name).length > nameLimit then .error .nameTooLong
        else .ok ⟨d, some (Utf8.bytes name)⟩) := by
  have hnormal : Path.IsNormal ⟨p.slashes, p.names ++ [name]⟩ := by
    intro other hother
    rcases List.mem_append.mp hother with h | h
    · exact hp other h
    · rwa [List.mem_singleton.mp h]
  have hfit' : Text.unfit? name = none := Path.unfit?_text_iff.mp hfit name (by simp)
  have hdot : Utf8.bytes name ≠ dot := (Path.isStep_bytes hfit' hname).ne_dot
  have hdots : Utf8.bytes name ≠ dots := fun h => hdots (Path.eq_dots_of_bytes (n := 2) hfit' h)
  have hstart : rootOf v.work (Utf8.bytes (Path.text ⟨p.slashes, p.names ++ [name]⟩)) =
      rootOf v.work (Utf8.bytes p.text) := by
    have hpfit : Text.unfit? p.text = none :=
      Path.unfit?_text_iff.mpr fun other hother =>
        Path.unfit?_text_iff.mp hfit other (List.mem_append_left _ hother)
    rw [Path.rootOf_text hnormal hfit, Path.rootOf_text hp hpfit]
  rw [slot, Path.stepsOf_text hnormal hfit (by simp), hstart]
  simp only [List.map_append, List.map_cons, List.map_nil, List.dropLast_concat,
    List.getLast?_concat, hd]
  cases checkPath (Utf8.bytes (Path.text ⟨p.slashes, p.names ++ [name]⟩)) with
  | error e => rfl
  | ok => simp [bind, Except.bind, hfolder, hdot, hdots, pure, Except.pure]

theorem exists_slot (h : v.place b = .ok d) : ∃ s, v.slot b = .ok s ∧ v.atSlot? s ≠ none := by
  rw [place] at h
  cases hcheck : checkPath b with
  | error e => simp [hcheck, bind, Except.bind] at h
  | ok =>
    simp only [hcheck, bind, Except.bind] at h
    by_cases hne : stepsOf b = []
    · refine ⟨⟨rootOf v.work b, none⟩, ?_, Option.some_ne_none _⟩
      simp [slot, hcheck, hne, follow_nil, bind, Except.bind, pure, Except.pure]
    · rw [← List.dropLast_concat_getLast hne] at h
      obtain ⟨m, hm, hfolder, hlast⟩ := (trail_of_follow h).before_last
      simp only [slot, hcheck, hm.follow, List.getLast?_eq_some_getLast hne, hfolder, bind,
        Except.bind]
      rcases hlast with hdot | hdots | ⟨hentry, hnode⟩
      · exact ⟨⟨m, none⟩, by simp [hdot, pure, Except.pure], Option.some_ne_none _⟩
      · exact ⟨⟨m.tail, none⟩, by rw [hdots]; rfl, Option.some_ne_none _⟩
      · have hsize : ¬ ((stepsOf b).getLast hne).length > nameLimit :=
          Nat.not_lt.mpr hentry.length_le
        refine ⟨⟨m, some ((stepsOf b).getLast hne)⟩, by simp [hentry.ne_dot, hentry.ne_dots, hsize,
          pure, Except.pure], ?_⟩
        exact Option.isSome_iff_ne_none.mp hnode

theorem ensureWith_of_leads (above : Volume → Except VolumeFault Unit × Volume)
    (h : v.Leads p.text d) (hfolder : v.isFolder d = true) :
    ensureWith above p v = (.ok (), v) := by
  obtain ⟨hfit, hplace⟩ := leads_iff.mp h
  obtain ⟨s, hslot, hthere⟩ := exists_slot hplace
  have hcreate : v.create s .folder = .error .alreadyThere := by
    rw [create]
    split
    · next heq => exact absurd heq hthere
    · rfl
  have hmake : v.makeFolder p.text = .error (.system .alreadyThere p.text none) := by
    rw [makeFolder, located_of_fit hfit, hslot]
    simp only [bind, Except.bind, hcreate]
    rfl
  have hisFolder : v.isFolder? p.text = .ok true := by
    rw [isFolder, beq_iff_eq] at hfolder
    rw [isFolder?, status, located_of_fit hfit, hplace]
    simp only [bind, Except.bind, hfolder]
    rfl
  have htolerate : v.tolerate p.text (.system .alreadyThere p.text none) = .ok () := by
    rw [tolerate, hisFolder]
    rfl
  have habsence : (VolumeFault.system .alreadyThere p.text none).isAbsence = false := rfl
  rw [ensureWith, hmake]
  simp only [habsence, Bool.false_and, Bool.false_eq_true, if_false, htolerate]

/-- Nothing has to be made for a folder to be there that is there. -/
theorem ensureFolder_of_leads (h : v.Leads p.text d) (hfolder : v.isFolder d = true) :
    ensureFolder p v = (.ok (), v) := by
  obtain ⟨slashes, names⟩ := p
  rw [ensureFolder]
  cases hreverse : names.reverse with
  | nil =>
    obtain rfl := List.reverse_eq_nil_iff.mp hreverse
    exact ensureWith_of_leads _ h hfolder
  | cons name above =>
    rw [← List.reverse_reverse names, hreverse] at h
    exact ensureWith_of_leads _ h hfolder

end Volume

end FileTags

import FileTags.Proofs.TagMap.Reading
import FileTags.Proofs.Text.Split

/-!
# Storing tag maps

A tag map is stored as a text without escaping, so not every map comes back from it. Those that do
are the ones whose names and values a tag list can hold, and these are also the only ones that
reading ever gives.
-/

set_option autoImplicit false

namespace FileTags

open Text

/-- No separator and no tab in it, and no blank at either end. -/
structure Storable (t : Text) : Prop where
  chars : ∀ c ∈ t, c ∉ [.char ',', .char '=', .char '\t']
  ends : BareEnds t

/-- The names and values of the map can stand in a tag list; a value may be empty, a name may
not. -/
structure TagMap.WellFormed (m : TagMap) : Prop where
  name_ne_nil : ∀ entry ∈ m.entries, entry.1 ≠ []
  names : ∀ entry ∈ m.entries, Storable entry.1
  values : ∀ entry ∈ m.entries, ∀ value ∈ entry.2, Storable value

/-! ## Stripped texts -/

namespace Text

theorem mem_of_mem_stripOf {p : Rune → Bool} {c : Rune} {t : Text} (h : c ∈ stripOf p t) :
    c ∈ t := by
  obtain ⟨lead, trail, hsplit, -⟩ := exists_stripOf p t
  rw [hsplit]
  simp [h]

end Text

/-! ## Entries and pieces -/

namespace TagList

variable {piece m : Text}

theorem storable_stripOf (hcomma : .char ',' ∉ m) (hsign : .char '=' ∉ m) (htab : .char '\t' ∉ m)
    (hends : BareEnds (stripOf isGap m)) :
    Storable (stripOf isGap m) := by
  refine ⟨fun c hc hm => ?_, hends⟩
  have hc' := mem_of_mem_stripOf hc
  simp only [List.mem_cons, List.not_mem_nil, or_false] at hm
  rcases hm with rfl | rfl | rfl
  · exact hcomma hc'
  · exact hsign hc'
  · exact htab hc'

theorem IsPiece.storable (h : IsPiece piece) (hcomma : .char ',' ∉ piece)
    (htab : .char '\t' ∉ piece) :
    Storable (pieceName piece) ∧ ∀ value ∈ pieceValue? piece, Storable value := by
  by_cases hsign : .char '=' ∈ piece
  · obtain ⟨m, behind, rfl, hm⟩ := List.eq_append_cons_of_mem hsign
    obtain ⟨⟨-, hends⟩, hb, hv⟩ := (isPiece_signed hm behind).mp h
    simp only [List.mem_append, List.mem_cons, not_or] at hcomma htab
    rw [pieceName_signed hm, pieceValue?_signed hm]
    refine ⟨storable_stripOf hcomma.1 hm htab.1 hends, fun value hvalue => ?_⟩
    obtain rfl : stripOf isGap behind = value := by simpa using hvalue
    exact storable_stripOf hcomma.2.2 hb htab.2.2 hv
  · rw [pieceName_plain hsign, pieceValue?_plain hsign]
    exact ⟨storable_stripOf hcomma hsign htab ((isPiece_plain hsign).mp h).2, by simp⟩

theorem map_entriesOf (offset : Nat) (pieces : List Text) :
    (entriesOf offset pieces).map (fun e => (e.name, e.value)) = pieces.map fun piece =>
    (pieceName piece, pieceValue? piece) := by
  induction pieces generalizing offset with
  | nil => rfl
  | cons piece pieces ih => simp [entriesOf, ih]

theorem stripOf_storable {t : Text} (h : Storable t) : stripOf isGap t = t := by
  have hhead : ∀ c ∈ t.head?, isGap c = false :=
    fun c hc => TagEntry.isGap_of_not_isBlank (h.ends.1 c hc)
  have hlast : ∀ c ∈ t.getLast?, isGap c = false :=
    fun c hc => TagEntry.isGap_of_not_isBlank (h.ends.2 c hc)
  have hstrip := @stripOf_append isGap t [] [] (by simp) (by simp) hhead hlast
  simpa using hstrip

/-- What is written for an entry is a piece, and the piece has the name and the value of the
entry. -/
theorem isPiece_encodeEntry {entry : Text × Option Text} (hne : entry.1 ≠ [])
    (hn : Storable entry.1) (hv : ∀ value ∈ entry.2, Storable value) :
    IsPiece (TagMap.encodeEntry entry) ∧
      (pieceName (TagMap.encodeEntry entry), pieceValue? (TagMap.encodeEntry entry)) = entry := by
  have hsign : ∀ {t : Text}, Storable t → .char '=' ∉ t := fun ht hm => ht.chars _ hm (by decide)
  obtain ⟨name, value⟩ := entry
  cases value with
  | none =>
    rw [TagMap.encodeEntry, isPiece_plain (hsign hn), pieceName_plain (hsign hn),
      pieceValue?_plain (hsign hn), stripOf_storable hn]
    exact ⟨⟨hne, hn.ends⟩, rfl⟩
  | some value =>
    have hvalue := hv value rfl
    rw [TagMap.encodeEntry, isPiece_signed (hsign hn), pieceName_signed (hsign hn),
      pieceValue?_signed (hsign hn), stripOf_storable hn, stripOf_storable hvalue]
    exact ⟨⟨⟨hne, hn.ends⟩, hsign hvalue, hvalue.ends⟩, rfl⟩

end TagList

namespace TagMap

variable {m n : TagMap} {t name : Text} {value : Option Text} {es : List (Text × Option Text)}

/-! ## Maps of lists -/

theorem mem_setEntry {entry : Text × Option Text} (h : entry ∈ setEntry name value es) :
    entry = (name, value) ∨ entry ∈ es := by
  induction es with
  | nil => exact .inl (by simpa [setEntry] using h)
  | cons e es ih =>
    rw [setEntry] at h
    split at h
    · rcases List.mem_cons.mp h with rfl | h
      · exact .inl rfl
      · exact .inr (List.mem_cons_of_mem _ h)
    · rcases List.mem_cons.mp h with rfl | h
      · exact .inr List.mem_cons_self
      · exact (ih h).imp id (List.mem_cons_of_mem _)

theorem setEntry_of_not_mem (h : name ∉ es.map Prod.fst) :
    setEntry name value es = es ++ [(name, value)] := by
  induction es with
  | nil => rfl
  | cons e es ih =>
    simp only [List.map_cons, List.mem_cons, not_or] at h
    rw [setEntry, if_neg (Ne.symm h.1), ih h.2, List.cons_append]

theorem mem_foldl_insert {entry : Text × Option Text}
    (h : entry ∈ (es.foldl (fun m e => m.insert e.1 e.2) m).entries) :
    entry ∈ m.entries ∨ entry ∈ es := by
  induction es generalizing m with
  | nil => exact .inl h
  | cons e es ih =>
    rcases ih h with h | h
    · exact (mem_setEntry h).elim (fun he => .inr (he ▸ List.mem_cons_self)) .inl
    · exact .inr (List.mem_cons_of_mem _ h)

theorem mem_ofList {entry : Text × Option Text} (h : entry ∈ (ofList es).entries) : entry ∈ es :=
  (mem_foldl_insert h).resolve_left (by simp [empty])

theorem foldl_insert_entries (h : ((m.entries ++ es).map Prod.fst).Nodup) :
    (es.foldl (fun m e => m.insert e.1 e.2) m).entries = m.entries ++ es := by
  induction es generalizing m with
  | nil => simp
  | cons e es ih =>
    have hfresh : e.1 ∉ m.entries.map Prod.fst := by
      simp only [List.map_append, List.map_cons, List.nodup_append, List.mem_cons] at h
      exact fun hm => h.2.2 _ hm _ (.inl rfl) rfl
    have hinsert : (m.insert e.1 e.2).entries = m.entries ++ [e] := setEntry_of_not_mem hfresh
    rw [List.foldl_cons, ih (by rw [hinsert]; simpa using h), hinsert, List.append_assoc,
      List.singleton_append]

theorem ofList_entries (m : TagMap) : ofList m.entries = m :=
  ext_entries (foldl_insert_entries (m := empty) m.nodup)

/-! ## Reading and writing -/

theorem decode_eq_ok_iff : decode t = .ok n ↔
    ∃ es, TagList.read t = .ok es ∧ ofList (es.map fun e => (e.name, e.value)) = n := by
  rw [decode]
  cases TagList.read t <;> simp [Except.map]

theorem wellFormed_of_decode (h : decode t = .ok n) : n.WellFormed := by
  obtain ⟨es, hread, rfl⟩ := decode_eq_ok_iff.mp h
  have hentry : ∀ entry ∈ es.map fun e => (e.name, e.value),
      entry.1 ≠ [] ∧ Storable entry.1 ∧ ∀ value ∈ entry.2, Storable value := by
    intro entry hentry
    rcases TagList.read_iff_gap_or_pieces.mp hread with ⟨-, rfl⟩ | ⟨hpieces, rfl⟩
    · simp at hentry
    · rw [TagList.map_entriesOf] at hentry
      obtain ⟨piece, hpiece, rfl⟩ := List.mem_map.mp hentry
      have hp := hpieces piece hpiece
      have hcomma : .char ',' ∉ piece := fun hc => (mem_of_mem_splitOn hpiece hc).1 rfl
      have htab : .char '\t' ∉ piece :=
        fun hc => no_tab_expandTabsFrom t 0 (mem_of_mem_splitOn hpiece hc).2
      exact ⟨hp.name_ne_nil, hp.storable hcomma htab⟩
  exact ⟨fun e he => (hentry e (mem_ofList he)).1, fun e he => (hentry e (mem_ofList he)).2.1,
    fun e he => (hentry e (mem_ofList he)).2.2⟩

theorem WellFormed.mem_encodeEntry {entry : Text × Option Text} (h : m.WellFormed)
    (he : entry ∈ m.entries) :
    ∀ c ∈ encodeEntry entry, c ≠ .char ',' ∧ c ≠ .char '\t' := by
  have hpart : ∀ {t : Text}, Storable t → ∀ c ∈ t, c ≠ .char ',' ∧ c ≠ .char '\t' :=
    fun ht c hc => by
    have hchar := ht.chars c hc
    simp only [List.mem_cons, not_or] at hchar
    exact ⟨hchar.1, hchar.2.2.1⟩
  have hname := hpart (h.names entry he)
  have hvalue := h.values entry he
  obtain ⟨name, value⟩ := entry
  cases value with
  | none => exact hname
  | some value =>
    intro c hc
    simp only [encodeEntry, List.mem_append, List.mem_cons] at hc
    rcases hc with hc | rfl | hc
    · exact hname c hc
    · decide
    · exact hpart (hvalue value rfl) c hc

theorem WellFormed.read_encode (h : m.WellFormed) (hne : m.entries ≠ []) :
    TagList.read m.encode = .ok (TagList.entriesOf 0 (m.entries.map encodeEntry)) := by
  have hcomma : ∀ part ∈ m.entries.map encodeEntry, .char ',' ∉ part := by
    intro part hpart hm
    obtain ⟨entry, he, rfl⟩ := List.mem_map.mp hpart
    exact (h.mem_encodeEntry he _ hm).1 rfl
  have htab : .char '\t' ∉ m.encode := by
    intro hm
    rcases mem_join hm with hm | ⟨part, hpart, hm⟩
    · exact absurd hm (by decide)
    · obtain ⟨entry, he, rfl⟩ := List.mem_map.mp hpart
      exact (h.mem_encodeEntry he _ hm).2 rfl
  have hsplit : m.encode.splitOn (.char ',') = m.entries.map encodeEntry := by
    rw [encode, encodeEntries, join_eq_intercalate,
      List.splitOn_intercalate (Rune.char ',') hcomma (by simpa using hne)]
  have hpieces : ∀ piece ∈ m.encode.splitOn (.char ','), TagList.IsPiece piece := by
    intro piece hpiece
    rw [hsplit] at hpiece
    obtain ⟨entry, he, rfl⟩ := List.mem_map.mp hpiece
    exact (TagList.isPiece_encodeEntry (h.name_ne_nil entry he) (h.names entry he)
      (h.values entry he)).1
  rw [TagList.read_iff_gap_or_pieces, expandTabs_eq_self htab]
  exact .inr ⟨hpieces, by rw [hsplit]⟩

theorem WellFormed.decode_encode (h : m.WellFormed) : decode m.encode = .ok m := by
  refine decode_eq_ok_iff.mpr ?_
  by_cases hne : m.entries = []
  · refine ⟨[], ?_, ext_entries (by rw [hne]; rfl)⟩
    rw [encode, hne]
    rfl
  · refine ⟨_, h.read_encode hne, ?_⟩
    have hentries : (m.entries.map encodeEntry).map (fun piece =>
      (TagList.pieceName piece, TagList.pieceValue? piece)) =
        m.entries := by
      rw [List.map_map]
      refine (List.map_congr_left fun entry he => ?_).trans (List.map_id m.entries)
      exact (TagList.isPiece_encodeEntry (h.name_ne_nil entry he) (h.names entry he)
        (h.values entry he)).2
    rw [TagList.map_entriesOf, hentries, ofList_entries]

/-- A map comes back from its text exactly if it is well formed, and so does everything that is ever
read. -/
theorem decode_encode_eq_ok_iff (m : TagMap) :
    (decode m.encode = .ok m ↔ m.WellFormed) ∧ ∀ t, decode t = .ok m →
    m.WellFormed ∧ decode m.encode = .ok m :=
  ⟨⟨wellFormed_of_decode, WellFormed.decode_encode⟩,
    fun _ h => ⟨wellFormed_of_decode h, (wellFormed_of_decode h).decode_encode⟩⟩

theorem decode_encode_eq_ok_iff_overwritten :
    ∃ m : TagMap, decode (Text.ofString "\ta b = c\u2003d ,\n x= , a b=,y") = .ok m ∧
      m.entries = [(Text.ofString "a b", some []), ([.char 'x'], some []), ([.char 'y'], none)] ∧
      m.WellFormed ∧ decode m.encode = .ok m := by
  have hread : ∃ m : TagMap, decode (Text.ofString "\ta b = c\u2003d ,\n x= , a b=,y") = .ok m ∧
      m.entries = [(Text.ofString "a b", some []), ([.char 'x'], some []), ([.char 'y'], none)] :=
        ⟨_, rfl, by decide⟩
  obtain ⟨m, hm, hentries⟩ := hread
  exact ⟨m, hm, hentries, (decode_encode_eq_ok_iff m).2 _ hm⟩

end TagMap

end FileTags

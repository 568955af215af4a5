import FileTags.Proofs.Bookmark.Storing
import FileTags.Proofs.Filter.Unfolding
import FileTags.Proofs.Term.Rendering
import FileTags.Proofs.Volume.Path

/-!
# Histories of bookmarks

Bookmarks are saved one after another into a folder that was empty. Each of them compiles when it is
saved, but a later one may take the place of one that it refers to, and a term with halves is not
read again. As long as no term leads to the name that it is saved under or has halves, every
bookmark of the folder goes on to compile.
-/

set_option autoImplicit false

namespace FileTags

open Volume

namespace BookmarkFolder

structure IsSimple (name : Text) : Prop where
  ne_nil : name ≠ []
  chars : ∀ c ∈ name, c ∉ [.char '/', .char '\x7b', .char '\x7d', .char '\t', .char '\x00']
  bare : Text.strip name = name
  ne_dot : name ≠ [.char '.']
  ne_dots : name ≠ [.char '.', .char '.']

/-- The folder is there, and nothing is in it. -/
structure IsEmpty (b : BookmarkFolder) (v : Volume) (d : Place) : Prop where
  leads : v.Leads b.path.text d
  isFolder : v.isFolder d = true
  children : v.children d = []

variable {b : BookmarkFolder} {v v₀ w : Volume} {d p : Place} {name r term : Text} {entry : Blob}
  {s : Slot}

theorem IsEmpty.node? (h : b.IsEmpty v₀ d) (entry : Blob) : v₀.node? (entry :: d) = none := by
  rw [Volume.node?, if_neg (List.cons_ne_nil _ _), List.lookup_eq_none_iff]
  intro e he
  have hnone := List.filterMap_eq_nil_iff.mp h.children e he
  obtain ⟨_ | ⟨other, above⟩, n⟩ := e
  · rfl
  · simp only [ite_eq_right_iff, reduceCtorEq, imp_false] at hnone
    exact bne_iff_ne.mpr fun heq => hnone (List.cons.inj heq).2.symm

/-! ## Paths of bookmarks -/

theorem IsSimple.isName (h : IsSimple name) : .char '/' ∉ name ∧ Path.isName name = true := by
  refine ⟨fun hslash => h.chars _ hslash (by simp), ?_⟩
  simpa [Path.isName, h.ne_nil] using h.ne_dot

theorem ofText_simple (h : IsSimple name) : Path.ofText name = ⟨0, [name]⟩ :=
  Path.ofText_name h.isName.1 h.isName.2

/-- The path of a bookmark is one name below that of the folder. -/
theorem pathFor_simple (h : IsSimple name) :
    b.pathFor name = ⟨b.path.slashes, b.path.names ++ [name]⟩ := by
  rw [pathFor, ofText_simple h]
  rfl

theorem parent_pathFor (h : IsSimple name) : (b.pathFor name).parent = b.path := by
  rw [pathFor_simple h, Path.parent, List.dropLast_concat]

theorem bytes_pathFor_congr {other : Text} (h : IsSimple name) (h' : IsSimple other)
    (hbytes : Utf8.bytes name = Utf8.bytes other) :
    Utf8.bytes (b.pathFor name).text = Utf8.bytes (b.pathFor other).text := by
  have hnames : ∀ name : Text, (b.path.names ++ [name]) ≠ [] := fun name => by simp
  rw [pathFor_simple h, pathFor_simple h', Path.text_of_names (hnames name),
    Path.text_of_names (hnames other)]
  simp only [Utf8.bytes_append, Path.bytes_join, List.map_append, List.map_cons, hbytes]

theorem unfit?_pathFor_iff (h : IsSimple name) : Text.unfit? (b.pathFor name).text = none ↔
    Text.unfit? b.path.text = none ∧ Text.unfit? name = none := by
  rw [pathFor_simple h, Path.unfit?_text_iff, Path.unfit?_text_iff, List.forall_mem_append,
    List.forall_mem_singleton]

theorem slot_pathFor (h : IsSimple name) (hb : b.path.IsNormal)
    (hfit : Text.unfit? (b.pathFor name).text = none)
    (hd : v.Leads b.path.text d) (hfolder : v.isFolder d = true) :
    v.slot (Utf8.bytes (b.pathFor name).text) = (do
      checkPath (Utf8.bytes (b.pathFor name).text)
      if (Utf8.bytes name).length > nameLimit then .error .nameTooLong
        else .ok ⟨d, some (Utf8.bytes name)⟩) := by
  rw [pathFor_simple h] at hfit ⊢
  exact slot_below hb hfit (hd.follow hb) hfolder h.isName h.ne_dots

theorem slot_eq_of_ok (h : IsSimple name) (hb : b.path.IsNormal)
    (hfit : Text.unfit? (b.pathFor name).text = none)
    (hd : v.Leads b.path.text d) (hfolder : v.isFolder d = true)
    (hs : v.slot (Utf8.bytes (b.pathFor name).text) = .ok s) : s = ⟨d, some (Utf8.bytes name)⟩ := by
  rw [slot_pathFor h hb hfit hd hfolder] at hs
  cases hcheck : checkPath (Utf8.bytes (b.pathFor name).text) with
  | error e => simp [hcheck, bind, Except.bind] at hs
  | ok =>
    simp only [hcheck, bind, Except.bind] at hs
    split at hs
    · cases hs
    · exact (Except.ok.inj hs).symm

/-- What a name stands for depends on the slot of its path, and on what is there. -/
theorem resolve_congr (hv : v.slot (Utf8.bytes (b.pathFor r).text) = .ok s)
    (hw : w.slot (Utf8.bytes (b.pathFor r).text) = .ok s) (hnode : w.atSlot? s = v.atSlot? s) :
    b.resolve w r = b.resolve v r := by
  have hread : w.readLink (b.pathFor r).text = v.readLink (b.pathFor r).text := by
    rw [readLink, readLink, located, located, hv, hw]
    simp only [bind, Except.bind, hnode]
  rw [resolve, resolve, bookmarkTerm, bookmarkTerm, hread]

theorem resolve_link (hwhole : Text.isWhole term = true)
    (hfit : Text.unfit? (b.pathFor r).text = none)
    (hslot : v.slot (Utf8.bytes (b.pathFor r).text) = .ok s)
    (hnode : v.atSlot? s = some (.link (Utf8.bytes term))) : b.resolve v r = .ok term :=
  bookmarkTerm_eq_ok_iff.mpr ⟨hwhole, hfit, s, hslot, hnode⟩

/-! ## What a history keeps -/

/-- The path of a reference can be followed where no bookmark is: it does not lead through a
bookmark. -/
def IsDirect (b : BookmarkFolder) (v₀ : Volume) (r : Text) : Prop :=
  Text.unfit? (b.pathFor r).text = none ∧ ∃ s, v₀.slot (Utf8.bytes (b.pathFor r).text) = .ok s

/-- An entry of the folder is a bookmark: a link under the bytes of a simple name, to those of a
term that unfolds. -/
structure IsBookmark (b : BookmarkFolder) (v₀ : Volume) (d : Place) (v : Volume) (entry : Blob)
    (n : Node) (name term : Text) : Prop where
  simple : IsSimple name
  fit : Text.unfit? (b.pathFor name).text = none
  bytes : Utf8.bytes name = entry
  slot : v₀.slot (Utf8.bytes (b.pathFor name).text) = .ok ⟨d, some entry⟩
  whole : Text.isWhole term = true
  link : n = .link (Utf8.bytes term)
  unfolds : Resolver.Unfolds (b.IsDirect v₀) (b.resolve v) term

/-- A volume in which bookmarks have been saved: nothing is in the folder but bookmarks, and nothing
else has changed. -/
structure Holds (b : BookmarkFolder) (v₀ : Volume) (d : Place) (v : Volume) : Prop where
  work : v.work = v₀.work
  beside : ∀ p, (∀ entry, p ≠ entry :: d) → v.node? p = v₀.node? p
  bookmark : ∀ entry n, v.node? (entry :: d) = some n →
    ∃ name term, b.IsBookmark v₀ d v entry n name term

theorem holds_start (h₀ : b.IsEmpty v₀ d) : b.Holds v₀ d v₀ where
  work := rfl
  beside _ _ := rfl
  bookmark entry n hn := by
    rw [h₀.node? entry] at hn
    cases hn

theorem extends_of_beside (h₀ : b.IsEmpty v₀ d) (hwork : w.work = v₀.work)
    (hbeside : ∀ p, (∀ entry, p ≠ entry :: d) → w.node? p = v₀.node? p) : v₀.Extends w where
  work := hwork
  node? p n hp := by
    by_cases hentry : ∃ entry, p = entry :: d
    · obtain ⟨entry, rfl⟩ := hentry
      rw [h₀.node? entry] at hp
      cases hp
    · rw [hbeside p fun entry heq => hentry ⟨entry, heq⟩, hp]

theorem Holds.extends (h : b.Holds v₀ d v) (h₀ : b.IsEmpty v₀ d) : v₀.Extends v :=
  extends_of_beside h₀ h.work h.beside

/-- The term may be saved under the name: it has no halves and can be the target of a link, and no
reference that it leads to goes through a bookmark or is the name itself. -/
structure Fits (b : BookmarkFolder) (v₀ : Volume) (d : Place) (v : Volume) (name term : Text) :
    Prop where
  whole : Text.isWhole term = true
  target : IsTarget term
  direct : ∀ r, Resolver.Reaches (b.resolve v) term r →
    ∃ s, v₀.slot (Utf8.bytes (b.pathFor r).text) = .ok s ∧ s ≠ ⟨d, some (Utf8.bytes name)⟩

/-- A bookmark that is put into the folder changes what its own name stands for. -/
theorem resolve_put (h₀ : b.IsEmpty v₀ d) (h : b.Holds v₀ d v) (hw : v₀.Extends w)
    (hwhole : Text.isWhole term = true)
    (hnode : ∀ q, w.node? q = if q = entry :: d then some (.link (Utf8.bytes term)) else v.node? q)
    (hr : b.IsDirect v₀ r) :
    (v₀.slot (Utf8.bytes (b.pathFor r).text) = .ok ⟨d, some entry⟩ ∧ b.resolve w r = .ok term) ∨
      (v₀.slot (Utf8.bytes (b.pathFor r).text) ≠ .ok ⟨d, some entry⟩ ∧
        b.resolve w r = b.resolve v r) := by
  obtain ⟨hfit, s, hs⟩ := hr
  have hslot := (h.extends h₀).slot hs
  have hslot' := hw.slot hs
  by_cases heq : s = ⟨d, some entry⟩
  · subst heq
    exact .inl ⟨hs, resolve_link hwhole hfit hslot' ((hnode _).trans (if_pos rfl))⟩
  · refine .inr ⟨fun hname => heq (Except.ok.inj (hs.symm.trans hname)),
      resolve_congr hslot hslot' ?_⟩
    obtain ⟨folder, _ | other⟩ := s
    · rfl
    · refine (hnode _).trans (if_neg fun hcons => heq ?_)
      obtain ⟨rfl, rfl⟩ := List.cons.inj hcons
      rfl

/-- Putting a fitting bookmark into the folder keeps all others, in whose terms it may stand in the
place of an older one. -/
theorem Holds.put {f : Filter} (h : b.Holds v₀ d v) (h₀ : b.IsEmpty v₀ d) (hname : IsSimple name)
    (hfit : Text.unfit? (b.pathFor name).text = none)
    (hslot : v₀.slot (Utf8.bytes (b.pathFor name).text) = .ok ⟨d, some (Utf8.bytes name)⟩)
    (hf : b.compile v term = .ok f) (hfits : b.Fits v₀ d v name term) (hwork : w.work = v.work)
    (hnode : ∀ q, w.node? q = if q = Utf8.bytes name :: d then some (.link (Utf8.bytes term))
      else v.node? q) :
    b.Holds v₀ d w := by
  have hbeside : ∀ p, (∀ entry, p ≠ entry :: d) → w.node? p = v₀.node? p := fun p hp => by
    rw [hnode, if_neg (hp _), h.beside p hp]
  have hextends := extends_of_beside h₀ (hwork.trans h.work) hbeside
  have hresolve : ∀ r, b.IsDirect v₀ r → _ :=
    fun r hr => resolve_put h₀ h hextends hfits.whole hnode hr
  -- What the term leads to is not its own name, and so stands for what it stood for.
  have hterm : Resolver.Unfolds (b.IsDirect v₀) (b.resolve w) term := by
    have hok := Filter.ofTerm_iff_ofTermAt.mp hf
    have hdirect : ∀ r, Resolver.Reaches (b.resolve v) term r → b.IsDirect v₀ r := by
      intro r hr
      obtain ⟨t, ht⟩ := (Filter.unfolds_of_ok (P := fun _ => True) hok fun _ _ => trivial).found hr
      obtain ⟨s, hs, -⟩ := hfits.direct r hr
      exact ⟨(bookmarkTerm_eq_ok_iff.mp ht).2.1, s, hs⟩
    refine (Filter.unfolds_of_ok hok hdirect).congr fun r hr hP => ?_
    obtain ⟨s, hs, hne⟩ := hfits.direct r hr
    rcases hresolve r hP with ⟨heq, -⟩ | ⟨-, heq⟩
    · exact absurd (Except.ok.inj (hs.symm.trans heq)) hne
    · exact heq
  have hchange : ∀ r, b.IsDirect v₀ r → b.resolve w r = b.resolve v r ∨
    ∃ term, b.resolve w r = .ok term ∧
      Resolver.Unfolds (b.IsDirect v₀) (b.resolve w) term := fun r hr =>
    (hresolve r hr).elim (fun h => .inr ⟨term, h.2, hterm⟩) fun h => .inl h.2
  refine ⟨hwork.trans h.work, hbeside, fun entry n hn => ?_⟩
  rw [hnode] at hn
  split at hn
  · next heq =>
    obtain ⟨rfl, -⟩ := List.cons.inj heq
    exact ⟨name, term, hname, hfit, rfl, hslot, hfits.whole, (Option.some.inj hn).symm, hterm⟩
  · obtain ⟨other, old, hold⟩ := h.bookmark entry n hn
    exact ⟨other, old, hold.simple, hold.fit, hold.bytes, hold.slot, hold.whole, hold.link,
      hold.unfolds.change hchange⟩

/-! ## Saving -/

theorem prepared_of_leads (hname : IsSimple name) (hd : v.Leads b.path.text d)
    (hfolder : v.isFolder d = true) :
    ensureFolder (b.pathFor name).parent v = (.ok (), v) := by
  rw [parent_pathFor hname]
  exact ensureFolder_of_leads hd hfolder

/-- Whether or not a bookmark is saved, what has been saved before is kept. -/
theorem Holds.saves {saved : Bool} (h : b.Holds v₀ d v) (h₀ : b.IsEmpty v₀ d) (hb : b.path.IsNormal)
    (hname : IsSimple name) (hfits : (∃ f, b.compile v term = .ok f) → b.Fits v₀ d v name term)
    (hsaves : b.Saves name term v saved w) : b.Holds v₀ d w := by
  have hextends := h.extends h₀
  have hd := hextends.leads h₀.leads
  have hfolder := hextends.isFolder h₀.isFolder
  have hensure := prepared_of_leads hname hd hfolder
  have hprepared : b.prepared name v = v := by rw [prepared, hensure]
  -- The path of the bookmark names the same slot wherever the folder is.
  have hplace : ∀ {u p}, v₀.Extends u → Text.unfit? (b.pathFor name).text = none →
    u.Names (b.pathFor name).text p →
      p = Utf8.bytes name :: d ∧
        v₀.slot (Utf8.bytes (b.pathFor name).text) = .ok ⟨d, some (Utf8.bytes name)⟩ := by
    rintro u p hu hfit ⟨folder, other, hslot, rfl⟩
    have heq := slot_eq_of_ok hname hb hfit (hu.leads h₀.leads) (hu.isFolder h₀.isFolder) hslot
    rw [heq] at hslot
    rw [slot_pathFor hname hb hfit (hu.leads h₀.leads) (hu.isFolder h₀.isFolder)] at hslot
    cases heq
    exact ⟨rfl, by rw [slot_pathFor hname hb hfit h₀.leads h₀.isFolder, hslot]⟩
  cases hsaves with
  | malformed => exact h
  | noFolder hf herror =>
    rw [hensure] at herror
    cases herror
  | put hf _ hput =>
    have hfits := hfits ⟨_, hf⟩
    rw [hprepared] at hput
    cases hput with
    | refused => exact h
    | made hmake =>
      obtain ⟨hwork, p, hp, hnone, hnode⟩ := node?_makeLink hmake
      have hfit := (makeLink_eq_ok_iff.mp hmake).2.1
      obtain ⟨rfl, hslot⟩ := hplace hextends hfit hp
      exact h.put h₀ hname hfit hslot hf hfits hwork hnode
    | @replaced p _ hp hmake =>
      obtain ⟨hwork, q, hq, -, hnode⟩ := node?_makeLink hmake
      obtain ⟨rfl, hslot⟩ := hplace hextends hp.fit hp.names
      obtain rfl := (hq.mono (extends_without hp.names.ne_nil)).unique hp.names
      refine h.put h₀ hname hp.fit hslot hf hfits hwork fun q => ?_
      rw [hnode, node?_without hp.names.ne_nil]
      split <;> rfl
    | @lost p e hp herror =>
      obtain ⟨rfl, hslot⟩ := hplace hextends hp.fit hp.names
      have hwithout : v₀.Extends (v.without (Utf8.bytes name :: d)) :=
        extends_of_beside h₀ h.work fun q hq => by
        rw [node?_without (List.cons_ne_nil _ _), if_neg (hq _), h.beside q hq]
      exact absurd herror (ne_error_of_direct hp hfits.target ⟨d, _, hwithout.slot hslot, rfl⟩)

/-! ## Histories -/

def saveAll (b : BookmarkFolder) : List (Text × Text) → Volume → Volume
  | [], v => v
  | (name, term) :: more, v => b.saveAll more ((b.save name term).runIn (.start v)).2.volume

/-- Each name is simple, and each term that compiles when it is saved may be saved under its
name. -/
def Orderly (b : BookmarkFolder) (v₀ : Volume) (d : Place) : List (Text × Text) → Volume → Prop
  | [], _ => True
  | (name, term) :: more, v =>
    IsSimple name ∧ ((∃ f, b.compile v term = .ok f) → b.Fits v₀ d v name term) ∧
    b.Orderly v₀ d more ((b.save name term).runIn (.start v)).2.volume

theorem Holds.saveAll {saves : List (Text × Text)} (h : b.Holds v₀ d v) (h₀ : b.IsEmpty v₀ d)
    (hb : b.path.IsNormal)
    (hsaves : b.Orderly v₀ d saves v) : b.Holds v₀ d (b.saveAll saves v) := by
  induction saves generalizing v with
  | nil => exact h
  | cons save saves ih =>
    obtain ⟨name, term⟩ := save
    obtain ⟨hname, hfits, hrest⟩ := hsaves
    exact ih (h.saves h₀ hb hname hfits (saves_runIn b name term (.start v))) hrest

def reference (name : Text) : Text := .char '\x7b' :: (name ++ [.char '\x7d'])

theorem ofTerm_reference (hname : IsSimple name) :
    ∃ n, Expr.ofTerm (reference name) = .ok (.bookmark n name) := by
  have hbraces : ∀ c ∈ name, c ≠ .char '\x7b' ∧ c ≠ .char '\x7d' := fun c hc => by
    have hc := hname.chars c hc
    simp only [List.mem_cons, not_or] at hc
    exact ⟨hc.2.1, hc.2.2.1⟩
  have htab : .char '\t' ∉ reference name := by
    have : .char '\t' ∉ name := fun hc => hname.chars _ hc (by simp)
    simp [reference, this]
  have hphrase : Term.Phrase (Term.Derive Term.Disjunction (.bookmark 0 name)) (reference name) :=
    Term.derive_leaf (Term.phrase_bookmark hname.ne_nil hbraces) (fun ts ⟨n, hts⟩ =>
      ⟨_, hts, by rw [hname.bare]; rfl⟩) .opening
  have hexpanded : Text.expandTabs (reference name) = [] ++ (reference name ++ []) := by
    rw [Text.expandTabs_eq_self htab, List.append_nil, List.nil_append]
  obtain ⟨e, he, hunplaced⟩ := Term.ofTerm_of_phrase hexpanded (by decide) (by decide) hphrase
  cases e with
  | bookmark n other =>
    cases hunplaced
    exact ⟨n, he⟩
  | _ => cases hunplaced

theorem mentions_reference (hname : IsSimple name) : Mentions (reference name) r ↔ r = name := by
  obtain ⟨n, he⟩ := ofTerm_reference hname
  rw [Mentions]
  constructor
  · rintro ⟨e, m, he', hleaf⟩
    obtain rfl := Except.ok.inj (he.symm.trans he')
    rw [Expr.leaves, List.mem_singleton] at hleaf
    cases hleaf
    rfl
  · rintro rfl
    exact ⟨_, n, he, List.mem_singleton_self _⟩

theorem compilable_reference (hname : IsSimple name) : Compilable (reference name) := by
  obtain ⟨n, he⟩ := ofTerm_reference hname
  refine ⟨_, he, fun leaf hleaf => .inl ⟨n, name, ?_⟩⟩
  rwa [Expr.leaves, List.mem_singleton] at hleaf

/-- What refers to a bookmark of the folder unfolds, by whatever name that has its bytes. -/
theorem Holds.unfolds {n : Node} (h : b.Holds v₀ d v) (h₀ : b.IsEmpty v₀ d) (hname : IsSimple name)
    (hfit : Text.unfit? name = none) (hn : v.node? (Utf8.bytes name :: d) = some n) :
    Resolver.Unfolds (b.IsDirect v₀) (b.resolve v) (reference name) := by
  obtain ⟨other, term, hother⟩ := h.bookmark _ n hn
  have hpath : Text.unfit? (b.pathFor name).text = none :=
    (unfit?_pathFor_iff hname).mpr ⟨((unfit?_pathFor_iff hother.simple).mp hother.fit).1, hfit⟩
  have hslot := hother.slot
  rw [bytes_pathFor_congr hother.simple hname hother.bytes] at hslot
  rw [hother.link] at hn
  have hresolve : b.resolve v name = .ok term :=
    resolve_link hother.whole hpath ((h.extends h₀).slot hslot) hn
  refine .intro (compilable_reference hname) (fun r hr => ?_) fun r t hr ht => ?_
  · obtain rfl := (mentions_reference hname).mp hr
    exact ⟨⟨hpath, _, hslot⟩, term, hresolve⟩
  · obtain rfl := (mentions_reference hname).mp hr
    obtain rfl := Except.ok.inj (hresolve.symm.trans ht)
    exact hother.unfolds

/-- Bookmarks that are saved into an empty folder stay usable, if no term leads to the name that it
is saved under or through another bookmark, and each is without halves and can be the target of a
link: whatever the folder holds in the end stands under a simple name, and under each such name it
has a filter, unless bookmarks nest beyond the limit. -/
theorem compile_of_saveAll {homes : Homes} {folder : Text} {saves : List (Text × Text)} {n : Node}
    (hb : BookmarkFolder.ofPath homes (Path.ofText folder) = .ok b) (h₀ : b.IsEmpty v₀ d)
    (hsaves : b.Orderly v₀ d saves v₀) (hn : (b.saveAll saves v₀).node? (entry :: d) = some n) :
    (∃ name, IsSimple name ∧ Text.unfit? name = none ∧ Utf8.bytes name = entry) ∧
    ∀ name, IsSimple name → Text.unfit? name = none → Utf8.bytes name = entry →
      ∃ depth f, Filter.ofTermAt (some (b.resolve (b.saveAll saves v₀))) depth [] (reference name) =
        .ok f ∧
        (b.compile (b.saveAll saves v₀) (reference name) = .ok f ∨ Filter.depthLimit < depth ∧
          b.compile (b.saveAll saves v₀) (reference name) =
            .error (.badSyntax (Filter.tooDeepAt (reference name)))) := by
  have hholds := (holds_start h₀).saveAll h₀ (isNormal_path hb) hsaves
  constructor
  · obtain ⟨name, term, hname⟩ := hholds.bookmark entry n hn
    exact ⟨name, hname.simple, ((unfit?_pathFor_iff hname.simple).mp hname.fit).2, hname.bytes⟩
  · rintro name hname hfit rfl
    have hnone : ∀ r ∈ ([] : List Text),
        ¬ Resolver.Reaches (b.resolve (b.saveAll saves v₀)) (reference name) r := nofun
    obtain ⟨depth, f, hf⟩ := Filter.ok_of_unfolds (hholds.unfolds h₀ hname hfit hn) hnone
    have hdeep : Filter.ofTermAt (some (b.resolve (b.saveAll saves v₀))) depth [] (reference name) ≠
        .error .tooDeep := by
      rw [hf]
      exact nofun
    refine ⟨depth, f, hf, ?_⟩
    rw [← hf]
    exact Filter.ofTerm_eq_of_deep hdeep

theorem compile_of_saveAll_replaced :
    let b : BookmarkFolder := ⟨⟨0, [[.char 'b']]⟩⟩
    let d := [Utf8.ofString "b"]
    let v₀ : Volume := ⟨[(d, .folder)], [], [], true, []⟩
    let saves :=
      [([.char 'a'], [.char 'x']), ([.char 'c'], reference [.char 'a']), ([.char 'a'], [.char 'y'])]
    BookmarkFolder.ofPath ⟨[], []⟩ (Path.ofText [.char 'b']) = .ok b ∧ b.IsEmpty v₀ d ∧
      b.Orderly v₀ d saves v₀ ∧
      (b.saveAll saves v₀).node? (Utf8.ofString "c" :: d) =
        some (.link (Utf8.bytes (reference [.char 'a']))) ∧
      ∃ depth f, Filter.ofTermAt (some (b.resolve (b.saveAll saves v₀))) depth []
        (reference [.char 'c']) = .ok f ∧
        (b.compile (b.saveAll saves v₀) (reference [.char 'c']) = .ok f ∨
          Filter.depthLimit < depth ∧
          b.compile (b.saveAll saves v₀) (reference [.char 'c']) =
            .error (.badSyntax (Filter.tooDeepAt (reference [.char 'c'])))) := by
  intro b d v₀ saves
  have hb : BookmarkFolder.ofPath ⟨[], []⟩ (Path.ofText [.char 'b']) = .ok b := rfl
  have hempty : b.IsEmpty v₀ d := ⟨rfl, rfl, rfl⟩
  have ha : IsSimple [.char 'a'] := ⟨by decide, by simp, by decide, by decide, by decide⟩
  have hc : IsSimple [.char 'c'] := ⟨by decide, by simp, by decide, by decide, by decide⟩
  let a : Place × Node := (Utf8.ofString "a" :: d, .link (Utf8.ofString "x"))
  let v₁ : Volume := ⟨[(d, .folder), a], [], [], true, []⟩
  let v₂ : Volume :=
    ⟨[(d, .folder), a, (Utf8.ofString "c" :: d, .link (Utf8.bytes (reference [.char 'a'])))], [],
      [], true, []⟩
  have h₁ : ((b.save [.char 'a'] [.char 'x']).runIn (.start v₀)).2.volume = v₁ := by
    with_unfolding_all rfl
  have h₂ : ((b.save [.char 'c'] (reference [.char 'a'])).runIn (.start v₁)).2.volume = v₂ := by
    with_unfolding_all rfl
  -- Terms without references may be saved under any name.
  have hplain : ∀ {v : Volume} {name : Text} {c : Rune}, c = .char 'x' ∨ c = .char 'y' →
      b.Fits v₀ d v name [c] := by
    rintro v name c hchar
    have hmentioned : ∀ r, ¬ Mentions [c] r := by
      intro r hr
      have hnone : mentioned [c] = [] := by rcases hchar with rfl | rfl <;> decide +kernel
      rw [← mem_mentioned, hnone] at hr
      cases hr
    refine ⟨by rcases hchar with rfl | rfl <;> rfl, by rcases hchar with rfl | rfl <;>
      exact ⟨rfl, rfl⟩, fun r hr => ?_⟩
    obtain ⟨first, hm, -⟩ := hr
    exact absurd hm (hmentioned first)
  have hreference : b.Fits v₀ d v₁ [.char 'c'] (reference [.char 'a']) := by
    refine ⟨rfl, ⟨rfl, rfl⟩, fun r hr => ?_⟩
    have hr : r ∈ [[.char 'a']] := hr.mem (by decide +kernel) (by
      simp only [List.forall_mem_singleton]
      intro term hterm
      obtain rfl : [.char 'x'] = term := by
        have hx : b.resolve v₁ [.char 'a'] = .ok [.char 'x'] := by with_unfolding_all rfl
        exact Except.ok.inj (hx.symm.trans hterm)
      decide +kernel)
    rw [List.mem_singleton.mp hr]
    exact ⟨⟨d, some (Utf8.ofString "a")⟩, by with_unfolding_all rfl, by decide⟩
  have hsaves : b.Orderly v₀ d saves v₀ := by
    refine ⟨ha, fun _ => hplain (.inl rfl), hc, ?_⟩
    rw [h₁]
    refine ⟨fun _ => hreference, ha, ?_⟩
    exact ⟨fun _ => hplain (.inr rfl), trivial⟩
  have hlink : (b.saveAll saves v₀).node? (Utf8.ofString "c" :: d) =
      some (.link (Utf8.bytes (reference [.char 'a']))) := by
    change (((b.save [.char 'a'] [.char 'y']).runIn
      (.start (((b.save [.char 'c'] (reference [.char 'a'])).runIn (.start
      ((b.save [.char 'a'] [.char 'x']).runIn (.start v₀)).2.volume)).2.volume))).2.volume).node?
        _ = _
    rw [h₁, h₂]
    with_unfolding_all rfl
  exact ⟨hb, hempty, hsaves, hlink,
    (compile_of_saveAll hb hempty hsaves hlink).2 [.char 'c'] hc rfl rfl⟩

/-- A bookmark may be saved with a reference to itself where an older bookmark of its name is
referred to; after that it does not compile. -/
theorem saveAll_refers_to_itself :
    let b : BookmarkFolder := ⟨⟨0, [[.char 'b']]⟩⟩
    let d := [Utf8.ofString "b"]
    let v₀ : Volume := ⟨[(d, .folder)], [], [], true, []⟩
    let v := b.saveAll [([.char 'a'], [.char 'x']), ([.char 'a'], reference [.char 'a'])] v₀
    b.IsEmpty v₀ d ∧ IsSimple [.char 'a'] ∧
      v.node? (Utf8.ofString "a" :: d) = some (.link (Utf8.bytes (reference [.char 'a']))) ∧
      b.compile v (reference [.char 'a']) = .error (.bookmark (.cyclic [.char 'a'])) :=
  ⟨⟨rfl, rfl, rfl⟩,
    ⟨by decide, by simp, by decide, by decide, by decide⟩, by with_unfolding_all rfl,
    by with_unfolding_all rfl⟩

end BookmarkFolder

end FileTags

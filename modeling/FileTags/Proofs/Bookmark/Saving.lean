import FileTags.Bookmark
import FileTags.Proofs.Session
import FileTags.Proofs.Text.System
import FileTags.Proofs.Volume.Trail

/-!
# Saving bookmarks

A bookmark is saved in four steps: its term is compiled, its folder is made, the link that is there
is taken away, and the new one is made. Only when the last step fails after the third has a link
been lost, and then it is the one that was to be replaced. The last step cannot fail there if the
term can be the target of a link and the path does not lead through the link itself.
-/

set_option autoImplicit false

namespace FileTags

open Volume

namespace BookmarkFolder

variable {v w : Volume} {link : Path} {path term name : Text} {p q : Place} {b : BookmarkFolder}
  {s : Session}

/-- A bookmark that can be read is a link, whose target has the bytes of the term. -/
theorem bookmarkTerm_eq_ok_iff : v.bookmarkTerm path = .ok term ↔ Text.isWhole term = true ∧
    Text.unfit? path = none ∧ ∃ s, v.slot (Utf8.bytes path) = .ok s ∧
    v.atSlot? s = some (.link (Utf8.bytes term)) := by
  have hread : v.bookmarkTerm path = .ok term ↔
      Text.isWhole term = true ∧ v.readLink path = .ok term := by
    rw [bookmarkTerm]
    split
    · next t ht =>
      rw [ht, Except.ok.injEq]
      split
      · next hwhole => exact ⟨fun h => ⟨Except.ok.inj h ▸ hwhole, Except.ok.inj h⟩,
          fun h => congrArg _ h.2⟩
      · next hwhole => exact iff_of_false nofun fun h => hwhole (h.2 ▸ h.1)
    · next ht => simp [ht]
    · next ht => simp [ht]
  rw [hread, readLink_eq_ok_iff]
  refine and_congr_right fun hwhole => and_congr_right fun _ => exists_congr fun s => ?_
  constructor
  · rintro ⟨target, hslot, hnode, rfl⟩
    exact ⟨hslot, by rw [hnode, Text.bytes_ofBytes]⟩
  · exact fun ⟨hslot, hnode⟩ => ⟨_, hslot, hnode, Text.ofBytes_bytes hwhole⟩

/-! ## Links in the place of others -/

/-- What putting a link does: nothing, or it makes the link, with the one that is there taken away
before; that one stays away when the new one cannot be made. -/
inductive Put (v : Volume) (path term : Text) : Except VolumeFault Unit → Volume → Prop
  | refused (e : VolumeFault) : Put v path term (.error e) v
  | made {w : Volume} (h : v.makeLink term path = .ok w) : Put v path term (.ok ()) w
  | replaced {p : Place} {w : Volume} (hp : v.IsLink path p)
      (h : (v.without p).makeLink term path = .ok w) : Put v path term (.ok ()) w
  | lost {p : Place} {e : VolumeFault} (hp : v.IsLink path p)
      (h : (v.without p).makeLink term path = .error e) :
      Put v path term (.error e) (v.without p)

theorem put_putLink (v : Volume) (path term : Text) :
    Put v path term (putLink path term v).1 (putLink path term v).2 := by
  rw [putLink]
  cases hlink : v.isLink? path with
  | error e => exact .refused e
  | ok isLink =>
    cases isLink with
    | false =>
      cases hmake : v.makeLink term path with
      | error e => simpa [hmake] using Put.refused e
      | ok w => simpa [hmake] using Put.made hmake
    | true =>
      obtain ⟨p, hp⟩ := exists_isLink hlink
      cases hmake : (v.without p).makeLink term path with
      | error e => simpa [hp.removeLink, hmake] using Put.lost hp hmake
      | ok w => simpa [hp.removeLink, hmake] using Put.replaced hp hmake

/-! ## Saving step by step -/

def prepared (b : BookmarkFolder) (name : Text) (v : Volume) : Volume :=
  (ensureFolder (b.pathFor name).parent v).2

theorem grows_prepared (b : BookmarkFolder) (name : Text) (v : Volume) :
    v.Grows (b.prepared name v) := grows_ensureFolder _ v

inductive Saves (b : BookmarkFolder) (name term : Text) (v : Volume) : Bool → Volume → Prop
  | malformed {e : CompileError} (h : b.compile v term = .error e) : Saves b name term v false v
  | noFolder {f : Filter} {e : VolumeFault} (hf : b.compile v term = .ok f)
      (h : (ensureFolder (b.pathFor name).parent v).1 = .error e) :
        Saves b name term v false (b.prepared name v)
  | put {f : Filter} {r : Except VolumeFault Unit} {w : Volume} (hf : b.compile v term = .ok f)
      (hfolder : (ensureFolder (b.pathFor name).parent v).1 = .ok ())
      (h : Put (b.prepared name v) (b.pathFor name).text term r w) : Saves b name term v r.isOk w

theorem runIn_compileNoted (b : BookmarkFolder) (term : Text) (s : Session) :
    ((b.compileNoted term).runIn s).1 = b.compile s.volume term ∧
    ((b.compileNoted term).runIn s).2.volume = s.volume := by
  simp only [compileNoted, Action.runIn_bind, Action.runIn_get, Action.runIn_noteAll,
    Action.runIn_ofExcept, and_self]

theorem runIn_save (b : BookmarkFolder) (name term : Text) (s : Session) :
    (b.save name term).runIn s =
      match (b.compileNoted term).runIn s with
    | (.error e, s) => (.error e, s)
    | (.ok _, s) =>
      match writeLink (b.pathFor name) term s.volume with
      | (.error e, w) => (.error (writeFault (b.pathFor name).text e), { s with volume := w })
      | (.ok (), w) =>
        (.ok (b.pathFor name), { s with
          volume := w
          notes :=
            s.notes ++
              [⟨.info, Text.ofString "Saved bookmark " ++ Text.quoted name ++
                Text.ofString " -> " ++ Text.quoted term⟩] }) := by
  have hdiscard : (discard (b.compileNoted term)).runIn s =
      (((b.compileNoted term).runIn s).1.map fun _ => PUnit.unit,
        ((b.compileNoted term).runIn s).2) := Action.runIn_map _ _
  rw [save, Action.runIn_bind, hdiscard]
  rcases (b.compileNoted term).runIn s with ⟨_ | f, s'⟩
  · rfl
  · simp only [Except.map]
    rw [Action.runIn_bind, Action.runIn_advance]
    rcases writeLink (b.pathFor name) term s'.volume with ⟨_ | _, w⟩ <;> rfl

/-- A run of saving is one of these, and it comes to the path of the link just if all steps have
been taken. -/
theorem saves_runIn (b : BookmarkFolder) (name term : Text) (s : Session) :
    Saves b name term s.volume ((b.save name term).runIn s).1.isOk
      ((b.save name term).runIn s).2.volume := by
  obtain ⟨hcompile, hvolume⟩ := runIn_compileNoted b term s
  rw [runIn_save]
  rcases hrun : (b.compileNoted term).runIn s with ⟨e | f, s'⟩ <;> rw [hrun] at hcompile hvolume <;>
    dsimp only at hcompile hvolume ⊢
  · rw [hvolume]
    exact .malformed hcompile.symm
  · rw [hvolume, writeLink]
    rcases hfolder : ensureFolder (b.pathFor name).parent s.volume with ⟨e | _, u⟩
    · obtain rfl : b.prepared name s.volume = u := by rw [prepared, hfolder]
      exact .noFolder hcompile.symm (by rw [hfolder])
    · obtain rfl : b.prepared name s.volume = u := by rw [prepared, hfolder]
      have hput := put_putLink (b.prepared name s.volume) (b.pathFor name).text term
      dsimp only
      rcases hlink : putLink (b.pathFor name).text term (b.prepared name s.volume)
        with ⟨_ | _, w⟩ <;> rw [hlink] at hput <;>
        exact .put hcompile.symm (by rw [hfolder]) hput

/-! ## Links after a failure -/

/-- A link can be made in the place of one that has been taken away, if the text can be its target
and the path does not lead through it. -/
theorem ne_error_of_direct {e : VolumeFault} (hp : v.IsLink path p) (hterm : IsTarget term)
    (hdirect : (v.without p).Names path p) :
    (v.without p).makeLink term path ≠ .error e := by
  obtain ⟨w, hw⟩ :=
    exists_makeLink hterm hp.fit hdirect (by rw [node?_without hdirect.ne_nil, if_pos rfl])
  rw [hw]
  exact nofun

theorem ne_nil_of_compile {f : Filter} (h : b.compile v term = .ok f) : term ≠ [] := by
  rintro rfl
  cases h

/-- Saving takes a link away and cannot make the new one: the term cannot be given to the system, it
is too long for a target of a link, or the path of the bookmark leads through the link that has been
taken away. Faults of the device between the two steps are not among the reasons; a volume has
none. -/
structure Loses (b : BookmarkFolder) (name term : Text) (v : Volume) (p : Place) : Prop where
  compiles : ∃ f, b.compile v term = .ok f
  folder : (ensureFolder (b.pathFor name).parent v).1 = .ok ()
  isLink : (b.prepared name v).IsLink (b.pathFor name).text p
  unmade : Text.unfit? term ≠ none ∨ pathLimit < (Utf8.bytes term).length ∨
    ¬ ((b.prepared name v).without p).Names (b.pathFor name).text p

theorem Loses.makeLink (h : b.Loses name term v p) :
    ∃ e, ((b.prepared name v).without p).makeLink term (b.pathFor name).text = .error e := by
  cases hmake : ((b.prepared name v).without p).makeLink term (b.pathFor name).text with
  | error e => exact ⟨e, rfl⟩
  | ok w =>
    obtain ⟨hfit, -, hsize⟩ := isTarget_iff.mp (makeLink_eq_ok_iff.mp hmake).1
    obtain ⟨-, q, hq, -⟩ := node?_makeLink hmake
    -- The path names the same place with the link as without it, since it still leads where it led.
    obtain rfl := (hq.mono (extends_without h.isLink.names.ne_nil)).unique h.isLink.names
    rcases h.unmade with hunfit | hsize' | hnames
    · exact absurd hfit hunfit
    · exact absurd hsize (Nat.not_le.mpr hsize')
    · exact absurd hq hnames

theorem putLink_of_isLink {e : VolumeFault} (hp : v.IsLink path p)
    (h : (v.without p).makeLink term path = .error e) :
    putLink path term v = (.error e, v.without p) := by
  simp only [putLink, hp.isLink?, hp.removeLink, h, if_true]

theorem Loses.writeLink (h : b.Loses name term v p) :
    ∃ e, BookmarkFolder.writeLink (b.pathFor name) term v =
      (.error e, (b.prepared name v).without p) := by
  obtain ⟨e, he⟩ := h.makeLink
  refine ⟨e, ?_⟩
  have hfolder := h.folder
  rcases hensure : ensureFolder (b.pathFor name).parent v with ⟨_ | _, u⟩ <;>
    rw [hensure] at hfolder
  · cases hfolder
  · obtain rfl : b.prepared name v = u := by rw [prepared, hensure]
    rw [BookmarkFolder.writeLink, hensure]
    exact putLink_of_isLink h.isLink he

theorem Loses.save (h : b.Loses name term s.volume p) :
    (∃ e, ((b.save name term).runIn s).1 = .error e) ∧
    ((b.save name term).runIn s).2.volume = (b.prepared name s.volume).without p := by
  obtain ⟨f, hf⟩ := h.compiles
  obtain ⟨e, hwrite⟩ := h.writeLink
  obtain ⟨hcompile, hvolume⟩ := runIn_compileNoted b term s
  rw [runIn_save]
  rcases hrun : (b.compileNoted term).runIn s with ⟨r, s'⟩
  rw [hrun, hf] at hcompile
  rw [hrun] at hvolume
  obtain rfl : r = .ok f := hcompile
  dsimp only at hvolume ⊢
  rw [hvolume, hwrite]
  exact ⟨⟨_, rfl⟩, rfl⟩

theorem node?_of_save_error {e : CompileError} {target : Blob}
    (h : ((b.save name term).runIn s).1 = .error e)
    (hq : s.volume.node? q = some (.link target)) (hkeeps : ¬ b.Loses name term s.volume q) :
    ((b.save name term).runIn s).2.volume.node? q = some (.link target) := by
  have hsaves := saves_runIn b name term s
  have hkept := (b.grows_prepared name s.volume).keeps hq
  rw [h] at hsaves
  generalize ((b.save name term).runIn s).2.volume = w at hsaves ⊢
  generalize hfails : Except.isOk _ = isSaved at hsaves
  cases hsaves with
  | malformed => exact hq
  | noFolder => exact hkept
  | put hf hfolder hput =>
    cases hput with
    | refused e => exact hkept
    | made => cases hfails
    | replaced => cases hfails
    | @lost p _ hp herror =>
      rw [node?_without hp.names.ne_nil]
      by_cases hqp : q = p
      · subst hqp
        refine absurd ⟨⟨_, hf⟩, hfolder, hp, Classical.byContradiction fun hmade => ?_⟩ hkeeps
        simp only [not_or, Classical.not_not, Nat.not_lt] at hmade
        have hne : Utf8.bytes term ≠ [] :=
          fun hnil => ne_nil_of_compile hf (Text.bytes_eq_nil.mp hnil)
        exact ne_error_of_direct hp (isTarget_iff.mpr ⟨hmade.1, hne, hmade.2.1⟩) hmade.2.2 herror
      · rw [if_neg hqp, hkept]

/-- A link is there after every failure to save a bookmark, wherever the link is, exactly if saving
does not take it away without making the new one. -/
theorem keeps_iff_not_loses {target : Blob} (hq : s.volume.node? q = some (.link target)) :
    ((∃ e, ((b.save name term).runIn s).1 = .error e) →
      ((b.save name term).runIn s).2.volume.node? q = some (.link target)) ↔
      ¬ b.Loses name term s.volume q := by
  constructor
  · intro hkeeps hloses
    obtain ⟨hfails, hvolume⟩ := hloses.save
    have hgone := hkeeps hfails
    rw [hvolume, node?_without hloses.isLink.names.ne_nil, if_pos rfl] at hgone
    cases hgone
  · rintro hkeeps ⟨e, he⟩
    exact node?_of_save_error he hq hkeeps

def oneBookmark : Session :=
  .start ⟨[([Utf8.ofString "b"], .folder),
    ([Utf8.ofString "a", Utf8.ofString "b"], .link (Utf8.ofString "x"))],
    [], [], true, []⟩

/-- A term that does not compile leaves the link under the name. -/
theorem keeps_iff_not_loses_malformed :
    let b : BookmarkFolder := ⟨Path.ofText [.char 'b']⟩
    let s := oneBookmark
    let p := [Utf8.ofString "a", Utf8.ofString "b"]
    s.volume.node? p = some (.link (Utf8.ofString "x")) ∧
      ¬ b.Loses [.char 'a'] [.char '('] s.volume p ∧
      (∃ e, ((b.save [.char 'a'] [.char '(']).runIn s).1 = .error e) ∧
      ((b.save [.char 'a'] [.char '(']).runIn s).2.volume.node? p =
        some (.link (Utf8.ofString "x")) := by
  intro b s p
  have hlink : s.volume.node? p = some (.link (Utf8.ofString "x")) := rfl
  have hfails : ∃ e, ((b.save [.char 'a'] [.char '(']).runIn s).1 = .error e := ⟨_, rfl⟩
  have hkeeps : ¬ b.Loses [.char 'a'] [.char '('] s.volume p := by
    rintro ⟨⟨f, hf⟩, -⟩
    cases hf
  exact ⟨hlink, hkeeps, hfails, (keeps_iff_not_loses hlink).mpr hkeeps hfails⟩

/-- A term that is too long for the target of a link is refused when the link under the name is
gone. -/
theorem save_loses_link :
    let b : BookmarkFolder := ⟨Path.ofText [.char 'b']⟩
    let s := oneBookmark
    let p := [Utf8.ofString "a", Utf8.ofString "b"]
    let term := List.replicate 1024 (.char '😀')
    s.volume.node? p = some (.link (Utf8.ofString "x")) ∧
      (∃ e, ((b.save [.char 'a'] term).runIn s).1 = .error e) ∧
      ((b.save [.char 'a'] term).runIn s).2.volume.node? p = none := by
  intro b s p term
  have hcompiles : ∃ f, b.compile s.volume term = .ok f := by
    have hok : (b.compile s.volume term).isOk = true := by decide +kernel
    cases h : b.compile s.volume term with
    | ok f => exact ⟨f, rfl⟩
    | error e =>
      rw [h] at hok
      cases hok
  have hloses : b.Loses [.char 'a'] term s.volume p :=
    ⟨hcompiles, rfl, ⟨by decide, ⟨_, _, rfl, rfl⟩, _, rfl⟩, .inr (.inl (by decide +kernel))⟩
  refine ⟨rfl, hloses.save.1, ?_⟩
  rw [hloses.save.2]
  rfl

end BookmarkFolder

end FileTags

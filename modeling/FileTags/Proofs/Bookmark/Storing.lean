import FileTags.Proofs.Bookmark.Saving
import FileTags.Proofs.Volume.Ancestors

/-!
# Bookmarks that are stored

The link of a bookmark that is saved stands where its path leads, whatever was taken away for it,
since what is gone has not been on the way. All other nodes are left as they were, and the only new
ones are folders above the path. What is read back is the text that shows the bytes of the term. It
is the term itself if this has no halves.
-/

set_option autoImplicit false

namespace FileTags

open Volume

namespace BookmarkFolder

variable {b : BookmarkFolder} {v u w : Volume} {path : Path} {name term : Text} {p : Place}
  {s : Session}

/-- A link to the bytes of the term stands where a path leads: in the place of another link, or
where nothing was. All else is as it was, but for folders at places where nothing was and where the
paths above lead. -/
structure Places (path : Path) (term : Text) (v w : Volume) (p : Place) : Prop where
  names : w.Names path.text p
  link : w.node? p = some (.link (Utf8.bytes term))
  before : v.node? p = none ∨ ∃ old, v.node? p = some (.link old)
  others : ∀ q, q ≠ p → w.node? q = v.node? q ∨ v.node? q = none ∧ w.node? q = some .folder ∧
    ∃ above : Path, above.IsAbove path.parent ∧ w.Leads above.text q
  /-- The table of attributes and all that is no node. -/
  rest : w = { v with nodes := w.nodes }

theorem rest_makeLink {target link : Text} (h : v.makeLink target link = .ok w) :
    w = { v with nodes := w.nodes } := by
  obtain ⟨-, -, slot, -, hcreate⟩ := makeLink_eq_ok_iff.mp h
  obtain ⟨_, -, -, hw⟩ := create_eq_ok_iff.mp hcreate
  rw [hw]

/-- The link is made in what is left of a volume when an old link is gone. That is part of the
volume before and of the one after, so that the paths above lead to the same folders in both. -/
theorem places_makeLink {base : Volume} (hnormal : path.IsNormal)
    (hfit : Text.unfit? path.text = none) (hgrows : v.GrowsAlong path.parent u)
    (hbase : base.Extends u)
    (hrest : base = { u with nodes := base.nodes }) (hnames : base.Names path.text p)
    (hsame : ∀ q, q ≠ p → base.node? q = u.node? q)
    (hbefore : u.node? p = none ∨ ∃ old, u.node? p = some (.link old))
      (hmake : base.makeLink term path.text = .ok w) :
    Places path term v w p := by
  obtain ⟨hwork, q, hq, hnone, hnode⟩ := node?_makeLink hmake
  obtain rfl := hq.unique hnames
  have hextends : base.Extends w :=
    ⟨fun r n hr => by rw [hnode, if_neg (fun hrq => by rw [hrq, hnone] at hr; cases hr), hr], hwork⟩
  refine ⟨hnames.mono hextends, by rw [hnode, if_pos rfl], ?_, fun r hr => ?_, ?_⟩
  · rcases hgrows.node? q with heq | ⟨hempty, -⟩
    · rwa [heq] at hbefore
    · exact .inl hempty
  · rw [hnode, if_neg hr, hsame r hr]
    rcases hgrows.node? r with heq | ⟨hempty, hfolder⟩
    · exact .inl heq
    · obtain ⟨above, habove, -, hnamed⟩ := hgrows.along r hempty hfolder
      exact .inr ⟨hempty, hfolder, above, habove,
        hnames.leads_above hnormal hfit hbase hextends habove hnamed hfolder⟩
  · rw [rest_makeLink hmake, hrest, hgrows.rest]

theorem Put.places {r : Except VolumeFault Unit} (h : Put u path.text term r w) (hr : r.isOk = true)
    (hnormal : path.IsNormal) (hgrows : v.GrowsAlong path.parent u) :
    Text.unfit? path.text = none ∧ ∃ p, Places path term v w p := by
  cases h with
  | refused e => cases hr
  | made hmake =>
    obtain ⟨-, p, hp, hnone, -⟩ := node?_makeLink hmake
    have hself : u.Extends u := ⟨fun _ _ hq => hq, rfl⟩
    have hfit := (makeLink_eq_ok_iff.mp hmake).2.1
    exact ⟨hfit, p,
      places_makeLink hnormal hfit hgrows hself rfl hp (fun _ _ => rfl) (.inl hnone) hmake⟩
  | @replaced p _ hlink hmake =>
    have hp := hlink.names.ne_nil
    obtain ⟨-, q, hq, -, -⟩ := node?_makeLink hmake
    -- The path names the same place with the link as without it.
    obtain rfl := (hq.mono (extends_without hp)).unique hlink.names
    refine ⟨hlink.fit, q,
      places_makeLink hnormal hlink.fit hgrows (extends_without hp) rfl hq (fun r hr =>
        ?_) (.inr hlink.node?) hmake⟩
    rw [node?_without hp, if_neg hr]
  | lost => cases hr

/-! ## Saving and reading -/

theorem isNormal_path {homes : Homes} {folder : Text}
    (hb : BookmarkFolder.ofPath homes (Path.ofText folder) = .ok b) : b.path.IsNormal := by
  rw [ofPath] at hb
  cases hpath : (Path.ofText folder).expandUser homes with
  | error e => simp [hpath, Except.map] at hb
  | ok p =>
    obtain rfl : BookmarkFolder.mk p = b := by simpa [hpath, Except.map] using hb
    exact Path.isNormal_expandUser (Path.isNormal_ofText folder) hpath

end BookmarkFolder

end FileTags

import FileTags.Proofs.Volume.Link

/-!
# Trails

Where a path leads is written down as a trail: one step for each name, and one for each link on the
way. A trail is kept when more nodes come to stand beside it, and it can be cut in front of its last
name.
-/

set_option autoImplicit false

namespace FileTags.Volume

variable {v w : Volume} {here m p q : Place} {name : Blob} {names : List Blob} {links : Nat}
  {path : Text} {b : Blob}

structure IsEntry (name : Blob) : Prop where
  ne_dot : name ≠ dot
  ne_dots : name ≠ dots
  length_le : name.length ≤ nameLimit

inductive Trail (v : Volume) : Nat → Place → List Blob → Place → Prop
  | stop (links : Nat) (here : Place) : Trail v links here [] here
  | stay {links : Nat} {here p : Place} {names : List Blob} (hfolder : v.isFolder here = true)
      (h : Trail v links here names p) :
      Trail v links here (dot :: names) p
  | up {links : Nat} {here p : Place} {names : List Blob} (hfolder : v.isFolder here = true)
      (h : Trail v links here.tail names p) :
      Trail v links here (dots :: names) p
  | enter {links : Nat} {here p : Place} {name : Blob} {names : List Blob} {n : Node}
      (hfolder : v.isFolder here = true)
      (hname : IsEntry name) (hnode : v.node? (name :: here) = some n)
        (hlink : ∀ target, n ≠ .link target)
      (h : Trail v links (name :: here) names p) : Trail v links here (name :: names) p
  | jump {links : Nat} {here p : Place} {name target : Blob} {names : List Blob}
      (hfolder : v.isFolder here = true)
      (hname : IsEntry name) (hnode : v.node? (name :: here) = some (.link target))
      (h : Trail v links (rootOf here target) (stepsOf target ++ names) p) :
      Trail v (links + 1) here (name :: names) p

theorem follow_nil : v.follow links here [] = .ok here := by
  cases links <;> rfl

theorem follow_cons : v.follow links here (name :: names) =
    if !v.isFolder here then .error .notDirectory
    else if name = dot then v.follow links here names
    else if name = dots then v.follow links here.tail names
    else if name.length > nameLimit then .error .nameTooLong
    else
      match v.node? (name :: here) with
      | none => .error .noEntry
      | some (.link target) =>
        match links with
        | 0 => .error .loop
        | links + 1 => v.follow links (rootOf here target) (stepsOf target ++ names)
      | some _ => v.follow links (name :: here) names := by
  cases links <;> rfl

theorem follow_entry (hfolder : v.isFolder here = true) (hname : IsEntry name) :
    v.follow links here (name :: names) =
      match v.node? (name :: here) with
    | none => .error .noEntry
    | some (.link target) =>
      match links with
      | 0 => .error .loop
      | links + 1 => v.follow links (rootOf here target) (stepsOf target ++ names)
    | some _ => v.follow links (name :: here) names := by
  have hsize : ¬ name.length > nameLimit := Nat.not_lt.mpr hname.length_le
  rw [follow_cons, hfolder]
  simp only [Bool.not_true, Bool.false_eq_true, if_false, if_neg hname.ne_dot, if_neg hname.ne_dots,
    if_neg hsize]

theorem Trail.follow (h : v.Trail links here names p) : v.follow links here names = .ok p := by
  induction h with
  | stop links here => exact follow_nil
  | stay hfolder _ ih => rw [follow_cons, hfolder]; exact ih
  | up hfolder _ ih => rw [follow_cons, hfolder]; exact ih
  | @enter _ _ _ _ _ n hfolder hname hnode hlink _ ih =>
    rw [follow_entry hfolder hname, hnode]
    cases n with
    | link target => exact absurd rfl (hlink target)
    | _ => exact ih
  | jump hfolder hname hnode _ ih =>
    rw [follow_entry hfolder hname, hnode]
    exact ih

/-- By induction on the links that are left, and on the names in between. -/
theorem trail_of_follow (h : v.follow links here names = .ok p) : v.Trail links here names p := by
  revert here names
  induction links using Nat.strongRecOn with | _ links ihlinks =>
  intro here names h
  induction names generalizing here with
  | nil =>
    rw [follow_nil] at h
    cases h
    exact .stop links _
  | cons name names ih =>
    cases hfolder : v.isFolder here with
    | false =>
      rw [follow_cons, hfolder] at h
      cases h
    | true =>
      by_cases hdot : name = dot
      · subst hdot
        rw [follow_cons, hfolder] at h
        exact .stay hfolder (ih h)
      by_cases hdots : name = dots
      · subst hdots
        rw [follow_cons, hfolder] at h
        exact .up hfolder (ih h)
      by_cases hsize : name.length > nameLimit
      · rw [follow_cons, hfolder, Bool.not_true, if_neg Bool.false_ne_true, if_neg hdot,
          if_neg hdots, if_pos hsize] at h
        cases h
      have hname : IsEntry name := ⟨hdot, hdots, Nat.not_lt.mp hsize⟩
      rw [follow_entry hfolder hname] at h
      cases hnode : v.node? (name :: here) with
      | none =>
        rw [hnode] at h
        cases h
      | some n =>
        rw [hnode] at h
        cases n with
        | link target =>
          cases links with
          | zero => cases h
          | succ links => exact .jump hfolder hname hnode (ihlinks links (Nat.lt_succ_self links) h)
        | folder => exact .enter hfolder hname hnode nofun (ih h)
        | file content => exact .enter hfolder hname hnode nofun (ih h)

/-! ## More nodes -/

structure Extends (v w : Volume) : Prop where
  node? : ∀ p n, v.node? p = some n → w.node? p = some n
  work : w.work = v.work

theorem Extends.isFolder (h : v.Extends w) (hp : v.isFolder p = true) : w.isFolder p = true := by
  rw [Volume.isFolder, beq_iff_eq] at hp ⊢
  exact h.node? p _ hp

theorem Extends.trail (h : v.Extends w) (ht : v.Trail links here names p) :
    w.Trail links here names p := by
  induction ht with
  | stop links here => exact .stop links here
  | stay hfolder _ ih => exact .stay (h.isFolder hfolder) ih
  | up hfolder _ ih => exact .up (h.isFolder hfolder) ih
  | enter hfolder hname hnode hlink _ ih =>
    exact .enter (h.isFolder hfolder) hname (h.node? _ _ hnode) hlink ih
  | jump hfolder hname hnode _ ih => exact .jump (h.isFolder hfolder) hname (h.node? _ _ hnode) ih

/-- What a path leads to it still leads to when there is more. -/
theorem Extends.follow (h : v.Extends w) (hp : v.follow links here names = .ok p) :
    w.follow links here names = .ok p :=
  (h.trail (trail_of_follow hp)).follow

theorem Extends.slot {s : Slot} (h : v.Extends w) (hs : v.slot b = .ok s) : w.slot b = .ok s := by
  rw [Volume.slot] at hs ⊢
  cases hcheck : checkPath b with
  | error e => simp [hcheck, bind, Except.bind] at hs
  | ok =>
    cases hfollow : v.follow linkLimit (rootOf v.work b) (stepsOf b).dropLast with
    | error e => simp [hcheck, hfollow, bind, Except.bind] at hs
    | ok folder =>
      simp only [hcheck, hfollow, h.work, h.follow hfollow, bind, Except.bind] at hs ⊢
      split at hs
      · next hlast => exact hs
      · next name hlast =>
        cases hfolder : v.isFolder folder with
        | false => simp [hfolder] at hs
        | true =>
          rw [hfolder] at hs
          rw [h.isFolder hfolder]
          exact hs

theorem Extends.place (h : v.Extends w) (hp : v.place b = .ok p) : w.place b = .ok p := by
  rw [Volume.place] at hp ⊢
  cases hcheck : checkPath b with
  | error e => simp [hcheck, bind, Except.bind] at hp
  | ok =>
    simp only [hcheck, h.work, bind, Except.bind] at hp ⊢
    exact h.follow hp

theorem Extends.leads (h : v.Extends w) (hp : v.Leads path p) : w.Leads path p :=
  leads_iff.mpr ((leads_iff.mp hp).imp_right h.place)

theorem Names.mono (hp : v.Names path p) (h : v.Extends w) : w.Names path p := by
  obtain ⟨folder, name, hslot, rfl⟩ := hp
  exact ⟨folder, name, h.slot hslot, rfl⟩

theorem extends_without (hp : p ≠ []) : (v.without p).Extends v where
  work := rfl
  node? q n hq := by
    rw [node?_without hp] at hq
    split at hq
    · cases hq
    · exact hq

/-! ## The last name -/

/-- In front of its last name a trail is at a folder, where the name is a dot or two, or stands for
something. -/
theorem Trail.before_last (h : v.Trail links here (names ++ [name]) p) :
    ∃ m, v.Trail links here names m ∧ v.isFolder m = true ∧
      (name = dot ∨ name = dots ∨ IsEntry name ∧ (v.node? (name :: m)).isSome = true) := by
  generalize hall : names ++ [name] = all at h
  induction h generalizing names with
  | stop => simp at hall
  | stay hfolder _ ih =>
    cases names with
    | nil =>
      obtain ⟨rfl, -⟩ := List.cons.inj hall
      exact ⟨_, .stop _ _, hfolder, .inl rfl⟩
    | cons first names =>
      obtain ⟨rfl, hrest⟩ := List.cons.inj hall
      obtain ⟨m, hm, hlast⟩ := ih hrest
      exact ⟨m, .stay hfolder hm, hlast⟩
  | up hfolder _ ih =>
    cases names with
    | nil =>
      obtain ⟨rfl, -⟩ := List.cons.inj hall
      exact ⟨_, .stop _ _, hfolder, .inr (.inl rfl)⟩
    | cons first names =>
      obtain ⟨rfl, hrest⟩ := List.cons.inj hall
      obtain ⟨m, hm, hlast⟩ := ih hrest
      exact ⟨m, .up hfolder hm, hlast⟩
  | enter hfolder hname hnode hlink _ ih =>
    cases names with
    | nil =>
      obtain ⟨rfl, -⟩ := List.cons.inj hall
      exact ⟨_, .stop _ _, hfolder, .inr (.inr ⟨hname, by rw [hnode]; rfl⟩)⟩
    | cons first names =>
      obtain ⟨rfl, hrest⟩ := List.cons.inj hall
      obtain ⟨m, hm, hlast⟩ := ih hrest
      exact ⟨m, .enter hfolder hname hnode hlink hm, hlast⟩
  | jump hfolder hname hnode _ ih =>
    cases names with
    | nil =>
      obtain ⟨rfl, -⟩ := List.cons.inj hall
      exact ⟨_, .stop _ _, hfolder, .inr (.inr ⟨hname, by rw [hnode]; rfl⟩)⟩
    | cons first names =>
      obtain ⟨rfl, hrest⟩ := List.cons.inj hall
      obtain ⟨m, hm, hlast⟩ := ih ((List.append_assoc _ _ _).trans (congrArg _ hrest))
      exact ⟨m, .jump hfolder hname hnode hm, hlast⟩

end FileTags.Volume

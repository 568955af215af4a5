import FileTags.Proofs.Bookmark.History
import FileTags.Proofs.Filter.Cycles

/-!
# Two ways to a bookmark

A bookmark is compiled by its path, with the bookmarks that stand next to it, or by a reference to
it in a term. The reference is being expanded when its term is compiled, the path is not. Where
bookmarks refer to themselves this may change the one that is told of, but nothing else.
-/

set_option autoImplicit false

namespace FileTags

open FileTags.Filter

namespace BookmarkFolder

variable {homes : Homes} {b : BookmarkFolder} {v : Volume} {d : Path} {name term : Text}
  {depth : Nat} {x : CompileError}

/-- What the bookmark at a path comes to when bookmarks may nest to a depth. -/
def readTo (depth : Nat) (homes : Homes) (v : Volume) (p : Path) : Except BookmarkError Filter := do
  let term ← (v.bookmarkTerm p.text).mapError .compile
  let folder ← (ofPath homes p.parent).mapError .noHome
  (ofTermAt (some (folder.resolve v)) depth [] term).mapError .compile

/-- What a term comes to with the bookmarks of the folder, when they may nest to a depth. -/
def compileTo (depth : Nat) (b : BookmarkFolder) (v : Volume) (term : Text) :
    Except CompileError Filter :=
  ofTermAt (some (b.resolve v)) depth [] term

/-- Two outcomes agree: they are the same filter, or the same error, or two errors that tell of
bookmarks which refer to themselves. -/
inductive Agree : Except BookmarkError Filter → Except CompileError Filter → Prop
  | same (r : Except CompileError Filter) : Agree (r.mapError .compile) r
  | cyclic {x y : CompileError} (hx : IsCyclic x) (hy : IsCyclic y) :
      Agree (.error (.compile x)) (.error y)

/-! ## Names that bookmarks refer to -/

def linked (v : Volume) : List Text :=
  v.nodes.flatMap fun e =>
    match e.2 with
    | .link target => mentioned (Text.ofBytes target)
    | _ => []

theorem resolve_ne_tooDeep (b : BookmarkFolder) (v : Volume) (name : Text) :
    b.resolve v name ≠ .error .tooDeep := by
  rw [resolve, Volume.bookmarkTerm]
  split
  · split <;> simp
  · simp
  · simp

theorem exists_link_of_resolve (h : b.resolve v name = .ok term) :
    ∃ p target, (p, Node.link target) ∈ v.nodes ∧ Text.ofBytes target = term := by
  obtain ⟨hwhole, -, ⟨folder, last⟩, -, hnode⟩ := bookmarkTerm_eq_ok_iff.mp h
  cases last with
  | none => cases hnode
  | some last =>
    have hlookup : v.node? (last :: folder) = some (.link (Utf8.bytes term)) := hnode
    rw [Volume.node?, if_neg (List.cons_ne_nil _ _)] at hlookup
    obtain ⟨l, r, hnodes, -⟩ := List.lookup_eq_some_iff.mp hlookup
    exact ⟨last :: folder, _, by rw [hnodes]; simp, Text.ofBytes_bytes hwhole⟩

theorem mem_linked {other : Text} (h : b.resolve v name = .ok term) (hm : Mentions term other) :
    other ∈ linked v := by
  obtain ⟨p, target, hp, rfl⟩ := exists_link_of_resolve h
  exact List.mem_flatMap.mpr ⟨_, hp, mem_mentioned.mpr hm⟩

/-- Bookmarks nest no deeper than there are names in the terms of the links. -/
theorem resolve_nested_ne_tooDeep (h : b.resolve v name = .ok term) (hd : (linked v).length < depth)
    (expanding : List Text) :
    nested (some (b.resolve v)) depth expanding term ≠ .error .tooDeep :=
  nested_ne_tooDeep (fun _ _ hl _ => mem_linked hl) (resolve_ne_tooDeep b v) (fun _ => mem_linked h)
    (Nat.lt_of_le_of_lt (List.length_filter_le _ _) hd)

/-! ## By reference -/

theorem compileTo_reference (hname : IsSimple name) (depth : Nat) (b : BookmarkFolder)
    (v : Volume) :
    compileTo depth b v (reference name) =
      ofBookmark (some (b.resolve v)) (nested (some (b.resolve v)) depth) [] (.text name) := by
  obtain ⟨n, he⟩ := ofTerm_reference hname
  rw [compileTo, ofTermAt_read he, joinTree_bookmark]

theorem compileTo_unresolved (hname : IsSimple name) (hl : b.resolve v name = .error x)
    (depth : Nat) :
    compileTo depth b v (reference name) = .error x := by
  rw [compileTo_reference hname, ofBookmark_unresolved List.not_mem_nil hl]

theorem compileTo_resolved (hname : IsSimple name) (hl : b.resolve v name = .ok term)
    (depth : Nat) :
    compileTo depth b v (reference name) = nested (some (b.resolve v)) depth [name] term := by
  rw [compileTo_reference hname, ofBookmark_resolved List.not_mem_nil hl]

/-- A term compiles as it does at the depth of the limit, or bookmarks nest too deeply in it. -/
theorem compile_eq (b : BookmarkFolder) (v : Volume) (t : Text) :
    b.compile v t = .error (.badSyntax (tooDeepAt t)) ∨
      compileTo depthLimit b v t ≠ .error .tooDeep ∧
      b.compile v t = compileTo depthLimit b v t := by
  rw [compile, ofTerm, compileTo]
  split
  · exact .inl rfl
  · next hdeep => exact .inr ⟨hdeep, rfl⟩

/-! ## By path -/

theorem ofPath_absolute (hd : d.isAbsolute = true) : ofPath homes d = .ok ⟨d⟩ := by
  rw [ofPath, Path.expandUser]
  split
  · next hslashes _ => simp [Path.isAbsolute, hslashes] at hd
  · rfl

/-- The folder of a bookmark in an absolute folder is this folder itself. -/
theorem ofPath_parent (hd : d.isAbsolute = true) (hname : IsSimple name) :
    ofPath homes (d ++ Path.ofText name).parent = .ok ⟨d⟩ := by
  have hparent : (d ++ Path.ofText name).parent = d := parent_pathFor (b := ⟨d⟩) hname
  rw [hparent, ofPath_absolute hd]

theorem readTo_unresolved (hl : resolve ⟨d⟩ v name = .error x) (depth : Nat) (homes : Homes) :
    readTo depth homes v (d ++ Path.ofText name) = .error (.compile x) := by
  have hterm : v.bookmarkTerm (d ++ Path.ofText name).text = .error x := hl
  rw [readTo, hterm]
  rfl

theorem readTo_resolved (hd : d.isAbsolute = true) (hname : IsSimple name)
    (hl : resolve ⟨d⟩ v name = .ok term) (depth : Nat) (homes : Homes) :
    readTo depth homes v (d ++ Path.ofText name) =
      (compileTo depth ⟨d⟩ v term).mapError .compile := by
  have hterm : v.bookmarkTerm (d ++ Path.ofText name).text = .ok term := hl
  rw [readTo, hterm, ofPath_parent hd hname]
  rfl

theorem bookmark_unresolved (hl : resolve ⟨d⟩ v name = .error x) (homes : Homes) :
    v.bookmark homes (d ++ Path.ofText name) = .error (.compile x) := by
  have hterm : v.bookmarkTerm (d ++ Path.ofText name).text = .error x := hl
  rw [Volume.bookmark, hterm]
  rfl

theorem bookmark_resolved (hd : d.isAbsolute = true) (hname : IsSimple name)
    (hl : resolve ⟨d⟩ v name = .ok term) (homes : Homes) :
    v.bookmark homes (d ++ Path.ofText name) = (compile ⟨d⟩ v term).mapError .compile := by
  have hterm : v.bookmarkTerm (d ++ Path.ofText name).text = .ok term := hl
  rw [Volume.bookmark, hterm, ofPath_parent hd hname]
  rfl

theorem mapError_compile_eq_error_iff {r : Except CompileError Filter} :
    r.mapError BookmarkError.compile = .error (.compile x) ↔ r = .error x := by
  cases r <;> simp [Except.mapError]

/-! ## By path as by reference -/

theorem agree_of_deep (hd : d.isAbsolute = true) (hname : IsSimple name)
    (hread : readTo depth homes v (d ++ Path.ofText name) ≠ .error (.compile .tooDeep))
    (hcompiled : compileTo depth ⟨d⟩ v (reference name) ≠ .error .tooDeep) :
    Agree (readTo depth homes v (d ++ Path.ofText name))
      (compileTo depth ⟨d⟩ v (reference name)) := by
  cases hl : resolve ⟨d⟩ v name with
  | error x =>
    rw [readTo_unresolved hl, compileTo_unresolved hname hl]
    exact .same (.error x)
  | ok term =>
    rw [readTo_resolved hd hname hl, Ne, mapError_compile_eq_error_iff] at hread
    rw [compileTo_resolved hname hl] at hcompiled
    rw [readTo_resolved hd hname hl, compileTo_resolved hname hl]
    rcases ofTermAt_agrees hl hcompiled hread with hsame | ⟨x, y, hx, hy, hterm, hinside⟩
    · rw [compileTo, hsame]
      exact .same _
    · rw [compileTo, hterm, hinside]
      exact .cyclic hx hy

/-- With more depth than there are names in the terms of the links, the limit plays no part. -/
theorem not_tooDeep (hd : d.isAbsolute = true) (hname : IsSimple name) (homes : Homes)
    (hdepth : (linked v).length < depth) :
    readTo depth homes v (d ++ Path.ofText name) ≠ .error (.compile .tooDeep) ∧
    compileTo depth ⟨d⟩ v (reference name) ≠ .error .tooDeep := by
  cases hl : resolve ⟨d⟩ v name with
  | error x =>
    have hx : x ≠ .tooDeep := fun hx => resolve_ne_tooDeep ⟨d⟩ v name (hx ▸ hl)
    rw [readTo_unresolved hl, compileTo_unresolved hname hl]
    exact ⟨by simpa using hx, by simpa using hx⟩
  | ok term =>
    rw [readTo_resolved hd hname hl, compileTo_resolved hname hl, Ne, mapError_compile_eq_error_iff]
    exact ⟨resolve_nested_ne_tooDeep hl (Nat.lt_succ_of_lt hdepth) [],
      resolve_nested_ne_tooDeep hl hdepth [name]⟩

/-- Whatever links there are in an absolute folder, a bookmark under a simple name comes to the same
by its path as by a reference to it. With enough depth for bookmarks in bookmarks this is so without
exception; as it is, either way may come upon the limit. -/
theorem bookmark_agrees (hb : ofPath homes d = .ok b) (hd : d.isAbsolute = true)
    (hname : IsSimple name) (v : Volume) :
    (∃ enough, ∀ depth, enough < depth →
      readTo depth homes v (d ++ Path.ofText name) ≠ .error (.compile .tooDeep) ∧
      compileTo depth b v (reference name) ≠ .error .tooDeep ∧
      Agree (readTo depth homes v (d ++ Path.ofText name)) (compileTo depth b v (reference name))) ∧
    (Agree (v.bookmark homes (d ++ Path.ofText name)) (b.compile v (reference name)) ∨
      (∃ term, b.resolve v name = .ok term ∧
        v.bookmark homes (d ++ Path.ofText name) =
          .error (.compile (.badSyntax (tooDeepAt term)))) ∨
      b.compile v (reference name) = .error (.badSyntax (tooDeepAt (reference name)))) := by
  obtain rfl : ⟨d⟩ = b := Except.ok.inj ((ofPath_absolute hd).symm.trans hb)
  refine ⟨⟨(linked v).length, fun depth hdepth => ?_⟩, ?_⟩
  · obtain ⟨hread, hcompiled⟩ := not_tooDeep hd hname homes hdepth
    exact ⟨hread, hcompiled, agree_of_deep hd hname hread hcompiled⟩
  rcases compile_eq ⟨d⟩ v (reference name) with hlimit | ⟨hcompiled, heq⟩
  · exact .inr (.inr hlimit)
  cases hl : resolve ⟨d⟩ v name with
  | error x =>
    rw [heq, compileTo_unresolved hname hl, bookmark_unresolved hl]
    exact .inl (.same (.error x))
  | ok term =>
    rw [bookmark_resolved hd hname hl]
    rcases compile_eq ⟨d⟩ v term with hlimit | ⟨hterm, hsame⟩
    · exact .inr (.inl ⟨term, rfl, by rw [hlimit]; rfl⟩)
    · have hread : readTo depthLimit homes v (d ++ Path.ofText name) ≠
          .error (.compile .tooDeep) := by
        rwa [readTo_resolved hd hname hl, Ne, mapError_compile_eq_error_iff]
      rw [heq, hsame, ← readTo_resolved hd hname hl depthLimit homes]
      exact .inl (agree_of_deep hd hname hread hcompiled)

/-- Two bookmarks that refer to each other: the path of the first tells of the second one, a
reference to it tells of itself. -/
theorem bookmark_agrees_cyclic :
    let d : Path := ⟨1, [[.char 'b']]⟩
    let folder := [Utf8.ofString "b"]
    let v : Volume :=
      ⟨[(folder, .folder),
        (Utf8.ofString "a" :: folder, .link (Utf8.bytes (reference [.char 'c']))),
      (Utf8.ofString "c" :: folder, .link (Utf8.bytes (reference [.char 'a'])))], [], [], true, []⟩
    ofPath ⟨[], []⟩ d = .ok ⟨d⟩ ∧ d.isAbsolute = true ∧ IsSimple [.char 'a'] ∧
      v.bookmark ⟨[], []⟩ (d ++ Path.ofText [.char 'a']) =
        .error (.compile (.bookmark (.cyclic [.char 'c']))) ∧
      compile ⟨d⟩ v (reference [.char 'a']) = .error (.bookmark (.cyclic [.char 'a'])) ∧
      Agree (v.bookmark ⟨[], []⟩ (d ++ Path.ofText [.char 'a']))
        (compile ⟨d⟩ v (reference [.char 'a'])) := by
  intro d folder v
  have hb : ofPath ⟨[], []⟩ d = .ok ⟨d⟩ := rfl
  have hd : d.isAbsolute = true := rfl
  have hname : IsSimple [.char 'a'] := ⟨by decide, by simp, by decide, by decide, by decide⟩
  have hpath : v.bookmark ⟨[], []⟩ (d ++ Path.ofText [.char 'a']) =
      .error (.compile (.bookmark (.cyclic [.char 'c']))) := by with_unfolding_all rfl
  have hreference : compile ⟨d⟩ v (reference [.char 'a']) =
      .error (.bookmark (.cyclic [.char 'a'])) := by with_unfolding_all rfl
  refine ⟨hb, hd, hname, hpath, hreference, ?_⟩
  rcases (bookmark_agrees hb hd hname v).2 with hagree | ⟨term, -, hlimit⟩ | hlimit
  · exact hagree
  · cases hpath.symm.trans hlimit
  · cases hreference.symm.trans hlimit

end BookmarkFolder

end FileTags

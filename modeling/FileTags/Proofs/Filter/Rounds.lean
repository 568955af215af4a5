import FileTags.Proofs.Filter.Fold
import Mathlib.Logic.Relation

/-!
# The rounds of the fold

The fold goes by rounds: each takes the first thing to do and may put others in its place. In the
middle of a node the trees to visit are the rest of its children, and on top of what had been
finished before the node stand the filters of those behind. So when a node is joined, the filters it
takes are its children's and no others.
-/

set_option autoImplicit false

namespace FileTags.Filter

variable {bookmark : Tree → Except CompileError Filter}

/-! ## One round -/

/-- One round: what takes the place of the thing to do, and the filters finished after it. -/
def round (bookmark : Tree → Except CompileError Filter) :
    Work → List Filter → Except CompileError (List Work × List Filter)
  | .join c count, done => (c.combine (done.take count).reverse).map fun f =>
    ([], f :: done.drop count)
  | .visit (.node rule children _), done =>
    match Connective.ofRule? rule with
    | none => (ofLeaf bookmark rule children).map fun f => ([], f :: done)
    | some c => (c.check children.length).map fun _ =>
      (visits children ++ [.join c children.length], done)
  | .visit t, _ => .error (.mismatch (.notANode t.written))

theorem fold_eq_round (w : Work) (todo : List Work) (done : List Filter) :
    fold bookmark (w :: todo) done = (round bookmark w done).bind fun s =>
      fold bookmark (s.1 ++ todo) s.2 := by
  match w with
  | .join c count =>
    rw [fold, round]
    cases c.combine (done.take count).reverse <;> rfl
  | .visit (.text t) => rw [fold, round] <;> simp [Except.bind]
  | .visit (.other kind written) => rw [fold, round] <;> simp [Except.bind]
  | .visit (.node rule children offset) =>
    rw [fold, round]
    cases Connective.ofRule? rule with
    | none => cases ofLeaf bookmark rule children <;> rfl
    | some c =>
      cases hn : c.check children.length with
      | error e => simp [hn, Except.map, Except.bind]
      | ok u => simp [hn, Except.map, Except.bind]

theorem round_visit_leaf {rule : Rule} {children : List Tree} {offset : Nat} {done : List Filter}
    (h : Connective.ofRule? rule = none) :
    round bookmark (.visit (.node rule children offset)) done =
      (joinTree bookmark (.node rule children offset)).map fun f => ([], f :: done) := by
  rw [round, joinTree, h]

theorem weight_round {w : Work} {todo added : List Work} {done done' : List Filter}
    (h : round bookmark w done = .ok (added, done')) :
    weight (added ++ todo) < weight (w :: todo) := by
  match w with
  | .visit (.text t) => cases h
  | .visit (.other kind written) => cases h
  | .join c count =>
    rw [round] at h
    cases hf : c.combine (done.take count).reverse with
    | error e => simp [hf, Except.map] at h
    | ok f =>
      obtain ⟨rfl, -⟩ : [] = added ∧ f :: done.drop count = done' := by
        simpa [hf, Except.map] using h
      simp [weight, Work.weight]
  | .visit (.node rule children offset) =>
    cases hc : Connective.ofRule? rule with
    | none =>
      rw [round_visit_leaf hc] at h
      cases hf : joinTree bookmark (.node rule children offset) with
      | error e => simp [hf, Except.map] at h
      | ok f =>
        obtain ⟨rfl, -⟩ : [] = added ∧ f :: done = done' := by simpa [hf, Except.map] using h
        simp [weight, Work.weight, Tree.size]
    | some c =>
      simp only [round, hc] at h
      cases hn : c.check children.length with
      | error e => simp [hn, Except.map] at h
      | ok u =>
        obtain ⟨rfl, -⟩ : visits children ++ [.join c children.length] = added ∧ done = done' := by
          simpa [hn, Except.map] using h
        simp only [weight_append, weight_visits, weight, Work.weight, Tree.size]
        omega

/-! ## The rounds of a run -/

/-- A round takes the things to do and the filters finished to those after it. -/
inductive Round (bookmark : Tree → Except CompileError Filter) :
    List Work × List Filter → List Work × List Filter → Prop
  | of {w : Work} {todo added : List Work} {done done' : List Filter} :
      round bookmark w done = .ok (added, done') →
        Round bookmark (w :: todo, done) (added ++ todo, done')

abbrev Leads (bookmark : Tree → Except CompileError Filter) :
    List Work × List Filter → List Work × List Filter → Prop :=
  Relation.ReflTransGen (Round bookmark)

theorem Leads.fold_eq {s s' : List Work × List Filter} (h : Leads bookmark s s') :
    fold bookmark s.1 s.2 = fold bookmark s'.1 s'.2 := by
  induction h with
  | refl => rfl
  | tail _ hround ih =>
    obtain ⟨h⟩ := hround
    rw [ih, fold_eq_round, h]
    rfl

theorem leads_or_fails (todo : List Work) (done : List Filter) :
    (∃ done', Leads bookmark (todo, done) ([], done')) ∨
      ∃ w todo' done' e, Leads bookmark (todo, done) (w :: todo', done') ∧
      round bookmark w done' = .error e := by
  induction hn : weight todo using Nat.strongRecOn generalizing todo done with
  | ind n ih =>
    cases todo with
    | nil => exact .inl ⟨done, .refl⟩
    | cons w todo =>
      cases hr : round bookmark w done with
      | error e => exact .inr ⟨w, todo, done, e, .refl, hr⟩
      | ok s =>
        have hstep : Round bookmark (w :: todo, done) (s.1 ++ todo, s.2) := .of hr
        apply (ih _ (hn ▸ weight_round hr) (s.1 ++ todo) s.2 rfl).imp
        · rintro ⟨done', h⟩
          exact ⟨done', .head hstep h⟩
        · rintro ⟨w', todo', done', e, h, he⟩
          exact ⟨w', todo', done', e, .head hstep h, he⟩

/-! ## In the middle of the nodes -/

section standing

variable {t : Tree} {todo : List Work} {done : List Filter}

theorem joinTrees_append_singleton {ts : List Tree} {fs : List Filter} {f : Filter}
    (hts : joinTrees bookmark ts = .ok fs) (ht : joinTree bookmark t = .ok f) :
    joinTrees bookmark (ts ++ [t]) = .ok (fs ++ [f]) := by
  induction ts generalizing fs with
  | nil =>
    obtain rfl : [] = fs := by simpa [joinTrees] using hts
    simp [joinTrees, ht, Except.bind, Except.map]
  | cons s ts ih =>
    rw [joinTrees] at hts
    cases hs : joinTree bookmark s with
    | error e => simp [hs, Except.bind] at hts
    | ok g =>
      cases hgs : joinTrees bookmark ts with
      | error e => simp [hs, hgs, Except.bind, Except.map] at hts
      | ok gs =>
        obtain rfl : g :: gs = fs := by simpa [hs, hgs, Except.bind, Except.map] using hts
        simp [joinTrees, hs, ih hgs, Except.bind, Except.map]

/-- How a run over a tree stands: at its start, at its end, or in the middle of the children of a
node it had come to. -/
inductive Standing (bookmark : Tree → Except CompileError Filter) (t : Tree) :
    List Work → List Filter → Prop
  | start : Standing bookmark t [.visit t] []
  | finished {f : Filter} : joinTree bookmark t = .ok f → Standing bookmark t [] [f]
  | inside {rule : Rule} {children before behind : List Tree} {offset : Nat} {c : Connective}
      {todo : List Work}
      {done fs : List Filter} :
      Standing bookmark t (.visit (.node rule children offset) :: todo) done →
      Leads bookmark ([.visit t], []) (.visit (.node rule children offset) :: todo, done) →
      Connective.ofRule? rule = some c → c.check children.length = .ok () →
      children = before ++ behind → joinTrees bookmark before = .ok fs →
      Leads bookmark (visits children ++ .join c children.length :: todo, done)
        (visits behind ++ .join c children.length :: todo, fs.reverse ++ done) →
      Standing bookmark t (visits behind ++ .join c children.length :: todo) (fs.reverse ++ done)

/-- Once a tree is done its filter stands on top, and the run goes on with what comes behind it. -/
theorem Standing.finish {s : Tree} {f : Filter} (h : Standing bookmark t (.visit s :: todo) done)
    (hs : joinTree bookmark s = .ok f)
    (hleads : Leads bookmark (.visit s :: todo, done) (todo, f :: done)) :
    Standing bookmark t todo (f :: done) := by
  generalize hw : Work.visit s :: todo = work at h
  cases h with
  | start =>
    obtain ⟨rfl, rfl⟩ : s = t ∧ todo = [] := by simpa using hw
    exact .finished hs
  | finished => cases hw
  | @inside rule children before behind offset c rest earlier fs hnode hreached hc hn hchildren
      hfs hrun =>
    cases behind with
    | nil => simp [visits] at hw
    | cons s' behind =>
      obtain ⟨rfl, rfl⟩ : s = s' ∧ todo = visits behind ++ .join c children.length :: rest := by
        simpa [visits] using hw
      have hdone : f :: (fs.reverse ++ earlier) = (fs ++ [f]).reverse ++ earlier := by simp
      rw [hdone] at hleads ⊢
      exact .inside hnode hreached hc hn (by simp [hchildren]) (joinTrees_append_singleton hfs hs)
        (hrun.trans hleads)

/-- What stands before a node is joined: the filters of its children, on what was finished when the
run had come to it. -/
theorem Standing.join {c : Connective} {count : Nat}
    (h : Standing bookmark t (.join c count :: todo) done) :
    ∃ rule children offset earlier fs,
      Standing bookmark t (.visit (.node rule children offset) :: todo) earlier ∧
      Leads bookmark ([.visit t], []) (.visit (.node rule children offset) :: todo, earlier) ∧
      Connective.ofRule? rule = some c ∧ c.check count = .ok () ∧ children.length = count ∧
      joinTrees bookmark children = .ok fs ∧ done = fs.reverse ++ earlier ∧
      Leads bookmark (visits children ++ .join c count :: todo, earlier) (.join c count :: todo,
        done) := by
  generalize hw : Work.join c count :: todo = work at h
  cases h with
  | start => cases hw
  | finished => cases hw
  | @inside rule children before behind offset c' rest earlier fs hnode hreached hc hn hchildren
      hfs hrun =>
    cases behind with
    | cons s behind => simp [visits] at hw
    | nil =>
      obtain ⟨⟨rfl, rfl⟩, rfl⟩ : (c = c' ∧ count = children.length) ∧ todo = rest := by
        simpa [visits] using hw
      obtain rfl : children = before := by simpa using hchildren
      exact ⟨rule, children, offset, earlier, fs, hnode, hreached, hc, hn, rfl, hfs, rfl, hrun⟩

theorem take_reverse_append {fs : List Filter} {count : Nat} (earlier : List Filter)
    (h : fs.length = count) :
    ((fs.reverse ++ earlier).take count).reverse = fs ∧
    (fs.reverse ++ earlier).drop count = earlier := by
  have hl : fs.reverse.length = count := by simpa using h
  constructor
  · rw [← hl, List.take_left, List.reverse_reverse]
  · rw [← hl, List.drop_left]

theorem Standing.round {w : Work} {added : List Work} {done' : List Filter}
    (h : Standing bookmark t (w :: todo) done)
    (hreached : Leads bookmark ([.visit t], []) (w :: todo, done))
    (hround : round bookmark w done = .ok (added, done')) :
    Standing bookmark t (added ++ todo) done' := by
  have hstep : Leads bookmark (w :: todo, done) (added ++ todo, done') := .single (.of hround)
  match w with
  | .visit (.text s) => cases hround
  | .visit (.other kind written) => cases hround
  | .visit (.node rule children offset) =>
    cases hc : Connective.ofRule? rule with
    | none =>
      rw [round_visit_leaf hc] at hround
      cases hf : joinTree bookmark (.node rule children offset) with
      | error e => simp [hf, Except.map] at hround
      | ok f =>
        obtain ⟨rfl, rfl⟩ : [] = added ∧ f :: done = done' := by simpa [hf, Except.map] using hround
        exact h.finish hf hstep
    | some c =>
      simp only [Filter.round, hc] at hround
      cases hn : c.check children.length with
      | error e => simp [hn, Except.map] at hround
      | ok u =>
        obtain ⟨rfl, rfl⟩ : visits children ++ [.join c children.length] = added ∧
            done = done' := by
          simpa [hn, Except.map] using hround
        have hnone : joinTrees bookmark [] = .ok [] := rfl
        have hstart := Standing.inside h hreached hc hn (List.nil_append children).symm hnone .refl
        simpa using hstart
  | .join c count =>
    obtain ⟨rule, children, offset, earlier, fs, hnode, -, hc, hn, rfl, hfs, rfl, hrun⟩ := h.join
    obtain ⟨htake, hdrop⟩ := take_reverse_append earlier (length_joinTrees hfs)
    rw [Filter.round, htake, hdrop] at hround
    cases hf : c.combine fs with
    | error e => simp [hf, Except.map] at hround
    | ok f =>
      obtain ⟨rfl, rfl⟩ : [] = added ∧ f :: earlier = done' := by
        simpa [hf, Except.map] using hround
      have hjoin : joinTree bookmark (.node rule children offset) = .ok f := by
        simp [joinTree, hc, hn, hfs, hf, Except.bind]
      have hopen : Round bookmark (.visit (.node rule children offset) :: todo, earlier)
          (visits children ++ [.join c children.length] ++ todo, earlier) := by
        apply Round.of
        simp [Filter.round, hc, hn, Except.map]
      rw [List.append_assoc] at hopen
      exact hnode.finish hjoin (.head hopen (hrun.trans hstep))

theorem Leads.standing (h : Leads bookmark ([.visit t], []) (todo, done)) :
    Standing bookmark t todo done := by
  generalize hs : (todo, done) = s at h
  induction h generalizing todo done with
  | refl =>
    obtain ⟨rfl, rfl⟩ := Prod.mk.inj hs
    exact .start
  | tail hreached hround ih =>
    obtain ⟨hround⟩ := hround
    obtain ⟨rfl, rfl⟩ := Prod.mk.inj hs
    exact (ih rfl).round hreached hround

/-- With nothing left to do there is one filter, that of the tree. -/
theorem Leads.finished (h : Leads bookmark ([.visit t], []) ([], done)) :
    ∃ f, joinTree bookmark t = .ok f ∧ done = [f] := by
  have hstanding := h.standing
  generalize hw : ([] : List Work) = work at hstanding
  cases hstanding with
  | start => cases hw
  | @finished f hf => exact ⟨f, hf, rfl⟩
  | inside => simp at hw

theorem Leads.fails {w : Work} {e : CompileError}
    (h : Leads bookmark ([.visit t], []) (w :: todo, done))
    (he : round bookmark w done = .error e) : joinTree bookmark t = .error e := by
  rw [← fold_tree, h.fold_eq, fold_eq_round, he]
  rfl

end standing

/-- The fold over a tree is the recursion over it, failing with the error of its first round that
fails. A node is joined with the filters of its children, above what was finished before the run
came to it, and at the end there is one filter. -/
theorem fold_by_rounds (bookmark : Tree → Except CompileError Filter) (t : Tree) :
    fold bookmark [.visit t] [] = joinTree bookmark t ∧
    (∀ w todo done, fold bookmark (w :: todo) done =
      (round bookmark w done).bind fun s => fold bookmark (s.1 ++ todo) s.2) ∧
    (∀ e, joinTree bookmark t = .error e ↔
      ∃ w todo done, Leads bookmark ([.visit t], []) (w :: todo, done) ∧
      round bookmark w done = .error e) ∧
    (∀ c count todo done, Leads bookmark ([.visit t], []) (.join c count :: todo, done) →
      ∃ rule children offset earlier fs,
        Leads bookmark ([.visit t], []) (.visit (.node rule children offset) :: todo, earlier) ∧
        Connective.ofRule? rule = some c ∧ children.length = count ∧
        Leads bookmark (visits children ++ .join c count :: todo,
          earlier) (.join c count :: todo, done) ∧
        joinTrees bookmark children = .ok fs ∧
        count ≤ done.length ∧ (done.take count).reverse = fs ∧ done.drop count = earlier) ∧
    (∀ done, Leads bookmark ([.visit t], []) ([], done) ↔
      ∃ f, joinTree bookmark t = .ok f ∧ done = [f]) := by
  have hruns := @leads_or_fails bookmark [.visit t] []
  refine ⟨fold_tree t, fold_eq_round, fun e => ⟨fun he => ?_, ?_⟩, ?_,
    fun done => ⟨Leads.finished, ?_⟩⟩
  · rcases hruns with ⟨done, h⟩ | ⟨w, todo, done, e', h, he'⟩
    · obtain ⟨f, hf, -⟩ := h.finished
      simp [he] at hf
    · obtain rfl : e = e' := by simpa [he] using h.fails he'
      exact ⟨w, todo, done, h, he'⟩
  · rintro ⟨w, todo, done, h, he⟩
    exact h.fails he
  · intro c count todo done h
    obtain ⟨rule, children, offset, earlier, fs, -, hreached, hc, -, hn, hfs, rfl, hrun⟩ :=
      h.standing.join
    have hl : fs.length = count := by rw [length_joinTrees hfs, hn]
    obtain ⟨htake, hdrop⟩ := take_reverse_append earlier hl
    exact ⟨rule, children, offset, earlier, fs, hreached, hc, hn, hrun, hfs, by simp [hl],
      htake, hdrop⟩
  · rintro ⟨f, hf, rfl⟩
    rcases hruns with ⟨done, h⟩ | ⟨w, todo, done, e, h, he⟩
    · obtain ⟨g, hg, rfl⟩ := h.finished
      obtain rfl : f = g := by simpa [hf] using hg
      exact h
    · simp [h.fails he] at hf

end FileTags.Filter

import FileTags.Proofs.Filter.Reference
import FileTags.Proofs.Pattern.Limits

/-!
# Why terms do not compile

A term that does not compile is told to have bad syntax, a malformed pattern, a bound that is no
integer, or a bookmark that cannot be expanded. All other errors are about numbers: a pattern counts
a repetition with a number beyond the limit, or a number has more digits than can be read. The trees
of terms have the shapes that the fold expects, and bookmarks that nest too deeply are bad syntax of
the term itself, so the errors of other trees do not come up.
-/

set_option autoImplicit false

namespace FileTags

open Text

/-- The errors of terms that users are told to expect. -/
def CompileError.Declared : CompileError → Prop
  | .badSyntax _ | .badInteger _ _ _ | .bookmark _ => True
  | .badPattern _ e => e = .malformed
  | _ => False

def Expr.patterns : Expr → List Text
  | .tag _ p => [p]
  | .comparison _ t op v => if op = .equal ∨ op = .notEqual then [t, v] else [t]
  | _ => []

/-- A number in a leaf goes beyond a limit, and the error that says so: the count of a repetition is
too large or has too many digits, or the bound of an ordering has too many digits. -/
inductive Expr.Oversized : Expr → CompileError → Prop
  | count {leaf : Expr} {p digits : Text} (hp : p ∈ leaf.patterns) (hd : Pattern.HasCount p digits)
      (hl : digits.length ≤ digitLimit)
      (hn : Pattern.repetitionLimit ≤ numberOf digits) :
        Oversized leaf (.badPattern p .repetitionTooLarge)
  | countDigits {leaf : Expr} {p digits : Text} (hp : p ∈ leaf.patterns)
      (hd : Pattern.HasCount p digits)
      (hl : digitLimit < digits.length) : Oversized leaf
        (.badPattern p (.tooManyDigits ⟨digits.length⟩))
  | boundDigits {n : Nat} {t sign digits : Text} {op : Comparator} (hop : op ≠ .equal ∧
      op ≠ .notEqual) (hs : IsSign sign)
      (hd : IsDigits digits) (hl : digitLimit < digits.length) :
      Oversized (.comparison n t op (sign ++ digits)) (.tooManyDigits ⟨digits.length⟩)

theorem Expr.Oversized.not_declared {leaf : Expr} {x : CompileError} (h : leaf.Oversized x) :
    ¬ x.Declared := by
  cases h with
  | count => exact nofun
  | countDigits => exact nofun
  | boundDigits => exact id

/-- The term itself, or one that its bookmarks lead to. -/
def Resolver.Opens (resolve : Option Resolver) (t u : Text) : Prop :=
  u = t ∨ ∃ lookUp name, resolve = some lookUp ∧ lookUp.Reaches t name ∧ lookUp name = .ok u

namespace Filter

open Resolver

/-! ## Leaves -/

theorem patternOf_error {leaf : Expr} {p : Text} {x : CompileError} (hp : p ∈ leaf.patterns)
    (h : patternOf p = .error x) :
    x.Declared ∨ leaf.Oversized x := by
  rw [patternOf] at h
  cases hs : Pattern.ofSource p with
  | ok q => simp [hs] at h
  | error y =>
    obtain rfl : CompileError.badPattern p y = x := by simpa [hs] using h
    rcases Pattern.ofSource_error hs with rfl | ⟨digits, hd, hb⟩
    · exact .inl rfl
    · rcases (Pattern.bound?_eq_error_iff hd.1).mp hb with ⟨hl, rfl⟩ | ⟨hl, hn, rfl⟩
      · exact .inr (.countDigits hp hd hl)
      · exact .inr (.count hp hd hl hn)

theorem ofBound_error {n : Nat} {t v symbol : Text} {op : Comparator} {x : CompileError}
    (hop : op ≠ .equal ∧ op ≠ .notEqual) (h : ofBound t symbol (.text v) = .error x) :
    x.Declared ∨ (Expr.comparison n t op v).Oversized x := by
  rw [ofBound] at h
  cases hd : signedDigits? v with
  | none =>
    rw [readInteger_of_not_numeral hd] at h
    cases h
    exact .inl trivial
  | some p =>
    obtain ⟨sign, hsign, hdigits, rfl, -⟩ := of_signedDigits? hd
    rw [readInteger_append hsign hdigits] at h
    by_cases hl : p.2.length ≤ digitLimit
    · rw [if_pos hl] at h
      cases h
    · rw [if_neg hl] at h
      cases h
      exact .inr (.boundDigits hop hsign hdigits (Nat.lt_of_not_le hl))

/-- A leaf that is no bookmark has a declared error, or the one of a number beyond a limit. -/
theorem leaf_error {leaf : Expr} {x : CompileError} (hkind : leaf.IsLeaf)
    (hn : ¬ ∃ n name, leaf = .bookmark n name)
    (h : ofTree none leaf.toTree = .error x) : x.Declared ∨ leaf.Oversized x := by
  rw [ofTree, fold_tree] at h
  cases leaf with
  | bookmark n name => exact absurd ⟨n, name, rfl⟩ hn
  | not | and | or => exact hkind.elim
  | tag n p =>
    obtain hp | ⟨_, -, hp⟩ := bind_eq_error (a := patternOf p) h
    · exact patternOf_error (List.mem_singleton_self p) hp
    · cases hp
  | comparison n t op v =>
    have htag : t ∈ (Expr.comparison n t op v).patterns := by
      rw [Expr.patterns]
      split <;> simp
    cases op with
    | equal | notEqual =>
      obtain ht | ⟨_, -, h⟩ := bind_eq_error (a := patternOf t) h
      · exact patternOf_error htag ht
      · obtain hv | ⟨_, -, h⟩ := bind_eq_error (a := patternOf v) h
        · exact patternOf_error (by simp [Expr.patterns]) hv
        · cases h
    | less | lessEqual | greater | greaterEqual =>
      obtain ht | ⟨_, -, h⟩ := bind_eq_error (a := patternOf t) h
      · exact patternOf_error htag ht
      · obtain hv | ⟨_, -, h⟩ := bind_eq_error (a := ofBound t _ (.text v)) h
        · exact ofBound_error (by decide) hv
        · cases h

/-! ## Terms -/

variable {resolve : Option Resolver} {depth : Nat} {expanding : List Text} {t : Text}
  {x : CompileError}

theorem opens_through {lookUp : Resolver} {name term u : Text} (hr : resolve = some lookUp)
    (hm : Mentions t name)
    (hl : lookUp name = .ok term) (h : Opens resolve term u) : Opens resolve t u := by
  rcases h with rfl | ⟨lookUp', other, hr', hreach, hu⟩
  · exact .inr ⟨lookUp, name, hr, .direct hm, hl⟩
  · obtain rfl := Option.some.inj (hr.symm.trans hr')
    exact .inr ⟨lookUp, other, hr, .through hm hl hreach, hu⟩

/-- A term fails for its nesting, in a declared way, or over a leaf of a term that it opens. By
induction on the depth of its bookmarks. -/
theorem ofTermAt_error
    (hresolve : ∀ lookUp ∈ resolve, ∀ name y, lookUp name = .error y → ∃ b, y = .bookmark b)
    (h : ofTermAt resolve depth expanding t = .error x) :
    x = .tooDeep ∨ x.Declared ∨ ∃ u e leaf, Opens resolve t u ∧ Expr.ofTerm u = .ok e ∧
    leaf ∈ e.leaves ∧ leaf.Oversized x := by
  induction depth using Nat.strongRecOn generalizing expanding t with
  | ind depth ih =>
  cases he : Expr.ofTerm t with
  | error y =>
    rw [ofTermAt_unread he] at h
    cases h
    exact .inr (.inl trivial)
  | ok e =>
    rw [ofTermAt_read he] at h
    obtain ⟨leaf, hleaf, hx⟩ := joinTree_error_leaf e (Expr.shaped_of_ofTerm he) h
    by_cases hb : ∃ n name, leaf = .bookmark n name
    · obtain ⟨n, name, rfl⟩ := hb
      have hm : Mentions t name := ⟨e, n, he, hleaf⟩
      rw [joinTree_bookmark] at hx
      cases hr : resolve with
      | none =>
        rw [hr] at hx
        cases hx
        exact .inr (.inl trivial)
      | some lookUp =>
        rw [hr] at hx
        by_cases hn : name ∈ expanding
        · rw [ofBookmark_expanding hn] at hx
          cases hx
          exact .inr (.inl trivial)
        · cases hl : lookUp name with
          | error y =>
            rw [ofBookmark_unresolved hn hl] at hx
            cases hx
            obtain ⟨b, rfl⟩ := hresolve lookUp hr name _ hl
            exact .inr (.inl trivial)
          | ok term =>
            rw [ofBookmark_resolved hn hl] at hx
            cases depth with
            | zero =>
              cases hx
              exact .inl rfl
            | succ depth =>
              rw [← hr] at hx ⊢
              refine (ih depth (Nat.lt_succ_self _) hx).imp_right (Or.imp_right ?_)
              rintro ⟨u, d, leaf, hopens, hrest⟩
              exact ⟨u, d, leaf, opens_through hr hm hl hopens, hrest⟩
    · have hkind := Expr.isLeaf_of_mem_leaves e hleaf
      rw [joinTree_leaf hkind hb] at hx
      exact .inr ((leaf_error hkind hb hx).imp_right fun ho =>
        ⟨t, e, leaf, .inl rfl, he, hleaf, ho⟩)

/-- Where looking up a bookmark gives its term or says that there is none, a term that does not
compile has a declared error, unless the error is that of a number beyond a limit, in the term
itself or in one that its bookmarks lead to. -/
theorem ofTerm_error_undeclared_iff
    (hresolve : ∀ lookUp ∈ resolve, ∀ name y, lookUp name = .error y → ∃ b, y = .bookmark b)
    (h : ofTerm resolve t = .error x) :
    ¬ x.Declared ↔ ∃ u e leaf, Opens resolve t u ∧ Expr.ofTerm u = .ok e ∧ leaf ∈ e.leaves ∧
    leaf.Oversized x := by
  refine ⟨fun hx => ?_, fun ⟨_, _, _, _, _, _, ho⟩ => ho.not_declared⟩
  rw [ofTerm] at h
  split at h
  · cases h
    exact absurd trivial hx
  · next hne =>
    rcases ofTermAt_error hresolve h with rfl | hd | ho
    · exact absurd h hne
    · exact absurd hd hx
    · exact ho

theorem ofTerm_error_undeclared_iff_bookmark :
    let lookUp := Resolver.ofTable [([.char 'x'], Text.ofString "a\x7b2,4294967295\x7d")]
    let x := CompileError.badPattern (Text.ofString "a\x7b2,4294967295\x7d") .repetitionTooLarge
    (∀ l ∈ some lookUp, ∀ name y, l name = .error y → ∃ b, y = .bookmark b) ∧
      ofTerm (some lookUp) (Text.ofString "b OR NOT \x7bx\x7d") = .error x ∧
      (¬ x.Declared ↔ ∃ u e leaf, Opens (some lookUp) (Text.ofString "b OR NOT \x7bx\x7d") u ∧
        Expr.ofTerm u = .ok e ∧
        leaf ∈ e.leaves ∧ leaf.Oversized x) := by
  intro lookUp x
  have hresolve : ∀ l ∈ some lookUp, ∀ name y, l name = .error y → ∃ b, y = .bookmark b := by
    rintro l ⟨⟩ name y hy
    exact ⟨_, ofTable_error hy⟩
  have hx : ofTerm (some lookUp) (Text.ofString "b OR NOT \x7bx\x7d") = .error x := by
    decide +kernel
  exact ⟨hresolve, hx, ofTerm_error_undeclared_iff hresolve hx⟩

/-- The count of a repetition may be too large for a pattern that has nothing else wrong with it. -/
theorem ofTerm_error_not_declared : ¬ ∀ (resolve : Option Resolver) (t : Text) (x : CompileError),
    (∀ lookUp ∈ resolve, ∀ name y, lookUp name = .error y → ∃ b, y = .bookmark b) →
    ofTerm resolve t = .error x → x.Declared := by
  intro h
  have hx : ofTerm none (Text.ofString "a\x7b4294967295\x7d") =
      .error (.badPattern (Text.ofString "a\x7b4294967295\x7d") .repetitionTooLarge) := by
    decide +kernel
  exact absurd (h none _ _ nofun hx) nofun

end Filter

end FileTags

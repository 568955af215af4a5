import FileTags.Proofs.Term.Assembly
import FileTags.Proofs.Term.Phrase
import FileTags.SyntaxError

/-!
# Renderings of expressions

An expression can be written in many ways: every operator has several spellings, gaps may be of any
length and kind, and parentheses may stand around any part. They have to stand around a chain that
is negated or an operand of a conjunction, and around a disjunction that is an operand of a
disjunction. Whichever way is taken, reading gives the expression back, but for its offsets.
-/

set_option autoImplicit false

namespace FileTags

mutual

def Expr.unplaced : Expr → Expr
  | .tag _ t => .tag 0 t
  | .comparison _ t op v => .comparison 0 t op v
  | .bookmark _ name => .bookmark 0 name
  | .not _ e => .not 0 e.unplaced
  | .and _ es => .and 0 (unplacedAll es)
  | .or _ es => .or 0 (unplacedAll es)

def Expr.unplacedAll : List Expr → List Expr
  | [] => []
  | e :: es => e.unplaced :: unplacedAll es

end

namespace Term

open Text FileTags.Expr

def Symbol.wraps : Symbol → Expr → Bool
  | .not, .and _ _ | .not, .or _ _ => true
  | .and, .and _ _ | .and, .or _ _ => true
  | .or, .or _ _ => true
  | _, _ => false

mutual

/-- A text that is written for an expression; `wrapped` tells whether there are parentheses around
the whole. -/
inductive Rendering : Bool → Expr → Text → Prop
  | tag {t : Text} (n : Nat) (h : IsTag t) : Rendering false (.tag n t) t
  | comparison {t g g' v : Text} (n : Nat) (op : Comparator) (ht : IsTag t) (hv : Verbatim v)
      (hg : IsGap g) (hne : g ≠ [])
      (hg' : IsGap g') (hne' : g' ≠ []) : Rendering false (.comparison n t op v)
        (t ++ (g ++ (op.symbol ++ (g' ++ v))))
  | bookmark {inside : Text} (n : Nat) (hne : inside ≠ []) (h : ∀ c ∈ inside, c ≠ .char '\x7b' ∧
      c ≠ .char '\x7d') (ht : .char '\t' ∉ inside) :
      Rendering false (.bookmark n (strip inside)) (.char '\x7b' :: (inside ++ [.char '\x7d']))
  | not {wrapped : Bool} {e : Expr} {s g t : Text} (n : Nat) (hs : s ∈ Symbol.not.spellings)
      (hg : IsGap g) (hne : g ≠ [])
      (h : Rendering wrapped e t) (hw : Symbol.not.wraps e = true → wrapped = true) :
      Rendering false (.not n e) (s ++ (g ++ t))
  | and {es : List Expr} {t : Text} (n : Nat) (h : Chain .and es t) (hlen : 2 ≤ es.length) :
      Rendering false (.and n es) t
  | or {es : List Expr} {t : Text} (n : Nat) (h : Chain .or es t) (hlen : 2 ≤ es.length) :
      Rendering false (.or n es) t
  | wrap {wrapped : Bool} {e : Expr} {g g' t : Text} (hg : IsGap g) (hg' : IsGap g')
      (h : Rendering wrapped e t) :
      Rendering true e (.char '(' :: (g ++ (t ++ (g' ++ [.char ')']))))

inductive Chain : Symbol → List Expr → Text → Prop
  | one {k : Symbol} {wrapped : Bool} {e : Expr} {t : Text} (h : Rendering wrapped e t)
      (hw : k.wraps e = true → wrapped = true) : Chain k [e] t
  | more {k : Symbol} {es : List Expr} {wrapped : Bool} {e : Expr} {s g g' t u : Text}
      (h : Chain k es t)
      (hs : s ∈ k.spellings) (hg : IsGap g) (hne : g ≠ []) (hg' : IsGap g') (hne' : g' ≠ [])
        (hu : Rendering wrapped e u)
      (hw : k.wraps e = true → wrapped = true) : Chain k (es ++ [e]) (t ++ (g ++ (s ++ (g' ++ u))))

end

/-! ## Renderings read as phrases -/

def Symbol.Operand : Symbol → List Token → Expr → Prop
  | .not | .and => Unary
  | .or => Conjunction
  | .opening | .closing => Disjunction

def Symbol.Operands : Symbol → List Token → List Expr → Prop
  | .or => Disjuncts
  | _ => Conjuncts

theorem Conjunction.of_unary {ts : List Token} {e : Expr} (h : Unary ts e) : Conjunction ts e :=
  .single (.one h)

theorem Disjunction.of_conjunction {ts : List Token} {e : Expr} (h : Conjunction ts e) :
    Disjunction ts e := .single (.one h)

theorem Unary.operand {ts : List Token} {e : Expr} (h : Unary ts e) (k : Symbol) :
    k.Operand ts e := by
  cases k with
  | not | and => exact h
  | or => exact .of_unary h
  | opening | closing => exact .of_conjunction (.of_unary h)

theorem Primary.operand {ts : List Token} {e : Expr} (h : Primary ts e) (k : Symbol) :
    k.Operand ts e :=
  Unary.operand (.primary h) k

theorem unplacedAll_append (es fs : List Expr) :
    unplacedAll (es ++ fs) = unplacedAll es ++ unplacedAll fs := by
  induction es with
  | nil => rfl
  | cons e es ih => simp [unplacedAll, ih]

theorem length_unplacedAll (es : List Expr) : (unplacedAll es).length = es.length := by
  induction es with
  | nil => rfl
  | cons e es ih => simp [unplacedAll, ih]

def Derive (D : List Token → Expr → Prop) (e : Expr) (ts : List Token) : Prop :=
  ∃ f, D ts f ∧ f.unplaced = e.unplaced

def DeriveAll (D : List Token → List Expr → Prop) (es : List Expr) (ts : List Token) : Prop :=
  ∃ fs, D ts fs ∧ unplacedAll fs = unplacedAll es

theorem DeriveAll.eq_cons_cons {D : List Token → List Expr → Prop} {es : List Expr}
    {ts : List Token} (h : DeriveAll D es ts) (hlen : 2 ≤ es.length) :
    ∃ e f fs, D ts (e :: f :: fs) ∧ unplacedAll (e :: f :: fs) = unplacedAll es := by
  obtain ⟨fs, hfs, heq⟩ := h
  have hl : fs.length = es.length := by
    rw [← length_unplacedAll fs, heq, length_unplacedAll]
  match fs, hl with
  | [], hl => exact absurd hlen (by simp [← hl])
  | [e], hl => exact absurd hlen (by simp [← hl])
  | e :: f :: fs, _ => exact ⟨e, f, fs, hfs, heq⟩

theorem Symbol.operands_one {k : Symbol} (hk : k = .and ∨ k = .or) {ts : List Token} {e : Expr}
    (h : k.Operand ts e) :
    k.Operands ts [e] := by
  rcases hk with rfl | rfl
  · exact .one h
  · exact .one h

theorem Symbol.operands_more {k : Symbol} (hk : k = .and ∨ k = .or) {ts us : List Token}
    {es : List Expr} {e : Expr} (n : Nat) (h : k.Operands ts es) (hu : k.Operand us e) :
    k.Operands (ts ++ .symbol k n :: us) (es ++ [e]) := by
  rcases hk with rfl | rfl
  · exact .more n h hu
  · exact .more n h hu

/-- An operand is derived as what it is, whichever operator it belongs to. -/
theorem derive_leaf {e : Expr} {P : List Token → Prop} {t : Text} (h : Phrase P t)
    (hP : ∀ ts, P ts → ∃ f, ts = [.operand f] ∧ f.unplaced = e.unplaced) (k : Symbol) :
    Phrase (Derive k.Operand e) t := by
  apply h.mono
  intro ts hts
  obtain ⟨f, rfl, hf⟩ := hP ts hts
  exact ⟨f, Primary.operand (.leaf f) k, hf⟩

mutual

/-- A rendering reads as an operand of every operator that asks for no more parentheses than there
are. -/
theorem Rendering.phrase {wrapped : Bool} {e : Expr} {t : Text} :
    Rendering wrapped e t → ∀ k : Symbol, (k.wraps e = true → wrapped = true) →
    Phrase (Derive k.Operand e) t
  | .tag n h, k, _ => by
    refine derive_leaf (phrase_tag h) ?_ k
    rintro ts ⟨m, rfl⟩
    exact ⟨_, rfl, rfl⟩
  | .comparison n op ht hv hg hne hg' hne', k, _ => by
    refine derive_leaf (phrase_comparison ht hv op hg hne hg' hne') ?_ k
    rintro ts ⟨m, rfl⟩
    exact ⟨_, rfl, rfl⟩
  | .bookmark n hne h _, k, _ => by
    refine derive_leaf (phrase_bookmark hne h) ?_ k
    rintro ts ⟨m, rfl⟩
    exact ⟨_, rfl, rfl⟩
  | .not n hs hg hne h hw, k, _ => by
    apply ((h.phrase .not hw).negated hs hg hne).mono
    rintro us ⟨m, ts, rfl, f, hf, heq⟩
    exact ⟨.not m f, Unary.operand (.not m hf) k, by simp [unplaced, heq]⟩
  | .and n h hlen, k, hk => by
    apply (h.phrase (.inl rfl)).mono
    intro ts hts
    obtain ⟨e, f, fs, hfs, heq⟩ := hts.eq_cons_cons hlen
    have hand : Conjunction ts (.and e.start (e :: f :: fs)) := .chain hfs
    refine ⟨.and e.start (e :: f :: fs), ?_, by simp only [unplaced, heq]⟩
    cases k with
    | not | and => exact absurd (hk rfl) (by decide)
    | or => exact hand
    | opening | closing => exact .of_conjunction hand
  | .or n h hlen, k, hk => by
    apply (h.phrase (.inr rfl)).mono
    intro ts hts
    obtain ⟨e, f, fs, hfs, heq⟩ := hts.eq_cons_cons hlen
    have hor : Disjunction ts (.or e.start (e :: f :: fs)) := .chain hfs
    refine ⟨.or e.start (e :: f :: fs), ?_, by simp only [unplaced, heq]⟩
    cases k with
    | not | and | or => exact absurd (hk rfl) (by decide)
    | opening | closing => exact hor
  | .wrap hg hg' h, k, _ => by
    apply ((h.phrase .opening (by simp [Symbol.wraps])).group hg hg').mono
    rintro us ⟨m, ts, n, rfl, f, hf, heq⟩
    exact ⟨f, Primary.operand (.group m n hf) k, heq⟩

theorem Chain.phrase {k : Symbol} {es : List Expr} {t : Text} :
    Chain k es t → k = .and ∨ k = .or → Phrase (DeriveAll k.Operands es) t
  | .one h hw, hk => by
    apply (h.phrase k hw).mono
    rintro ts ⟨f, hf, heq⟩
    exact ⟨[f], Symbol.operands_one hk hf, by simp [unplacedAll, heq]⟩
  | .more h hs hg hne hg' hne' hu hw, hk => by
    apply ((h.phrase hk).joined (hu.phrase k hw) hk hs hg hne hg' hne').mono
    rintro vs ⟨ts, n, us, rfl, ⟨fs, hfs, heqs⟩, f, hf, heq⟩
    exact ⟨fs ++ [f], Symbol.operands_more hk n hfs hf, by simp [unplacedAll_append, unplacedAll,
      heqs, heq]⟩

end

/-! ## Tabs -/

theorem spelling_no_tab {k : Symbol} {s : Text} (hs : s ∈ k.spellings) : .char '\t' ∉ s := by
  cases k <;> simp only [Symbol.spellings, List.mem_cons, List.not_mem_nil, or_false] at hs
  all_goals
    rcases hs with rfl | rfl | rfl <;> decide

mutual

theorem Rendering.expandTabsFrom {wrapped : Bool} {e : Expr} {t : Text} :
    Rendering wrapped e t → ∀ column, Rendering wrapped e (expandTabsFrom column t)
  | .tag n h, column => by
    rw [expandTabsFrom_eq_self _ h.noTab]
    exact .tag n h
  | @Rendering.comparison t g g' v n op ht hv hg hne hg' hne', column => by
    have hop : .char '\t' ∉ op.symbol := by cases op <;> decide
    obtain ⟨c₁, h₁⟩ := expandTabsFrom_plain_append ht.noTab (g ++ (op.symbol ++ (g' ++ v))) column
    obtain ⟨c₂, h₂⟩ := expandTabsFrom_append g (op.symbol ++ (g' ++ v)) c₁
    obtain ⟨c₃, h₃⟩ := expandTabsFrom_plain_append hop (g' ++ v) c₂
    obtain ⟨c₄, h₄⟩ := expandTabsFrom_append g' v c₃
    rw [h₁, h₂, h₃, h₄, expandTabsFrom_eq_self v hv.noTab]
    exact .comparison n op ht hv (isGap_expandTabsFrom hg _) (expandTabsFrom_ne_nil hne _)
      (isGap_expandTabsFrom hg' _)
      (expandTabsFrom_ne_nil hne' _)
  | .bookmark n hne h ht, column => by
    rw [expandTabsFrom_eq_self _ (by simp [ht])]
    exact .bookmark n hne h ht
  | @Rendering.not _ _ s g t n hs hg hne h hw, column => by
    obtain ⟨c₁, h₁⟩ := expandTabsFrom_plain_append (spelling_no_tab hs) (g ++ t) column
    obtain ⟨c₂, h₂⟩ := expandTabsFrom_append g t c₁
    rw [h₁, h₂]
    exact .not n hs (isGap_expandTabsFrom hg _) (expandTabsFrom_ne_nil hne _)
      (h.expandTabsFrom c₂) hw
  | .and n h hlen, column => .and n (h.expandTabsFrom column) hlen
  | .or n h hlen, column => .or n (h.expandTabsFrom column) hlen
  | @Rendering.wrap _ _ g g' t hg hg' h, column => by
    obtain ⟨c₁, h₁⟩ := expandTabsFrom_plain_append (t :=
      [.char '(']) (by decide) (g ++ (t ++ (g' ++ [.char ')']))) column
    obtain ⟨c₂, h₂⟩ := expandTabsFrom_append g (t ++ (g' ++ [.char ')'])) c₁
    obtain ⟨c₃, h₃⟩ := expandTabsFrom_append t (g' ++ [.char ')']) c₂
    obtain ⟨c₄, h₄⟩ := expandTabsFrom_append g' [.char ')'] c₃
    rw [List.singleton_append] at h₁
    rw [h₁, h₂, h₃, h₄, expandTabsFrom_eq_self [.char ')'] (by decide)]
    exact .wrap (isGap_expandTabsFrom hg _) (isGap_expandTabsFrom hg' _) (h.expandTabsFrom c₂)

theorem Chain.expandTabsFrom {k : Symbol} {es : List Expr} {t : Text} :
    Chain k es t → ∀ column, Chain k es (expandTabsFrom column t)
  | .one h hw, column => .one (h.expandTabsFrom column) hw
  | @Chain.more _ _ _ _ s g g' t u h hs hg hne hg' hne' hu hw, column => by
    obtain ⟨c₁, h₁⟩ := expandTabsFrom_append t (g ++ (s ++ (g' ++ u))) column
    obtain ⟨c₂, h₂⟩ := expandTabsFrom_append g (s ++ (g' ++ u)) c₁
    obtain ⟨c₃, h₃⟩ := expandTabsFrom_plain_append (spelling_no_tab hs) (g' ++ u) c₂
    obtain ⟨c₄, h₄⟩ := expandTabsFrom_append g' u c₃
    rw [h₁, h₂, h₃, h₄]
    exact .more (h.expandTabsFrom column) hs (isGap_expandTabsFrom hg _)
      (expandTabsFrom_ne_nil hne _)
      (isGap_expandTabsFrom hg' _) (expandTabsFrom_ne_nil hne' _) (hu.expandTabsFrom c₄) hw

end

/-! ## Reading -/

theorem ofTerm_eq_ok_iff {term : Text} {e : Expr} :
    Expr.ofTerm term = .ok e ↔ ∃ ts, tokens (expandTabs term) = .ok ts ∧ Disjunction ts e := by
  rw [Expr.ofTerm]
  cases htokens : tokens (expandTabs term) with
  | error n => simp
  | ok ts =>
    simp only [Except.ok.injEq, exists_eq_left', ← @assemble_eq_ok_iff term.length]
    cases assemble term.length ts with
    | error p => simp
    | ok f => simp

/-- A term is read as an expression if it is one, but for the gaps at its two ends, after its tabs
have been expanded. -/
theorem ofTerm_of_phrase {term lead t trail : Text} {e : Expr}
    (hterm : expandTabs term = lead ++ (t ++ trail))
    (hl : IsGap lead) (ht : IsGap trail) (h : Phrase (Derive Disjunction e) t) :
    ∃ f, Expr.ofTerm term = .ok f ∧ f.unplaced = e.unplaced := by
  obtain ⟨ts, ⟨f, hf, heq⟩, htokens⟩ := h.tokens hl ht
  exact ⟨f, ofTerm_eq_ok_iff.mpr ⟨ts, hterm ▸ htokens, hf⟩, heq⟩

/-- Whatever way an expression is written, reading gives it back. -/
theorem ofTerm_rendering {wrapped : Bool} {e : Expr} {lead t trail : Text}
    (h : Rendering wrapped e t) (hl : IsGap lead)
    (ht : IsGap trail) : ∃ f, Expr.ofTerm (lead ++ (t ++ trail)) = .ok f ∧
    f.unplaced = e.unplaced := by
  obtain ⟨c₁, h₁⟩ := expandTabsFrom_append lead (t ++ trail) 0
  obtain ⟨c₂, h₂⟩ := expandTabsFrom_append t trail c₁
  have hphrase := (h.expandTabsFrom c₁).phrase .opening (by simp [Symbol.wraps])
  exact ofTerm_of_phrase (by rw [expandTabs, h₁, h₂]) (isGap_expandTabsFrom hl 0)
    (isGap_expandTabsFrom ht c₂) hphrase

theorem ofTerm_rendering_negated_group :
    ∃ f, Expr.ofTerm (Text.ofString "\nx(a|b)  &&\tnot ( (p\x7b2\x7d <= [)] || \x7b m \x7d)\t) ") =
      .ok f ∧
      f.unplaced = .and 0 [.tag 0 (Text.ofString "x(a|b)"), .not 0
        (.or 0 [.comparison 0 (Text.ofString "p\x7b2\x7d") .lessEqual (Text.ofString "[)]"),
          .bookmark 0 [.char 'm']])] := by
  have htag : IsTag (Text.ofString "x(a|b)") :=
    ⟨⟨by decide, by decide, by decide⟩, by simp [Text.ofString],
    by simp [keywords, startsWith, Text.ofString]⟩
  have hname : IsTag (Text.ofString "p\x7b2\x7d") :=
    ⟨⟨by decide, by decide, by decide⟩, by simp [Text.ofString],
    by simp [keywords, startsWith, Text.ofString]⟩
  have hvalue : Verbatim (Text.ofString "[)]") := ⟨by decide, by decide, by decide⟩
  have hgap : IsGap [.char ' '] := by decide
  have hcomparison : Rendering false
    (.comparison 0 (Text.ofString "p\x7b2\x7d") .lessEqual (Text.ofString "[)]"))
      (Text.ofString "p\x7b2\x7d" ++
        ([.char ' '] ++ ([.char '<', .char '='] ++ ([.char ' '] ++ Text.ofString "[)]")))) :=
    .comparison 0 .lessEqual hname hvalue hgap (by decide) hgap (by decide)
  have hbookmark : Rendering false (.bookmark 0 (strip (Text.ofString " m ")))
      (.char '\x7b' :: (Text.ofString " m " ++ [.char '\x7d'])) :=
    .bookmark 0 (by decide) (by simp [Text.ofString]) (by decide)
  have hor : Rendering false _ _ :=
    .or 0 (.more (s :=
      [.char '|', .char '|']) (.one hcomparison (by decide)) (by decide) hgap (by decide) hgap
        (by decide) hbookmark
      (by decide)) (by decide)
  have hgroup : Rendering true _ (.char '(' :: ([] ++ (_ ++ ([] ++ [.char ')'])))) :=
    .wrap (by decide) (by decide) hor
  have houter : Rendering true _
      (.char '(' :: ([.char ' '] ++ (_ ++ ([.char '\t'] ++ [.char ')'])))) :=
      .wrap hgap (by decide) hgroup
  have hnot : Rendering false _ _ :=
    .not 0 (s := [.char 'n', .char 'o', .char 't']) (by decide) hgap (by decide) houter (by decide)
  have hand : Rendering false _ (Text.ofString "x(a|b)" ++
      (Text.ofString "  " ++ ([.char '&', .char '&'] ++ ([.char '\t'] ++ _)))) :=
    .and 0 (.more (.one (.tag 0 htag) (by decide)) (by decide) (by decide) (by decide) (by decide)
      (by decide) hnot
      (by decide)) (by decide)
  exact @ofTerm_rendering _ _ [.char '\n'] _ [.char ' '] hand (by decide) hgap

end Term

end FileTags

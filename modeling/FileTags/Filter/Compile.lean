import FileTags.Filter.Basic
import FileTags.Filter.Tree
import FileTags.SyntaxError
import FileTags.Volume.Fault

/-!
# Compiling search terms

A term is read, its bookmarks are replaced by the filters of the terms they stand for, and its tree
is folded into a filter with one stack of trees to visit and another of finished filters. A bookmark
counts as one operand, so it has parentheses around it in effect. While a bookmark is being expanded
its name may not come up again.
-/

set_option autoImplicit false

namespace FileTags

inductive BookmarkFault
  | noResolver (name : Text)
  | cyclic (name : Text)
  | unknown (name : Text)
  | unreadable (path : Text) (e : VolumeFault)
  | unwritable (path : Text) (e : VolumeFault)
  /-- A link whose target is no text. -/
  | notText (path : Text)
  deriving DecidableEq, Repr

inductive Mismatch
  | notANode (t : Text)
  | negationOperands (count : Nat)
  | connectiveOperands (rule : Rule) (count : Nat)
  | comparisonParts (count : Nat)
  | comparator (t : Text)
  | rule (r : Rule)
  deriving DecidableEq, Repr

inductive CompileError
  | badSyntax (e : SyntaxError)
  | badPattern (fragment : Text) (e : PatternFault)
  | badInteger (tag op value : Text)
  | tooManyDigits (e : Text.TooManyDigits)
  | bookmark (b : BookmarkFault)
  /-- A path or a term that cannot be given to the system. -/
  | unfit (e : UnfitText)
  | mismatch (m : Mismatch)
  /-- A leaf of a tree that lacks its text. -/
  | missingPart
  /-- A leaf of a tree with something else in place of its text. -/
  | notText (kind : Text)
  /-- A bound of an ordering that is no text. -/
  | boundNotText (kind : Text)
  /-- Bookmarks in bookmarks beyond the depth limit. -/
  | tooDeep
  deriving DecidableEq, Repr

abbrev Resolver := Text → Except CompileError Text

def Resolver.ofTable (terms : List (Text × Text)) : Resolver := fun name =>
  match terms.lookup name with
  | some term => .ok term
  | none => .error (.bookmark (.unknown name))

namespace Filter

def patternOf (t : Text) : Except CompileError Pattern :=
  match Pattern.ofSource t with
  | .ok p => .ok p
  | .error e => .error (.badPattern t e)

def ofPart : Tree → Except CompileError Text
  | .text t => .ok t
  | t => .error (.notText t.kind)

def ofBound (tag op : Text) : Tree → Except CompileError Int
  | .text t =>
    match Text.readInteger t with
    | .error e => .error (.tooManyDigits e)
    | .ok none => .error (.badInteger tag op t)
    | .ok (some n) => .ok n
  | t => .error (.boundNotText t.kind)

def ofComparison : List Tree → Except CompileError Filter
  | [tag, op, value] => do
    let tagText ← ofPart tag
    let tagPattern ← patternOf tagText
    let symbol := match op with
      | .text t => t
      | _ => []
    let order (test : OrderTest) : Except CompileError Filter := do
      return .leaf (.valueOrder test tagPattern (← ofBound tagText symbol value))
    match Comparator.ofSymbol? symbol with
    | some .equal => return .leaf (.valueEquals tagPattern (← patternOf (← ofPart value)))
    | some .notEqual => return valueDiffers tagPattern (← patternOf (← ofPart value))
    | some .less => order .less
    | some .lessEqual => order .lessEqual
    | some .greater => order .greater
    | some .greaterEqual => order .greaterEqual
    | none => .error (.mismatch (.comparator op.written))
  | parts => .error (.mismatch (.comparisonParts parts.length))

def ofLeaf (bookmark : Tree → Except CompileError Filter) (rule : Rule) (children : List Tree) :
    Except CompileError Filter :=
  match rule, children with
  | .tag, [] => .error .missingPart
  | .tag, t :: _ => do return .leaf (.tagExists (← patternOf (← ofPart t)))
  | .comparison, parts => ofComparison parts
  | .bookmark, [] => .error .missingPart
  | .bookmark, name :: _ => bookmark name
  | rule, _ => .error (.mismatch (.rule rule))

inductive Connective
  | not
  | and
  | or
  deriving DecidableEq, Repr

def Connective.ofRule? : Rule → Option Connective
  | .not => some .not
  | .and => some .and
  | .or => some .or
  | _ => none

def Connective.check (c : Connective) (count : Nat) : Except CompileError Unit :=
  match c with
  | .not => if count = 1 then .ok () else .error (.mismatch (.negationOperands count))
  | .and => if 2 ≤ count then .ok () else .error (.mismatch (.connectiveOperands .and count))
  | .or => if 2 ≤ count then .ok () else .error (.mismatch (.connectiveOperands .or count))

def Connective.combine (c : Connective) : List Filter → Except CompileError Filter
  | [] => .error .missingPart
  | f :: fs =>
    match c with
    | .not => .ok (.not f)
    | .and => .ok (fs.foldl .and f)
    | .or => .ok (fs.foldl .or f)

/-- What the fold has still to do: visit a tree, or join the filters finished last. -/
inductive Work
  | visit (t : Tree)
  | join (c : Connective) (count : Nat)

def Work.weight : Work → Nat
  | .visit t => 2 * t.size
  | .join _ _ => 1

def weight : List Work → Nat
  | [] => 0
  | w :: todo => w.weight + weight todo

theorem weight_append (a b : List Work) : weight (a ++ b) = weight a + weight b := by
  induction a with
  | nil => simp [weight]
  | cons w a ih => simp [weight, ih, Nat.add_assoc]

def visits (ts : List Tree) : List Work := ts.map .visit

theorem weight_visits (ts : List Tree) : weight (visits ts) = 2 * Tree.sizeAll ts := by
  induction ts with
  | nil => rfl
  | cons t ts ih =>
    have h : weight (visits (t :: ts)) = 2 * t.size + weight (visits ts) := rfl
    rw [h, ih, Tree.sizeAll]
    omega

/-- Works the list of things to do off; finished filters stand latest first. -/
def fold (bookmark : Tree → Except CompileError Filter) (todo : List Work) (done : List Filter) :
    Except CompileError Filter :=
  match todo with
  | [] => (done.getLast?.map .ok).getD (.error .missingPart)
  | .join c count :: todo =>
    match c.combine (done.take count).reverse with
    | .ok f => fold bookmark todo (f :: done.drop count)
    | .error e => .error e
  | .visit (.node rule children _) :: todo =>
    match Connective.ofRule? rule with
    | none =>
      match ofLeaf bookmark rule children with
      | .ok f => fold bookmark todo (f :: done)
      | .error e => .error e
    | some c =>
      match c.check children.length with
      | .ok () => fold bookmark (visits children ++ .join c children.length :: todo) done
      | .error e => .error e
  | .visit t :: _ => .error (.mismatch (.notANode t.written))
termination_by weight todo
decreasing_by
  · simp only [weight, Work.weight]
    omega
  · simp only [weight, Work.weight, Tree.size]
    omega
  · rw [weight_append, weight_visits]
    simp only [weight, Work.weight, Tree.size]
    omega

/-- How deep bookmarks may stand inside bookmarks. The number stands for the room on the stack,
which really depends on where a term is compiled from, so what is said of compiled terms should hold
of any depth. -/
def depthLimit : Nat := 240

/-- The filter of a bookmark, inside those that are being expanded; `next` compiles the term it
stands for. -/
def ofBookmark (resolve : Option Resolver) (next : List Text → Text → Except CompileError Filter)
    (expanding : List Text) (name : Tree) : Except CompileError Filter :=
  match resolve with
  | none => .error (.bookmark (.noResolver name.plain))
  | some lookUp =>
    if expanding.contains name.plain then .error (.bookmark (.cyclic name.plain))
    else
      match lookUp name.plain with
      | .ok term => next (name.plain :: expanding) term
      | .error e => .error e

def ofTermWith (resolve : Option Resolver) (next : List Text → Text → Except CompileError Filter)
    (expanding : List Text) (term : Text) : Except CompileError Filter :=
  match Expr.ofTerm term with
  | .ok e => fold (ofBookmark resolve next expanding) [.visit e.toTree] []
  | .error e => .error (.badSyntax e)

def ofTermAt (resolve : Option Resolver) : Nat → List Text → Text → Except CompileError Filter
  | 0 => ofTermWith resolve fun _ _ => .error .tooDeep
  | depth + 1 => ofTermWith resolve (ofTermAt resolve depth)

def ofTree (resolve : Option Resolver) (t : Tree) : Except CompileError Filter :=
  fold (ofBookmark resolve (ofTermAt resolve depthLimit) []) [.visit t] []

def tooDeepAt (term : Text) : SyntaxError := ⟨term, .nestsTooDeeply, 0, 1, 1⟩

/-- Compiles a term. Bookmarks that nest too deeply are reported at the start of the term itself. -/
def ofTerm (resolve : Option Resolver) (term : Text) : Except CompileError Filter :=
  match ofTermAt resolve depthLimit [] term with
  | .error .tooDeep => .error (.badSyntax (tooDeepAt term))
  | r => r

end Filter

end FileTags

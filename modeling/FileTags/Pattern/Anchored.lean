import FileTags.Pattern.Matching

/-!
# Anchored patterns

Patterns of tags and values match whole texts only. Their source is kept with the anchors written
out; text that already carries both is taken as it is.
-/

set_option autoImplicit false

namespace FileTags

/-- Pattern source between a line start and a line end, unless it has both. -/
def anchored (source : Text) : Text :=
  if source.head? = some (.char '^') ∧ source.getLast? = some (.char '$') then source
  else .char '^' :: source ++ [.char '$']

theorem anchored_anchored (source : Text) : anchored (anchored source) = anchored source := by
  by_cases h : source.head? = some (.char '^') ∧ source.getLast? = some (.char '$')
  · simp [anchored, h]
  · simp [anchored, h, List.getLast?_cons, List.getLast?_append]

theorem head?_anchored (x : Text) : (anchored x).head? = some (.char '^') := by
  by_cases h : x.head? = some (.char '^') ∧ x.getLast? = some (.char '$')
  · rw [anchored, if_pos h, h.1]
  · rw [anchored, if_neg h]
    rfl

structure Pattern where
  source : Text
  program : Program
  reads : Program.ofText source = .ok program

namespace Pattern

def ofSource (text : Text) : Except PatternFault Pattern :=
  match h : Program.ofText (anchored text) with
  | .ok program => .ok ⟨anchored text, program, h⟩
  | .error e => .error e

theorem ext_source {p q : Pattern} (h : p.source = q.source) : p = q := by
  obtain ⟨s, a, ha⟩ := p
  obtain ⟨t, b, hb⟩ := q
  subst h
  have hab : a = b := by simpa [ha] using hb
  subst hab
  rfl

instance : DecidableEq Pattern := fun p q =>
  decidable_of_iff (p.source = q.source) ⟨ext_source, fun h => h ▸ rfl⟩

def fullMatch? (p : Pattern) (subject : Text) : Option Match := p.program.fullMatch? subject

def accepts (p : Pattern) (subject : Text) : Bool := (p.fullMatch? subject).isSome

end Pattern

end FileTags

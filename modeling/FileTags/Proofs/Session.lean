import FileTags.Session

/-!
# Running actions

What an action comes to and the session it leaves, step by step: a failed step ends the action and
keeps what has been done by then.
-/

set_option autoImplicit false

namespace FileTags

namespace Action

variable {ε ε' α β : Type} {s : Session}

@[simp] theorem runIn_pure (x : α) : (pure x : Action ε α).runIn s = (.ok x, s) := rfl

@[simp] theorem runIn_throw (e : ε) : (throw e : Action ε α).runIn s = (.error e, s) := rfl

@[simp] theorem runIn_get : (get : Action ε Session).runIn s = (.ok s, s) := rfl

theorem runIn_bind (a : Action ε α) (f : α → Action ε β) :
    (a >>= f).runIn s =
      match a.runIn s with
      | (.ok x, s) => (f x).runIn s
      | (.error e, s) => (.error e, s) := by
  change ((ExceptT.run (a >>= f)).run s) = _
  simp only [ExceptT.run_bind, StateT.run_bind, runIn]
  rcases h : (StateT.run (ExceptT.run a) s) with ⟨r, s'⟩
  cases r <;> rfl

theorem runIn_map (f : α → β) (a : Action ε α) :
    (f <$> a).runIn s = ((a.runIn s).1.map f, (a.runIn s).2) := by
  rw [map_eq_pure_bind, runIn_bind]
  rcases h : a.runIn s with ⟨r, s'⟩
  cases r <;> rfl

@[simp] theorem runIn_note (severity : Severity) (text : Text) :
    (note severity text : Action ε Unit).runIn s =
    (.ok (), { s with notes := s.notes ++ [⟨severity, text⟩] }) := rfl

@[simp] theorem runIn_noteAll (notes : List Note) :
    (noteAll notes : Action ε Unit).runIn s = (.ok (), { s with notes := s.notes ++ notes }) := rfl

@[simp] theorem runIn_ofExcept (r : Except ε α) : (ofExcept r : Action ε α).runIn s = (r, s) := by
  cases r <;> rfl

@[simp] theorem runIn_ask (question : Volume → Except ε α) :
    (ask question).runIn s = (question s.volume, s) := by
  change (ofExcept (question s.volume) : Action ε α).runIn s = _
  exact runIn_ofExcept _

theorem runIn_change (step : Volume → Except ε Volume) :
    (change step).runIn s =
      match step s.volume with
      | .ok v => (.ok (), { s with volume := v })
      | .error e => (.error e, s) := by
  rw [change, runIn_bind, runIn_ask]
  cases step s.volume <;> rfl

theorem runIn_advance (step : Volume → Except ε Unit × Volume) :
    (advance step).runIn s = ((step s.volume).1, { s with volume := (step s.volume).2 }) := by
  change (ofExcept (step s.volume).1 : Action ε Unit).runIn { s with volume :=
    (step s.volume).2 } = _
  exact runIn_ofExcept _

theorem runIn_adapt (f : ε → ε') (a : Action ε α) :
    runIn (ExceptT.adapt f a) s = ((a.runIn s).1.mapError f, (a.runIn s).2) := by
  simp only [runIn, ExceptT.run_adapt, StateT.run_map]
  rfl

end Action

end FileTags

import FileTags.Volume.Basic

/-!
# Sessions

Work on a volume is done in a session, which keeps what has been remarked on and what has been
printed. An action that fails leaves the session as it was when it failed, not as it was before.
-/

set_option autoImplicit false

namespace FileTags

inductive Severity
  | debug
  | info
  | warning
  | error
  deriving DecidableEq, Repr

namespace Severity

def name : Severity → String
  | .debug => "DEBUG"
  | .info => "INFO"
  | .warning => "WARNING"
  | .error => "ERROR"

def rank : Severity → Nat
  | .debug => 0
  | .info => 1
  | .warning => 2
  | .error => 3

end Severity

structure Note where
  severity : Severity
  text : Text
  deriving DecidableEq, Repr

def Note.line (n : Note) : Text := Text.ofString n.severity.name ++ .char ':' :: .char ' ' :: n.text

structure Session where
  volume : Volume
  notes : List Note
  /-- The lines printed. -/
  output : List Text

def Session.start (v : Volume) : Session := ⟨v, [], []⟩

abbrev Action (ε : Type) := ExceptT ε (StateM Session)

namespace Action

variable {ε α : Type}

def note (severity : Severity) (text : Text) : Action ε Unit :=
  modify fun s => { s with notes := s.notes ++ [⟨severity, text⟩] }

def noteAll (notes : List Note) : Action ε Unit :=
  modify fun s => { s with notes := s.notes ++ notes }

def print (line : Text) : Action ε Unit := modify fun s => { s with output := s.output ++ [line] }

def ask (question : Volume → Except ε α) : Action ε α := do ofExcept (question (← get).volume)

def change (step : Volume → Except ε Volume) : Action ε Unit := do
  let v ← ask step
  modify fun s => { s with volume := v }

def advance (step : Volume → Except ε Unit × Volume) : Action ε Unit := do
  let (outcome, v) := step (← get).volume
  modify fun s => { s with volume := v }
  ofExcept outcome

def runIn (a : Action ε α) (s : Session) : Except ε α × Session := a.run.run s

end Action

end FileTags

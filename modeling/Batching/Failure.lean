namespace Batching

/-! What can go wrong, as causes; `message` holds the wording of each. -/

inductive RunState where
  | stopped
  | starting
  | running
  | stopping
deriving DecidableEq, Repr, Inhabited

def RunState.text : RunState → String
  | .stopped => "stopped"
  | .starting => "starting"
  | .running => "running"
  | .stopping => "stopping"

def RunState.ofText? : String → Option RunState
  | "stopped" => some .stopped
  | "starting" => some .starting
  | "running" => some .running
  | "stopping" => some .stopping
  | _ => none

/-- A failure that a call of the accumulator or of one of its collaborators returns. -/
inductive Failure where
  | startup (text : String)
  | shutdown (text : String)
  | receive (text : String)
  | process (text : String)
  | invalidState (action : String) (state : RunState)
  | panic (text : String)
deriving DecidableEq, Repr

def Failure.message : Failure → String
  | .startup text => "startup error: " ++ text
  | .shutdown text => "shutdown error: " ++ text
  | .receive text => "receive error: " ++ text
  | .process text => "process error: " ++ text
  | .invalidState action state =>
      "invalid state: cannot " ++ action ++ " while " ++ state.text
  | .panic text => "panicked: " ++ text

/-- What a panic carries: a text, or a value that is none. -/
inductive PanicPayload where
  | text (words : String)
  | other
deriving DecidableEq, Repr

def PanicPayload.message : PanicPayload → String
  | .text words => words
  | .other => "non-string panic payload"

/-- How a call of a collaborator ends. -/
inductive Outcome (α : Type) where
  | returned (value : α)
  | failed (failure : Failure)
  | panicked (payload : PanicPayload)
deriving Repr

/-- A panic inside a cycle is contained: it becomes a failure like any other. -/
def Outcome.contain {α : Type} : Outcome α → Except Failure α
  | .returned value => .ok value
  | .failed failure => .error failure
  | .panicked payload => .error (.panic payload.message)

inductive Phase where
  | fill
  | drain
deriving DecidableEq, Repr

def Phase.text : Phase → String
  | .fill => "fill"
  | .drain => "drain"

/-- A cycle that was abandoned: where, why, and how many messages went with it. -/
structure CycleFailure where
  cycle : Nat
  phase : Phase
  discarded : Nat
  cause : Failure
deriving DecidableEq, Repr

def CycleFailure.message (failure : CycleFailure) : String :=
  "batch cycle " ++ toString failure.cycle ++ " failed during " ++ failure.phase.text ++
    " (" ++ toString failure.discarded ++ " discarded): " ++ failure.cause.message

end Batching

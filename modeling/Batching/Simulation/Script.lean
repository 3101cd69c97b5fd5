import Batching.Crew
import Batching.Delivery

namespace Batching.Simulation

/-! Collaborators that follow a script. -/

/-- One call of a start, a stop or an acquisition. -/
structure Life where
  delay : Nat := 0
  failure : Option Failure := none
deriving Repr

def Life.result (life : Life) : Except Failure Unit :=
  match life.failure with
  | some failure => .error failure
  | none => .ok ()

/-- The calls made so far and the script for those to come; past its end a call
succeeds at once. -/
structure Lives where
  calls : Nat := 0
  ahead : List Life := []
deriving Repr

def Lives.call (lives : Lives) : Life × Lives :=
  (lives.ahead.headD {}, { calls := lives.calls + 1, ahead := lives.ahead.drop 1 })

/-- One call of a source: how long it takes, whatever its timeout, and how it ends. -/
structure Entry (M : Type) where
  delay : Nat := 0
  outcome : Outcome (Option M)
deriving Repr

inductive Idle where
  | fails (delay : Nat) (failure : Failure)
  | waits (atLeast : Nat)
deriving Repr

def Idle.entry {M : Type} (timeout : Nat) : Idle → Entry M
  | .fails delay failure => { delay, outcome := .failed failure }
  | .waits atLeast => { delay := max timeout atLeast, outcome := .returned none }

structure ScriptedSource (M : Type) where
  script : List (Entry M) := []
  idle : Idle := .waits 0
  /-- A bare source has no start and no stop of its own. -/
  bare : Bool := false
  starts : Lives := {}
  stops : Lives := {}
deriving Repr

namespace ScriptedSource

variable {M : Type}

def receive (source : ScriptedSource M) (timeout : Nat) : Entry M × ScriptedSource M :=
  match source.script with
  | [] => (source.idle.entry timeout, source)
  | entry :: rest => (entry, { source with script := rest })

def push (source : ScriptedSource M) (entries : List (Entry M)) : ScriptedSource M :=
  { source with script := source.script ++ entries }

def start (source : ScriptedSource M) : Life × ScriptedSource M :=
  if source.bare then ({}, source)
  else
    let (life, starts) := source.starts.call
    (life, { source with starts })

def stop (source : ScriptedSource M) : Life × ScriptedSource M :=
  if source.bare then ({}, source)
  else
    let (life, stops) := source.stops.call
    (life, { source with stops })

end ScriptedSource

/-- How one call of a base sink ends.  Without a delay of its own it takes the sink's. -/
structure Reply where
  delay : Option Nat := none
  outcome : Outcome Unit := .returned ()
deriving Repr

inductive ReplyKind where
  | ok
  | err
  | panic
deriving DecidableEq, Repr

def ReplyKind.ofOutcome : Outcome Unit → ReplyKind
  | .returned _ => .ok
  | .failed _ => .err
  | .panicked _ => .panic

def Reply.kind (reply : Reply) : ReplyKind :=
  ReplyKind.ofOutcome reply.outcome

/-- A base sink.  A message with a rule takes the replies of its rule in turn, and
success once they are used up. -/
structure ScriptedBase (M : Type) where
  name : String
  delay : Nat := 0
  rules : List (M × List Reply) := []
  otherwise : M → Reply := fun _ => {}
  /-- Whether the base has a start and a stop of its own. -/
  counted : Bool := true
  starts : Lives := {}
  stops : Lives := {}

namespace ScriptedBase

variable {M : Type}

/-- The next reply of the message's rule, if it has one, and the rules after it. -/
def takeRule [BEq M] (message : M) :
    List (M × List Reply) → Option (Reply × List (M × List Reply))
  | [] => none
  | (subject, replies) :: rest =>
      if subject == message then
        some (replies.headD {}, (subject, replies.drop 1) :: rest)
      else (takeRule message rest).map fun (reply, others) => (reply, (subject, replies) :: others)

/-- One call of the base sink. -/
def deliver [BEq M] (base : ScriptedBase M) (message : M) : Reply × ScriptedBase M :=
  match takeRule message base.rules with
  | some (reply, rules) => (reply, { base with rules })
  | none => (base.otherwise message, base)

def delayOf (base : ScriptedBase M) (reply : Reply) : Nat :=
  reply.delay.getD base.delay

def start (base : ScriptedBase M) : Life × ScriptedBase M :=
  if base.counted then
    let (life, starts) := base.starts.call
    (life, { base with starts })
  else ({}, base)

def stop (base : ScriptedBase M) : Life × ScriptedBase M :=
  if base.counted then
    let (life, stops) := base.stops.call
    (life, { base with stops })
  else ({}, base)

end ScriptedBase

structure ScriptedSink (M : Type) extends ScriptedBase M where
  layers : List Layer := []

/-- What each instrumented layer has counted, from the inside out. -/
def ScriptedSink.counts {M : Type} (sink : ScriptedSink M) : List (Nat × Nat) :=
  sink.layers.filterMap Layer.counts?

end Batching.Simulation

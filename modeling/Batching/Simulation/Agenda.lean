namespace Batching.Simulation

/-! What is to happen, and when, on a clock that jumps.

Tasks that are ready run in the order in which they became ready.  When none of them
is left a round is over: the tasks that gave way during it are ready again, the latest
first, and before them goes what the owner, who drives the run, has been waiting for.
Only when nothing at all is left does time pass, at once to the next timer, and every
timer due then becomes ready, those of the owner first and else in the order in which
they were set.
-/

structure Agenda (τ : Type) where
  now : Nat := 0
  ready : List τ := []
  owned : List τ := []
  resting : List τ := []
  timers : List (Nat × τ) := []
deriving Repr

namespace Agenda

variable {τ : Type}

def enqueue (agenda : Agenda τ) (task : τ) : Agenda τ :=
  { agenda with ready := agenda.ready ++ [task] }

def enqueueOwned (agenda : Agenda τ) (task : τ) : Agenda τ :=
  { agenda with owned := agenda.owned ++ [task] }

/-- The task gives way to all that are ready. -/
def rest (agenda : Agenda τ) (task : τ) : Agenda τ :=
  { agenda with resting := agenda.resting ++ [task] }

/-- Lets tasks go on at once, before those that are ready. -/
def goFirst (agenda : Agenda τ) (tasks : List τ) : Agenda τ :=
  { agenda with ready := tasks ++ agenda.ready }

/-- A timer is placed behind those that are due no later. -/
def place (due : Nat) (task : τ) : List (Nat × τ) → List (Nat × τ)
  | [] => [(due, task)]
  | timer :: later =>
      if timer.1 ≤ due then timer :: place due task later else (due, task) :: timer :: later

def setTimer (agenda : Agenda τ) (due : Nat) (task : τ) : Agenda τ :=
  { agenda with timers := place due task agenda.timers }

/-- Lets the task go on after a delay.  No delay is no wait. -/
def after (agenda : Agenda τ) (delay : Nat) (task : τ) : Agenda τ :=
  if delay = 0 then agenda.goFirst [task] else agenda.setTimer (agenda.now + delay) task

def cancel (agenda : Agenda τ) (meant : τ → Bool) : Agenda τ :=
  let stays := fun task => !meant task
  { agenda with
    ready := agenda.ready.filter stays
    owned := agenda.owned.filter stays
    resting := agenda.resting.filter stays
    timers := agenda.timers.filter fun timer => stays timer.2 }

def isReady (agenda : Agenda τ) (meant : τ → Bool) : Bool :=
  agenda.ready.any meant || agenda.owned.any meant || agenda.resting.any meant

def nextRound (agenda : Agenda τ) : Agenda τ :=
  { agenda with
    ready := agenda.ready ++ agenda.owned ++ agenda.resting.reverse
    owned := []
    resting := [] }

def take? (agenda : Agenda τ) : Option (τ × Agenda τ) :=
  let agenda := if agenda.ready.isEmpty then agenda.nextRound else agenda
  match agenda.ready with
  | [] => none
  | task :: others => some (task, { agenda with ready := others })

/-- Jumps to the next timer, unless that is later than the limit. -/
def jump? (agenda : Agenda τ) (isOwned : τ → Bool) (limit : Option Nat) :
    Option (Agenda τ) :=
  match agenda.timers with
  | [] => none
  | (time, _) :: _ =>
      if limit.all (time ≤ ·) then
        let (due, later) := agenda.timers.span fun timer => timer.1 ≤ time
        let (owned, others) := (due.map Prod.snd).partition isOwned
        some { agenda with
          now := max agenda.now time
          ready := agenda.ready ++ owned ++ others
          timers := later }
      else none

/-- Lets time pass up to the limit when nothing is left to happen before it. -/
def passTo (agenda : Agenda τ) (limit : Option Nat) : Agenda τ :=
  match limit with
  | none => agenda
  | some time => { agenda with now := max agenda.now time }

end Agenda

/-- A state that is run by an agenda of tasks. -/
structure Machine (σ τ : Type) where
  agenda : σ → Agenda τ
  setAgenda : σ → Agenda τ → σ
  /-- Whether the owner of the state waits for this task. -/
  isOwned : σ → τ → Bool
  perform : σ → τ → σ

/-- Runs a state until it is done or nothing is left to happen up to the limit.  One unit
of fuel is one task or one jump of the clock. -/
def Machine.run {σ τ : Type} (machine : Machine σ τ) (done : σ → Bool) (limit : Option Nat) :
    Nat → σ → σ
  | 0, state => state
  | fuel + 1, state =>
      if done state then state
      else
        let agenda := machine.agenda state
        match agenda.take? with
        | some (task, agenda) =>
            machine.run done limit fuel (machine.perform (machine.setAgenda state agenda) task)
        | none =>
            match agenda.jump? (machine.isOwned state) limit with
            | some agenda => machine.run done limit fuel (machine.setAgenda state agenda)
            | none => machine.setAgenda state (agenda.passTo limit)

end Batching.Simulation

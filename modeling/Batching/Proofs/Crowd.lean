import Mathlib.Data.List.Basic
import Batching.Simulation.World

namespace Batching.Simulation

/-! One cycle among others.

The runner that has the lock goes on from call to call of the source and the sink, and it looks
at nothing that the others do: they wait for the lock or have not run yet.  So each task of its
cycle does the same whoever else is there.  The cycle ends and gives the lock to the next in
line, since each of its tasks leaves less to do: the source's script is shorter, or the batch
is, or a delivery has fewer attempts left.
-/

variable {M : Type}

/-! ### What the runner that has the lock does -/

namespace World

variable {world : World M} {runner : Nat} {turn : Turn M} {member : Runner M}

def setCrew (world : World M) (crew : Crew M) : World M :=
  { world with outlet := { world.outlet with
      accumulator := { world.outlet.accumulator with crew } } }

def noteAll (world : World M) (notices : List Notice) : World M :=
  { world with journal := { world.journal with
      notices := notices.reverse ++ world.journal.notices } }

/-- Whoever has the lock now has not run since it had it. -/
def wake (world : World M) : World M :=
  world.accumulator.crew.lock.holder.toList.foldl (fun world id => world.enqueue (.resume id)) world

def stood (world : World M) (runner : Nat) (turn : Turn M) (standing : Standing M) : World M :=
  let crew := { world.accumulator.crew with pipeline := turn.pipeline }
  (world.setCrew (crew.stand runner standing)).noteAll turn.notices

def entering (world : World M) (runner : Nat) (stage : Stage M) : World M :=
  { world with outlet := world.outlet.enter runner stage }

/-- A stretch of a cycle has ended with a call of a collaborator. -/
def awaits [BEq M] (world : World M) (runner : Nat) (turn : Turn M) (await : Await M) : World M :=
  let stood := world.stood runner turn (.awaiting await)
  match await with
  | .receive _ _ _ timeout => stood.beginReceive runner timeout
  | .process _ _ _ _ message =>
      let delivery := Delivery.start stood.outlet.layers message
      (stood.entering runner (.delivering delivery)).beginDelivery runner message

/-- A stretch of a cycle has ended the cycle, and the lock is given up. -/
def ends (world : World M) (runner : Nat) (turn : Turn M)
    (result : Except CycleFailure CycleReport) : World M :=
  let crew := { world.accumulator.crew with
    pipeline := turn.pipeline
    lock := world.accumulator.crew.lock.release }
  let journal := { world.journal with
    runs := (runner, world.now, result) :: world.journal.runs }
  (setCrew { world with journal } (crew.stand runner .exited)).noteAll turn.notices

def turned [BEq M] (world : World M) (runner : Nat) (turn : Turn M) : World M :=
  match turn.progress with
  | .awaits await => world.awaits runner turn await
  | .ended result => (world.ends runner turn result).wake

/-- The runner has the lock, for a single cycle, and nobody is told when it is over. -/
structure Holds (world : World M) (runner : Nat) (member : Runner M) : Prop where
  there : world.accumulator.crew.runner? runner = some member
  single : member.repeats = false
  lock : world.accumulator.crew.lock.holder = some runner
  uncalled : world.accumulator.callers = []
  scripted : ∃ source, world.supply = .scripted source

theorem react_notes [BEq M] (world : World M) (notices : List Notice) (outlet : Outlet M) :
    (notices.map OutletEvent.noted).foldl react { world with outlet } =
      { world.noteAll notices with outlet } := by
  induction notices generalizing world with
  | nil => rfl
  | cons notice rest ih =>
      refine (ih (world.note notice)).trans ?_
      simp [noteAll, note]

theorem followAll_logged (outlet : Outlet M) (notices : List Notice) (events : List (Event M)) :
    outlet.followAll (notices.map Event.logged ++ events) =
      ((outlet.followAll events).1,
        notices.map (fun notice => .seen (.logged notice)) ++ (outlet.followAll events).2) := by
  induction notices with
  | nil => rfl
  | cons notice rest ih =>
      simp only [List.map_cons, List.cons_append, Outlet.followAll, Outlet.follow, ih]
      rfl

theorem react_logged [BEq M] (world : World M) (notices : List Notice) (outlet : Outlet M) :
    (notices.map fun notice => OutletEvent.seen (.logged notice)).foldl react
        { world with outlet } = { world.noteAll notices with outlet } := by
  induction notices generalizing world with
  | nil => rfl
  | cons notice rest ih =>
      refine (ih (world.note notice)).trans ?_
      simp [noteAll, note]

/-- What the events of a step of the crew make happen around it. -/
def follows [BEq M] (world : World M) (crew : Crew M) (events : List (Event M)) : World M :=
  let (outlet, seen) := (world.setCrew crew).outlet.followAll events
  seen.foldl react { world with outlet }

theorem follows_logged [BEq M] (world : World M) (crew : Crew M) (notices : List Notice)
    (events : List (Event M)) :
    world.follows crew (notices.map Event.logged ++ events) =
      (world.noteAll notices).follows crew events := by
  simp only [follows, followAll_logged, List.foldl_append, react_logged]
  rfl

theorem carryOn_awaiting {await : Await M}
    (there : world.accumulator.crew.runner? runner =
      some { member with standing := .awaiting await }) :
    world.carryOn runner = world := by
  simp only [carryOn, Crew.canResume, there, Bool.false_eq_true, if_false]

theorem carryOn_exited
    (there : world.accumulator.crew.runner? runner = some { member with standing := .exited }) :
    world.carryOn runner = world := by
  simp only [carryOn, Crew.canResume, there, Bool.false_eq_true, if_false]

theorem runner?_stand {crew : Crew M} {standing : Standing M}
    (there : crew.runner? runner = some member) :
    (crew.stand runner standing).runner? runner = some { member with standing } := by
  simp only [Crew.runner?, Crew.stand, List.getElem?_modify_eq] at there ⊢
  rw [there]
  rfl

theorem outlet_beginReceive (scripted : ∃ source, world.supply = .scripted source)
    (timeout : Nat) : (world.beginReceive runner timeout).outlet = world.outlet := by
  obtain ⟨source, supplied⟩ := scripted
  simp only [beginReceive, supplied]
  rfl

theorem outlet_awaits [BEq M] (scripted : ∃ source, world.supply = .scripted source)
    (await : Await M) :
    (world.awaits runner turn await).accumulator.crew =
      { world.accumulator.crew with pipeline := turn.pipeline }.stand runner (.awaiting await) := by
  cases await with
  | receive =>
      exact congrArg (fun outlet : Outlet M => outlet.accumulator.crew)
        (outlet_beginReceive (by exact scripted) _)
  | process => rfl

theorem wake_crew (world : World M) : world.wake.accumulator.crew = world.accumulator.crew := by
  unfold wake
  cases world.accumulator.crew.lock.holder <;> rfl

/-- The end of a cycle is written down, and whoever has the lock now is woken. -/
theorem follows_ended [BEq M] {crew : Crew M} {result : Except CycleFailure CycleReport}
    (world : World M)
    (exited : crew.runner? runner = some { member with standing := .exited })
    (single : member.repeats = false) (uncalled : world.accumulator.callers = []) :
    world.follows crew (.cycleEnded runner result ::
        crew.lock.holder.toList.map Event.granted ++ [.finished runner]) =
      wake { world.setCrew crew with journal := { world.journal with
        runs := (runner, world.now, result) :: world.journal.runs } } := by
  have uncalled : world.outlet.accumulator.callers = [] := uncalled
  have lock : ({ world.setCrew crew with journal := { world.journal with
        runs := (runner, world.now, result) :: world.journal.runs } } :
          World M).accumulator.crew.lock = crew.lock := rfl
  simp only [wake, lock]
  cases crew.lock.holder with
  | none =>
      simp [follows, Outlet.followAll, Outlet.follow, react, reactSeen, setCrew, accumulator,
        exited, single, joiners, uncalled, now]
  | some next =>
      simp [follows, Outlet.followAll, Outlet.follow, react, reactSeen, setCrew, accumulator,
        exited, single, joiners, uncalled, now, enqueue]

theorem follows_settled [BEq M] (holds : world.Holds runner member) :
    (world.follows (world.accumulator.crew.settle runner member turn).1
        (world.accumulator.crew.settle runner member turn).2).carryOn runner =
      world.turned runner turn := by
  cases progress : turn.progress with
  | awaits await =>
      have stood : (world.awaits runner turn await).carryOn runner =
          world.awaits runner turn await := by
        refine carryOn_awaiting (?_ : _ = some { member with standing := .awaiting await })
        rw [outlet_awaits holds.scripted]
        exact runner?_stand holds.there
      simp only [Crew.settle, progress, follows_logged, turned]
      cases await with
      | receive | process => exact stood
  | ended result =>
      -- whoever is hired for a single cycle does not go on after its end
      have exited : (Crew.stand { world.accumulator.crew with
          pipeline := turn.pipeline, lock := world.accumulator.crew.lock.release }
            runner .exited).runner? runner = some { member with standing := .exited } :=
        runner?_stand holds.there
      have rests : (world.ends runner turn result).wake.carryOn runner =
          (world.ends runner turn result).wake := by
        refine carryOn_exited (?_ : _ = some { member with standing := .exited })
        rw [wake_crew]
        exact exited
      simp only [Crew.settle, progress, follows_logged, turned, Crew.conclude, holds.single,
        Crew.release, Bool.false_eq_true, if_false]
      refine Eq.trans (congrArg (carryOn · runner) ?_) rests
      exact follows_ended (world.noteAll turn.notices) exited holds.single holds.uncalled

theorem perform_resume [BEq M] (holds : world.Holds runner member)
    (queued : member.standing = .queued) :
    world.perform (.resume runner) = world.turned runner
      (world.accumulator.crew.pipeline.beginCycle member.policy member.allowed world.now) := by
  have stepped : world.outlet.accumulator.crew.step world.now runner .resume =
      some (world.outlet.accumulator.crew.settle runner member
        (world.accumulator.crew.pipeline.beginCycle member.policy member.allowed world.now)) := by
    have there : world.outlet.accumulator.crew.runner? runner = some member := holds.there
    have lock : world.outlet.accumulator.crew.lock.holder = some runner := holds.lock
    simp only [Crew.step, there, queued, lock, if_true]
    rfl
  rw [← follows_settled holds, perform, moveRunner, move]
  simp only [Outlet.step, Outlet.advance, Accumulator.step, stepped]
  rfl

theorem perform_received [BEq M] {cycle index deadline timeout : Nat}
    (holds : world.Holds runner member)
    (waits : member.standing = .awaiting (.receive cycle index deadline timeout))
    (outcome : Outcome (Option M)) :
    world.perform (.received runner outcome) = world.turned runner
      (world.accumulator.crew.pipeline.received member.policy member.allowed world.now cycle
        index deadline timeout outcome) := by
  rw [← follows_settled holds, perform, moveRunner, move]
  have there : world.outlet.accumulator.crew.runner? runner = some member := holds.there
  simp only [Outlet.step, Outlet.advance, Accumulator.step, Crew.step, there, waits]
  rfl

/-- The layers have seen how a call of the base sink ended. -/
def settled (world : World M) (layers : List Layer) (notices : List Notice)
    (underway : List (Nat × Stage M)) : World M :=
  { world.noteAll notices with outlet := { world.outlet with layers, underway } }

theorem perform_delivered_ends [BEq M] {cycle received dispatched : Nat} {reason : FillExit}
    {message : M} {delivery : Delivery M} {outcome result : Outcome Unit} {layers : List Layer}
    {notices : List Notice} (holds : world.Holds runner member)
    (waits : member.standing = .awaiting (.process cycle received reason dispatched message))
    (stage : world.outlet.stage? runner = some (.delivering delivery))
    (passed : delivery.settle world.outlet.sink world.outlet.layers outcome =
      (.ends result, layers, notices)) :
    world.perform (.delivered runner outcome) =
      (world.settled layers notices (world.outlet.finish runner).underway).turned runner
        (world.accumulator.crew.pipeline.processed member.allowed cycle received reason
          dispatched result) := by
  have held : (world.settled layers notices (world.outlet.finish runner).underway).Holds
      runner member := ⟨holds.there, holds.single, holds.lock, holds.uncalled, holds.scripted⟩
  have there : world.outlet.accumulator.crew.runner? runner = some member := holds.there
  rw [← follows_settled held, perform, move]
  simp only [Outlet.step, stage, Outlet.settle, passed, Outlet.advance, Accumulator.step,
    Crew.step, there, waits, Outlet.finish, List.foldl_append, react_notes]
  rfl

theorem perform_delivered_again [BEq M] {cycle received dispatched backoff : Nat}
    {reason : FillExit} {message : M} {delivery next : Delivery M} {outcome : Outcome Unit}
    {layers : List Layer} {notices : List Notice} (holds : world.Holds runner member)
    (waits : member.standing = .awaiting (.process cycle received reason dispatched message))
    (stage : world.outlet.stage? runner = some (.delivering delivery))
    (passed : delivery.settle world.outlet.sink world.outlet.layers outcome =
      (.again backoff next, layers, notices)) :
    world.perform (.delivered runner outcome) =
      (world.settled layers notices (world.outlet.enter runner (.resting next)).underway).after
        backoff (.redeliver runner) := by
  have awaiting : world.accumulator.crew.runner? runner = some { member with
      standing := .awaiting (.process cycle received reason dispatched message) } := by
    rw [← waits]
    exact holds.there
  have stays : (after (world.settled layers notices
      (world.outlet.enter runner (.resting next)).underway) backoff
        (.redeliver runner)).carryOn runner = _ :=
    carryOn_awaiting awaiting
  rw [← stays, perform, move]
  simp only [Outlet.step, stage, Outlet.settle, passed, List.foldl_append, react_notes]
  rfl

theorem perform_redeliver [BEq M] {delivery : Delivery M}
    (stage : world.outlet.stage? runner = some (.resting delivery)) :
    world.perform (.redeliver runner) =
      (world.entering runner (.delivering delivery)).beginDelivery runner delivery.message := by
  rw [perform, move]
  simp only [Outlet.step, stage]
  rfl

/-! ### The others -/

/-- A runner for a single cycle. -/
def extra (policy : Policy) (standing : Standing M) : Runner M :=
  { policy, repeats := false, standing }

/-- Runners that wait for the lock, and then some that have not run yet. -/
def extras (policy : Policy) (queued fresh : Nat) : List (Runner M) :=
  List.replicate queued (extra policy .queued) ++ List.replicate fresh (extra policy .fresh)

/-- Runners more, for single cycles, with numbers from `first` on: some wait for the lock, in the
order of their numbers, and the others have not run yet. -/
structure Crowd where
  first : Nat
  policy : Policy
  queued : Nat
  fresh : Nat

def Crowd.runners (others : Crowd) : List (Runner M) :=
  extras others.policy others.queued others.fresh

/-- Those that wait for the lock. -/
def Crowd.line (others : Crowd) : List Nat :=
  List.range' others.first others.queued

def Crowd.tasks (others : Crowd) : List (Task M) :=
  (List.range' (others.first + others.queued) others.fresh).map Task.resume

def among (others : Crowd) (world : World M) : World M :=
  { world with
    agenda := { world.agenda with ready := world.agenda.ready ++ others.tasks }
    outlet := { world.outlet with accumulator := { world.outlet.accumulator with
      crew := { world.outlet.accumulator.crew with
        lock := others.line.foldl FairLock.request world.outlet.accumulator.crew.lock
        runners := world.outlet.accumulator.crew.runners ++ others.runners } } } }

/-- The last runner has the lock, and nobody waits for it. -/
structure Alone (world : World M) (before : List (Runner M)) (member : Runner M) : Prop where
  runners : world.accumulator.crew.runners = before ++ [member]
  gone : ∀ other ∈ before, other.gone = true
  single : member.repeats = false
  lock : world.accumulator.crew.lock = { holder := some before.length }
  uncalled : world.accumulator.callers = []
  scripted : ∃ source, world.supply = .scripted source

variable {before : List (Runner M)} {others : Crowd}

/-- Nothing but the accumulator and the kind of its source matters here. -/
theorem Alone.elsewhere {other : World M} (alone : world.Alone before member)
    (same : other.accumulator = world.accumulator)
    (scripted : ∃ source, other.supply = .scripted source) : other.Alone before member where
  runners := same ▸ alone.runners
  gone := alone.gone
  single := alone.single
  lock := same ▸ alone.lock
  uncalled := same ▸ alone.uncalled
  scripted := scripted

theorem foldl_request {line : List Nat} {lock : FairLock} {holder : Nat}
    (held : lock.holder = some holder) :
    line.foldl FairLock.request lock = { lock with waiting := lock.waiting ++ line } := by
  induction line generalizing lock with
  | nil => simp
  | cons next rest ih =>
      have requested : lock.request next = { lock with waiting := lock.waiting ++ [next] } := by
        simp only [FairLock.request, held]
      have later : rest.foldl FairLock.request
            { lock with waiting := lock.waiting ++ [next] } =
          { lock with waiting := lock.waiting ++ [next] ++ rest } :=
        ih held
      rw [List.foldl_cons, requested, later, List.append_assoc, List.singleton_append]

/-- Giving the lock up is as if the others had asked for a free one. -/
theorem release_foldl_request (line : List Nat) (holder : Nat) :
    (line.foldl FairLock.request { holder := some holder }).release =
      line.foldl FairLock.request {} := by
  rw [foldl_request rfl]
  cases line with
  | nil => rfl
  | cons next rest =>
      have others : rest.foldl FairLock.request { holder := some next } =
        { holder := some next, waiting := [] ++ rest } := foldl_request rfl
      exact others.symm

theorem Alone.holds (alone : world.Alone before member) :
    (world.among others).Holds before.length member where
  there := by
    have runners : world.outlet.accumulator.crew.runners = before ++ [member] := alone.runners
    simp [among, accumulator, Crew.runner?, runners]
  single := alone.single
  lock := by
    have lock : world.outlet.accumulator.crew.lock = { holder := some before.length } := alone.lock
    simp [among, accumulator, lock, foldl_request]
  uncalled := alone.uncalled
  scripted := alone.scripted

theorem stand_among {crew : Crew M} (runners : crew.runners = before ++ [member])
    (standing : Standing M) (others : List (Runner M)) (lock : FairLock) :
    { crew with runners := crew.runners ++ others, lock }.stand before.length standing =
      { crew.stand before.length standing with
        runners := (crew.stand before.length standing).runners ++ others, lock } := by
  simp [Crew.stand, runners, List.modify_eq_take_drop]

theorem after_among (world : World M) (delay : Nat) (task : Task M) :
    (world.among others).after delay task =
      (world.after delay task).among others := by
  unfold after Agenda.after
  split <;> rfl

theorem stood_among (runners : world.accumulator.crew.runners = before ++ [member])
    (standing : Standing M) :
    (world.among others).stood before.length turn standing =
      (world.stood before.length turn standing).among others := by
  have runners : ({ world.outlet.accumulator.crew with pipeline := turn.pipeline } :
    Crew M).runners = before ++ [member] := runners
  have stand := stand_among runners standing others.runners
    (others.line.foldl FairLock.request world.outlet.accumulator.crew.lock)
  exact congrArg (fun crew : Crew M =>
    ((world.among others).setCrew crew).noteAll turn.notices) stand

/-- The source has been asked for a message. -/
def asked (world : World M) (source : ScriptedSource M) (timeout : Nat) : World M :=
  { world with
    supply := .scripted source
    journal := { world.journal with receives := (world.now, timeout) :: world.journal.receives } }

theorem beginReceive_eq {source : ScriptedSource M} (supplied : world.supply = .scripted source)
    (runner timeout : Nat) :
    world.beginReceive runner timeout =
      (world.asked (source.receive timeout).2 timeout).after (source.receive timeout).1.delay
        (.received runner (source.receive timeout).1.outcome) := by
  simp only [beginReceive, supplied]
  rfl

/-- The base sink has been given a message. -/
def given [BEq M] (world : World M) (message : M) : World M :=
  { world with
    base := (world.base.deliver message).2
    journal := { world.journal with
      deliveries := ⟨world.now, message, (world.base.deliver message).1.kind⟩ ::
        world.journal.deliveries } }

theorem beginDelivery_eq [BEq M] (world : World M) (runner : Nat) (message : M) :
    world.beginDelivery runner message =
      (world.given message).after
        ((world.given message).base.delayOf (world.base.deliver message).1)
        (.delivered runner (world.base.deliver message).1.outcome) :=
  rfl

theorem beginReceive_among (world : World M) (scripted : ∃ source, world.supply = .scripted source)
    (runner timeout : Nat) :
    (world.among others).beginReceive runner timeout =
      (world.beginReceive runner timeout).among others := by
  obtain ⟨source, supplied⟩ := scripted
  have same : (world.among others).supply = .scripted source := supplied
  rw [beginReceive_eq same, beginReceive_eq supplied]
  exact after_among (world.asked _ _) _ _

theorem beginDelivery_among [BEq M] (world : World M) (runner : Nat) (message : M) :
    (world.among others).beginDelivery runner message =
      (world.beginDelivery runner message).among others :=
  after_among (world.given message) _ _

theorem awaits_among [BEq M] (alone : world.Alone before member) (await : Await M) :
    (world.among others).awaits before.length turn await =
      (world.awaits before.length turn await).among others := by
  have same : (world.among others).stood before.length turn
        (.awaiting await) =
      (world.stood before.length turn (.awaiting await)).among others :=
    stood_among alone.runners _
  simp only [awaits, same]
  cases await with
  | receive => exact beginReceive_among (world.stood _ _ _) alone.scripted _ _
  | process => exact beginDelivery_among (entering (world.stood _ _ _) _ _) _ _

theorem ends_among (alone : world.Alone before member)
    (result : Except CycleFailure CycleReport) :
    (world.among others).ends before.length turn result =
      (world.ends before.length turn result).among others := by
  have lock : (world.among others).accumulator.crew.lock.release =
      others.line.foldl FairLock.request world.accumulator.crew.lock.release := by
    have held : world.outlet.accumulator.crew.lock = { holder := some before.length } := alone.lock
    simp only [accumulator, among, held, release_foldl_request]
    rfl
  have runners : ({ world.accumulator.crew with
      pipeline := turn.pipeline, lock := world.accumulator.crew.lock.release } :
        Crew M).runners = before ++ [member] := alone.runners
  have stood := stand_among runners .exited others.runners
    (others.line.foldl FairLock.request world.accumulator.crew.lock.release)
  unfold ends
  simp only [lock]
  exact congrArg (fun crew : Crew M => (setCrew { world.among others with
    journal := { world.journal with
      runs := (before.length, world.now, result) :: world.journal.runs } } crew).noteAll
        turn.notices) stood

/-! ### One task of a cycle -/

/-- What the holder of the lock waits for, and the task that brings it. -/
inductive Waits (outlet : Outlet M) (runner : Nat) : Standing M → Task M → Prop where
  | turn : Waits outlet runner .queued (.resume runner)
  | source {cycle index deadline timeout : Nat} (outcome : Outcome (Option M)) :
      Waits outlet runner (.awaiting (.receive cycle index deadline timeout))
        (.received runner outcome)
  | sink {cycle received dispatched : Nat} {reason : FillExit} {message : M}
      {delivery : Delivery M} (outcome : Outcome Unit)
      (stage : outlet.stage? runner = some (.delivering delivery)) :
      Waits outlet runner (.awaiting (.process cycle received reason dispatched message))
        (.delivered runner outcome)
  | pause {cycle received dispatched : Nat} {reason : FillExit} {message : M}
      {delivery : Delivery M} (stage : outlet.stage? runner = some (.resting delivery)) :
      Waits outlet runner (.awaiting (.process cycle received reason dispatched message))
        (.redeliver runner)

/-- A cycle is in progress; its task is not on the agenda yet, and nothing else is. -/
structure Busy (world : World M) (before : List (Runner M)) (member : Runner M)
    (task : Task M) : Prop extends world.Alone before member where
  calm : world.agenda = { now := world.now }
  waits : Waits world.outlet before.length member.standing task

/-- Nothing is on the agenda, and nobody runs.  The next runner will have the number `first`. -/
structure Idle (world : World M) (first : Nat) : Prop where
  calm : world.agenda = { now := world.now }
  count : world.accumulator.crew.runners.length = first
  gone : ∀ member ∈ world.accumulator.crew.runners, member.gone = true
  free : world.accumulator.crew.lock = {}
  uncalled : world.accumulator.callers = []
  scripted : ∃ source, world.supply = .scripted source

/-- How far the delivery in progress is from its end. -/
def stepsLeft (outlet : Outlet M) (runner : Nat) : Nat :=
  match outlet.stage? runner with
  | some (.delivering delivery) => 2 * attemptsLeft outlet.layers delivery.attempts
  | some (.resting delivery) => 2 * attemptsLeft outlet.layers delivery.attempts + 1
  | none => 0

/-- How far a cycle is from its end: the messages that the source still has, those of the
batch, and the attempts of the delivery in progress. -/
def rank (world : World M) (runner : Nat) : Task M → Nat × Nat × Nat
  | .resume _ => (world.left + 3, 0, 0)
  | .received _ (.returned (some _)) => (world.left + 2, 0, 0)
  | .received _ _ => (1, 0, 0)
  | _ => (0, world.accumulator.pending, stepsLeft world.outlet runner)

abbrev Less (left right : Nat × Nat × Nat) : Prop :=
  Prod.Lex (· < ·) (Prod.Lex (· < ·) (· < ·)) left right

theorem drain_cases (pipeline : Pipeline M) (allowed : Bool) (cycle received : Nat)
    (reason : FillExit) (dispatched : Nat) :
    (∃ message, (pipeline.drain allowed cycle received reason dispatched).progress =
        .awaits (.process cycle received reason dispatched message) ∧
      (pipeline.drain allowed cycle received reason dispatched).pipeline.batch.size <
        pipeline.batch.size) ∨
    ∃ result, (pipeline.drain allowed cycle received reason dispatched).progress =
      .ended result := by
  unfold Pipeline.drain
  split
  · rename_i message rest popped
    refine .inl ⟨message, rfl, ?_⟩
    unfold Batch.popFrontIf? at popped
    split at popped
    · have held := Batch.popFront?_eq_some_iff.mp popped
      rw [Batch.size_eq_length, Batch.size_eq_length, held]
      exact Nat.lt_succ_self _
    · cases popped
  · right
    split
    · exact ⟨_, rfl⟩
    · unfold Pipeline.dropBatch
      dsimp only
      split <;> exact ⟨_, rfl⟩

/-- What a world keeps while a cycle goes on. -/
structure Keeps (world next : World M) : Prop where
  policy : next.accumulator.policy = world.accumulator.policy
  runs : next.journal.runs = world.journal.runs

theorem Alone.stood (alone : world.Alone before member) (turn : Turn M) (standing : Standing M) :
    (world.stood before.length turn standing).Alone before { member with standing } where
  runners := by
    have runners : world.outlet.accumulator.crew.runners = before ++ [member] := alone.runners
    simp [World.stood, accumulator, noteAll, setCrew, Crew.stand, runners,
      List.modify_eq_take_drop]
  gone := alone.gone
  single := alone.single
  lock := alone.lock
  uncalled := alone.uncalled
  scripted := alone.scripted

theorem rank_asked {source : ScriptedSource M} (supplied : world.supply = .scripted source)
    (runner timeout : Nat) :
    Less ((world.asked (source.receive timeout).2 timeout).rank runner
      (.received runner (source.receive timeout).1.outcome)) (world.left + 2, 0, 0) := by
  have left : world.left = source.script.length := by simp only [World.left, supplied]
  rw [left]
  unfold ScriptedSource.receive
  cases script : source.script with
  | nil =>
      cases source.idle <;> exact .left _ _ (by simp)
  | cons entry rest =>
      cases reply : entry.outcome with
      | returned message =>
          cases message with
          | none => dsimp only; exact .left _ _ (by omega)
          | some message =>
              dsimp only
              exact .left _ _ (by simp [asked, World.left])
      | failed failure => dsimp only; exact .left _ _ (by omega)
      | panicked payload => dsimp only; exact .left _ _ (by omega)

/-- The source is asked, and its answer is nearer to the end than the message before it. -/
theorem awaits_receive [BEq M] (alone : world.Alone before member)
    (calm : world.agenda = { now := world.now }) (turn : Turn M)
    (cycle index deadline timeout : Nat) :
    ∃ next delay task,
      world.awaits before.length turn (.receive cycle index deadline timeout) =
        next.after delay task ∧
      next.Busy before { member with standing := .awaiting (.receive cycle index deadline timeout) }
        task ∧
      world.Keeps next ∧ Less (next.rank before.length task) (world.left + 2, 0, 0) := by
  obtain ⟨source, supplied⟩ := alone.scripted
  have stood := alone.stood turn (.awaiting (.receive cycle index deadline timeout))
  have same : (world.stood before.length turn
    (.awaiting (.receive cycle index deadline timeout))).supply = .scripted source := supplied
  exact ⟨_, _, _, beginReceive_eq same _ _, ⟨stood.elsewhere rfl ⟨_, rfl⟩, calm, .source _⟩,
    ⟨rfl, rfl⟩, rank_asked same _ _⟩

theorem stage?_enter (outlet : Outlet M) (runner : Nat) (stage : Stage M) :
    (outlet.enter runner stage).stage? runner = some stage := by
  simp [Outlet.enter, Outlet.stage?]

/-- The sink is given a message of the batch. -/
theorem awaits_process [BEq M] (alone : world.Alone before member)
    (calm : world.agenda = { now := world.now }) (turn : Turn M)
    (cycle received dispatched : Nat) (reason : FillExit) (message : M) :
    ∃ next delay task,
      world.awaits before.length turn (.process cycle received reason dispatched message) =
        next.after delay task ∧
      next.Busy before
        { member with standing := .awaiting (.process cycle received reason dispatched message) }
        task ∧
      world.Keeps next ∧
      ∃ steps, next.rank before.length task = (0, turn.pipeline.batch.size, steps) := by
  have stood := alone.stood turn
    (.awaiting (.process cycle received reason dispatched message))
  exact ⟨_, _, _, beginDelivery_eq _ _ _, ⟨stood.elsewhere rfl stood.scripted, calm,
    .sink _ (stage?_enter ..)⟩, ⟨rfl, rfl⟩, _, rfl⟩

/-- The cycle is over, and so is everything. -/
theorem ends_idle (alone : world.Alone before member)
    (calm : world.agenda = { now := world.now }) (turn : Turn M)
    (result : Except CycleFailure CycleReport) :
    (world.ends before.length turn result).Idle (before.length + 1) := by
  have runners : (world.ends before.length turn result).accumulator.crew.runners =
      before ++ [{ member with standing := .exited }] := by
    have runners : world.outlet.accumulator.crew.runners = before ++ [member] := alone.runners
    simp [ends, accumulator, noteAll, setCrew, Crew.stand, runners, List.modify_eq_take_drop]
  refine ⟨calm, ?_, ?_, ?_, alone.uncalled, alone.scripted⟩
  · rw [runners, List.length_append, List.length_singleton]
  · intro other inside
    rw [runners] at inside
    rcases List.mem_append.mp inside with earlier | last
    · exact alone.gone other earlier
    · cases List.mem_singleton.mp last
      rfl
  · have held : world.outlet.accumulator.crew.lock = { holder := some before.length } := alone.lock
    simp [ends, accumulator, noteAll, setCrew, Crew.stand, held, FairLock.release, FairLock.free]

variable {outcome : Outcome (Option M)}

/-- What performing the task of a cycle does, whoever else is there. -/
inductive Performs [BEq M] (world : World M) (before : List (Runner M)) (task : Task M) : Prop where
  | goesOn {next : World M} {other : Runner M} {delay : Nat} {following : Task M}
      (busy : next.Busy before other following) (keeps : world.Keeps next)
      (less : Less (next.rank before.length following) (world.rank before.length task))
      (same : ∀ others, (world.among others).perform task =
        (next.after delay following).among others) :
      Performs world before task
  | ends {last : World M} {result : Except CycleFailure CycleReport}
      (idle : last.Idle (before.length + 1))
      (policy : last.accumulator.policy = world.accumulator.policy)
      (runs : last.journal.runs = (before.length, world.now, result) :: world.journal.runs)
      (same : ∀ others, (world.among others).perform task =
        (last.among others).wake) :
      Performs world before task

/-- A stretch of the cycle leads to the next call, with less to come, or to its end. -/
theorem Performs.of_turned [BEq M] {entered : World M} {task : Task M}
    (alone : entered.Alone before member) (calm : entered.agenda = { now := world.now })
    (keeps : world.Keeps entered)
    (same : ∀ others, (world.among others).perform task =
      (entered.among others).turned before.length turn)
    (asks : ∀ cycle index deadline timeout,
      turn.progress = .awaits (.receive cycle index deadline timeout) →
      ∀ left, Less left (entered.left + 2, 0, 0) → Less left (world.rank before.length task))
    (hands : ∀ cycle received reason dispatched message,
      turn.progress = .awaits (.process cycle received reason dispatched message) →
      ∀ steps, Less (0, turn.pipeline.batch.size, steps) (world.rank before.length task)) :
    world.Performs before task := by
  have time : entered.now = world.now := by rw [now, calm]
  have calm : entered.agenda = { now := entered.now } := time ▸ calm
  cases progress : turn.progress with
  | awaits await =>
      have awaited (others : Crowd) :
          (world.among others).perform task =
            (entered.awaits before.length turn await).among others := by
        rw [same, turned, progress]
        exact awaits_among alone await
      cases await with
      | receive cycle index deadline timeout =>
          obtain ⟨next, delay, following, goes, busy, kept, less⟩ :=
            awaits_receive alone calm turn cycle index deadline timeout
          exact .goesOn busy ⟨kept.policy.trans keeps.policy, kept.runs.trans keeps.runs⟩
            (asks _ _ _ _ progress _ less)
            fun others => goes ▸ awaited others
      | process cycle received reason dispatched message =>
          obtain ⟨next, delay, following, goes, busy, kept, steps, rank⟩ :=
            awaits_process alone calm turn cycle received dispatched reason message
          exact .goesOn busy ⟨kept.policy.trans keeps.policy, kept.runs.trans keeps.runs⟩
            (rank ▸ hands _ _ _ _ _ progress steps)
            fun others => goes ▸ awaited others
  | ended result =>
      have runs : (entered.ends before.length turn result).journal.runs =
          (before.length, world.now, result) :: world.journal.runs := by
        rw [← time, ← keeps.runs]
        rfl
      refine .ends (ends_idle alone calm turn result) keeps.policy runs fun others => ?_
      rw [same, turned, progress]
      exact congrArg wake (ends_among alone result)

theorem less_succ {left : Nat × Nat × Nat} {bound : Nat} (less : Less left (bound, 0, 0)) :
    Less left (bound + 1, 0, 0) := by
  cases less with
  | left _ _ lower => exact .left _ _ (Nat.lt_succ_of_lt lower)
  | right => exact .left _ _ (Nat.lt_succ_self _)

theorem performs_resume [BEq M] (alone : world.Alone before member)
    (calm : world.agenda = { now := world.now }) (queued : member.standing = .queued) :
    world.Performs before (.resume before.length) := by
  have same (others : Crowd) :
      (world.among others).perform (.resume before.length) =
        (world.among others).turned before.length
          (world.accumulator.crew.pipeline.beginCycle member.policy member.allowed world.now) :=
    perform_resume alone.holds queued
  refine .of_turned alone calm ⟨rfl, rfl⟩ same ?_ ?_
  · intro _ _ _ _ _ left less
    exact less_succ less
  · intro _ _ _ _ _ _ steps
    exact .left _ _ (Nat.succ_pos _)

/-- Only a message is followed by another call of the source. -/
theorem received_asks {pipeline : Pipeline M} {policy : Policy} {allowed : Bool}
    {now cycle index deadline timeout number place due span : Nat}
    (asks : (pipeline.received policy allowed now cycle index deadline timeout outcome).progress =
      .awaits (.receive number place due span)) :
    ∃ message, outcome = .returned (some message) := by
  cases outcome with
  | failed failure => cases asks
  | panicked payload => cases asks
  | returned message =>
      cases message with
      | some message => exact ⟨message, rfl⟩
      | none =>
          rcases drain_cases pipeline allowed cycle index .receiveTimedOut 0 with
            ⟨message, hands, _⟩ | ⟨result, ended⟩
          · cases hands.symm.trans asks
          · cases ended.symm.trans asks

theorem rank_received (world : World M) (runner other : Nat) (outcome : Outcome (Option M)) :
    ∃ bound, 0 < bound ∧ world.rank runner (.received other outcome) = (bound, 0, 0) := by
  cases outcome with
  | failed failure => exact ⟨1, Nat.one_pos, rfl⟩
  | panicked payload => exact ⟨1, Nat.one_pos, rfl⟩
  | returned message =>
      cases message with
      | some message => exact ⟨_, Nat.succ_pos _, rfl⟩
      | none => exact ⟨1, Nat.one_pos, rfl⟩

theorem performs_received [BEq M] {cycle index deadline timeout : Nat}
    (alone : world.Alone before member) (calm : world.agenda = { now := world.now })
    (waits : member.standing = .awaiting (.receive cycle index deadline timeout)) :
    world.Performs before (.received before.length outcome) := by
  have same (others : Crowd) :
      (world.among others).perform (.received before.length outcome) =
        (world.among others).turned before.length
          (world.accumulator.crew.pipeline.received member.policy member.allowed world.now cycle
            index deadline timeout outcome) :=
    perform_received alone.holds waits outcome
  refine .of_turned alone calm ⟨rfl, rfl⟩ same ?_ ?_
  · intro _ _ _ _ asks left less
    obtain ⟨message, rfl⟩ := received_asks asks
    exact less
  · intro _ _ _ _ _ _ steps
    obtain ⟨bound, positive, rank⟩ := world.rank_received before.length before.length outcome
    rw [rank]
    exact .left _ _ positive

theorem processed_cases (pipeline : Pipeline M) (allowed : Bool) (cycle received : Nat)
    (reason : FillExit) (dispatched : Nat) (outcome : Outcome Unit) :
    (∃ message, (pipeline.processed allowed cycle received reason dispatched outcome).progress =
        .awaits (.process cycle received reason (dispatched + 1) message) ∧
      (pipeline.processed allowed cycle received reason dispatched outcome).pipeline.batch.size <
        pipeline.batch.size) ∨
    ∃ result, (pipeline.processed allowed cycle received reason dispatched outcome).progress =
      .ended result := by
  cases outcome with
  | failed failure => exact .inr ⟨_, rfl⟩
  | panicked payload => exact .inr ⟨_, rfl⟩
  | returned => exact drain_cases { pipeline with counters := pipeline.counters.countDispatched } ..

/-- The delivery is over: the cycle hands on the next message, or ends. -/
theorem performs_delivered_ends [BEq M] {cycle received dispatched : Nat} {reason : FillExit}
    {message : M} {delivery : Delivery M} {outcome result : Outcome Unit} {layers : List Layer}
    {notices : List Notice}
    (alone : world.Alone before member) (calm : world.agenda = { now := world.now })
    (waits : member.standing = .awaiting (.process cycle received reason dispatched message))
    (delivering : world.outlet.stage? before.length = some (.delivering delivery))
    (passed : delivery.settle world.outlet.sink world.outlet.layers outcome =
      (.ends result, layers, notices)) :
    world.Performs before (.delivered before.length outcome) := by
  have entered : (world.settled layers notices
      (world.outlet.finish before.length).underway).Alone before member :=
    alone.elsewhere rfl alone.scripted
  have same (others : Crowd) :
      (world.among others).perform (.delivered before.length outcome) =
        ((world.settled layers notices
          (world.outlet.finish before.length).underway).among others).turned before.length
          (world.accumulator.crew.pipeline.processed member.allowed cycle received reason
            dispatched result) :=
    perform_delivered_ends alone.holds waits delivering passed
  have next := processed_cases world.accumulator.crew.pipeline member.allowed cycle received reason
    dispatched result
  refine .of_turned entered calm ⟨rfl, rfl⟩ same ?_ ?_
  · intro _ _ _ _ asks
    rcases next with ⟨message, hands, _⟩ | ⟨result, ended⟩
    · cases hands.symm.trans asks
    · cases ended.symm.trans asks
  · intro _ _ _ _ _ hands steps
    rcases next with ⟨message, _, smaller⟩ | ⟨result, ended⟩
    · exact .right _ (.left _ _ smaller)
    · cases ended.symm.trans hands

/-- A layer has the message delivered again, after a pause. -/
theorem performs_delivered_again [BEq M] {cycle received dispatched backoff : Nat}
    {reason : FillExit} {message : M} {delivery next : Delivery M} {outcome : Outcome Unit}
    {layers : List Layer} {notices : List Notice}
    (alone : world.Alone before member) (calm : world.agenda = { now := world.now })
    (waits : member.standing = .awaiting (.process cycle received reason dispatched message))
    (delivering : world.outlet.stage? before.length = some (.delivering delivery))
    (passed : delivery.settle world.outlet.sink world.outlet.layers outcome =
      (.again backoff next, layers, notices)) :
    world.Performs before (.delivered before.length outcome) := by
  let rested := world.settled layers notices
    (world.outlet.enter before.length (.resting next)).underway
  have stage : rested.outlet.stage? before.length = some (.resting next) :=
    stage?_enter ..
  have busy : rested.Busy before member (.redeliver before.length) :=
    ⟨alone.elsewhere rfl alone.scripted, calm, waits ▸ .pause stage⟩
  -- the batch is as long as before, and the layers have fewer attempts left
  have less : stepsLeft rested.outlet before.length < stepsLeft world.outlet before.length := by
    have fewer : attemptsLeft rested.outlet.layers next.attempts <
      attemptsLeft world.outlet.layers delivery.attempts := Delivery.settle_again passed
    simp only [stepsLeft, stage, delivering]
    omega
  have same (others : Crowd) :
      (world.among others).perform (.delivered before.length outcome) =
        (rested.after backoff (.redeliver before.length)).among others :=
    (perform_delivered_again alone.holds waits delivering passed).trans
      (after_among rested _ _)
  exact .goesOn busy ⟨rfl, rfl⟩ (.right _ (.right _ less)) same

theorem performs_delivered [BEq M] {cycle received dispatched : Nat} {reason : FillExit}
    {message : M} {delivery : Delivery M} {outcome : Outcome Unit}
    (alone : world.Alone before member) (calm : world.agenda = { now := world.now })
    (waits : member.standing = .awaiting (.process cycle received reason dispatched message))
    (delivering : world.outlet.stage? before.length = some (.delivering delivery)) :
    world.Performs before (.delivered before.length outcome) := by
  cases passed : delivery.settle world.outlet.sink world.outlet.layers outcome with
  | mk continuation rest =>
      cases continuation with
      | ends result => exact performs_delivered_ends alone calm waits delivering passed
      | again backoff next => exact performs_delivered_again alone calm waits delivering passed

theorem performs_redeliver [BEq M] {cycle received dispatched : Nat} {reason : FillExit}
    {message : M} {delivery : Delivery M}
    (alone : world.Alone before member) (calm : world.agenda = { now := world.now })
    (waits : member.standing = .awaiting (.process cycle received reason dispatched message))
    (resting : world.outlet.stage? before.length = some (.resting delivery)) :
    world.Performs before (.redeliver before.length) := by
  let entered := world.entering before.length (.delivering delivery)
  let reply := (entered.base.deliver delivery.message).1
  have delivering : entered.outlet.stage? before.length = some (.delivering delivery) :=
    stage?_enter ..
  have busy : (entered.given delivery.message).Busy before member
      (.delivered before.length reply.outcome) :=
    ⟨alone.elsewhere rfl alone.scripted, calm, waits ▸ .sink _ delivering⟩
  have less : stepsLeft entered.outlet before.length < stepsLeft world.outlet before.length := by
    simp only [stepsLeft, resting, delivering]
    exact Nat.lt_succ_self _
  have same (others : Crowd) :
      (world.among others).perform (.redeliver before.length) =
        ((entered.given delivery.message).after
          ((entered.given delivery.message).base.delayOf reply)
          (.delivered before.length reply.outcome)).among others := by
    have stage : (world.among others).outlet.stage? before.length =
      some (.resting delivery) := resting
    exact (perform_redeliver stage).trans (beginDelivery_among entered _ _)
  exact .goesOn busy ⟨rfl, rfl⟩ (.right _ (.right _ less)) same

/-- Whatever the cycle waits for, its task does the same in every crowd. -/
theorem Busy.performs [BEq M] {task : Task M} (busy : world.Busy before member task) :
    world.Performs before task := by
  obtain ⟨alone, calm, waits⟩ := busy
  generalize standing : member.standing = place at waits
  cases waits with
  | turn => exact performs_resume alone calm standing
  | source outcome => exact performs_received alone calm standing
  | sink outcome stage => exact performs_delivered alone calm standing stage
  | pause stage => exact performs_redeliver alone calm standing stage

end World

end Batching.Simulation

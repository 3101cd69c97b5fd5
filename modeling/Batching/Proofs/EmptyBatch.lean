import Batching.Proofs.Permission

namespace Batching

/-! The batch between cycles.

While nobody is in the middle of a cycle the batch is empty.  So each fill phase begins
with an empty batch, a worker that leaves finds nothing to drop, and a runner that is not
in the cycle in progress leaves that cycle alone.
-/

variable {M : Type}

namespace Crew

variable {crew next : Crew M} {id : Nat} {runner : Runner M} {events : List (Event M)}

/-- Nobody has the lock, or the one who has it is about to begin its cycle or to leave. -/
def Rests (crew : Crew M) : Prop :=
  crew.lock.holder = none ∨
    ∃ id runner, crew.lock.holder = some id ∧ crew.runner? id = some runner ∧
      (runner.standing = .queued ∨ runner.standing = .leaving)

theorem Rests.current? (rests : crew.Rests) : crew.current? = none := by
  rcases rests with free | ⟨id, runner, holds, found, waits⟩
  · simp [Crew.current?, free]
  · refine current?_eq_none_of_stood found holds ?_
    rcases waits with stood | stood <;> rw [stood] <;> rfl

theorem Orderly.empty_of_rests (orderly : crew.Orderly) (rests : crew.Rests) :
    crew.pending = 0 :=
  List.length_eq_zero_iff.mpr (orderly.drained rests.current?)

theorem Orderly.exits_empty (orderly : crew.Orderly) (found : crew.runner? id = some runner)
    {name : String} {dropped : Nat}
    (exited : crew.Tells next id runner (.logged (.workerExited name dropped))) : dropped = 0 := by
  cases exited with
  | exits stood holds =>
      exact orderly.empty_of_rests (.inr ⟨id, runner, holds, found, .inr stood⟩)
  | follows aftermath => cases aftermath
  | @calls await _ _ _ called => cases await <;> cases called

/-- A runner that is not in the cycle in progress leaves that cycle alone. -/
theorem Orderly.undisturbed {now other : Nat} {cue : Cue M} {await : Await M}
    (orderly : crew.Orderly) (current : crew.current? = some (other, await))
    (different : id ≠ other) (stepped : crew.step now id cue = some (next, events)) :
    next.pipeline = crew.pipeline ∧ next.current? = some (other, await) := by
  obtain ⟨runner, found, steps⟩ := step_cases stepped
  obtain ⟨held, _⟩ := current?_eq_some_iff.mp current
  -- To settle or to leave takes the lock, which the other runner has.
  cases steps with
  | asks idle waits _ =>
      refine ⟨rfl, ?_⟩
      rw [current?_request_stand orderly found (rested_of_idle idle) (rests_of_waits waits)]
      exact current
  | settles _ opens =>
      have holds := opens.holds orderly found
      exact absurd (Option.some.inj (holds.symm.trans held)) different
  | leaves _ holds => exact absurd (Option.some.inj (holds.symm.trans held)) different

theorem drill_orderly {now : Nat} {move : DrillMove M} (orderly : crew.Orderly)
    (stepped : crew.drill now move = some (next, events)) : next.Orderly := by
  cases move with
  | call policy =>
      cases stepped
      exact orderly.hire policy false
  | resume runner cue => exact orderly.step stepped

theorem run?_orderly (name : String) (reporter : Reporter) {moves : List (Nat × DrillMove M)}
    (ran : (make name reporter).run? moves = some (crew, events)) : crew.Orderly :=
  (follow?_induction Orderly (fun _ _ _ => True) (fun orderly => drill_orderly orderly)
    (fun _ => trivial) (fun _ _ _ _ => trivial) (orderly_make _ _ rfl) ran).1

end Crew

namespace Accumulator

variable {accumulator before after start last : Accumulator M} {id : Nat}
  {events : List (Event M)} {moves : List (Nat × Move M)}

theorem Evolves.exits_empty {now : Nat} {move : Move M} (orderly : before.Orderly)
    (evolves : before.Evolves now move after events) {name : String} {dropped : Nat}
    (exited : .logged (.workerExited name dropped) ∈ events) : dropped = 0 := by
  cases evolves with
  | carries carried => cases carried.isOfCall exited
  | works stepped =>
      obtain ⟨runner, found, steps⟩ := Crew.step_cases stepped
      exact orderly.crew.exits_empty found (steps.tells found exited)
  | drops => cases exited

theorem run?_exits_empty (orderly : start.Orderly) (ran : start.run? moves = some (last, events)) :
    ∀ name dropped, .logged (.workerExited name dropped) ∈ events → dropped = 0 := by
  refine run?_induction
    (fun _ events _ => ∀ name dropped,
      .logged (.workerExited name dropped) ∈ events → dropped = 0)
    (fun _ _ => nofun) ?_ orderly ran
  intro now move state next seen last more orderly evolves rest name dropped exited
  rcases List.mem_append.mp exited with early | late
  · exact evolves.exits_empty orderly early
  · exact rest name dropped late

/-- In every history of an accumulator the batch is empty unless a cycle is in progress, in
particular when nobody has the lock and when the next fill phase is about to begin.  No
worker ever drops a message when it leaves, and none changes the batch while another is in
a cycle.  Cycles without an accumulator, any number of them at once, leave the batch empty
as well. -/
theorem batch_empty_between_cycles :
    (∀ (name : String) (policy : Policy) (reporter : Reporter) (moves : List (Nat × Move M))
        (accumulator : Accumulator M) (events : List (Event M)),
      (make name policy reporter).run? moves = some (accumulator, events) →
        (accumulator.crew.Rests → accumulator.pending = 0) ∧
        (∀ name dropped, .logged (.workerExited name dropped) ∈ events → dropped = 0) ∧
        ∀ now id cue other await next seen,
          accumulator.crew.current? = some (other, await) → id ≠ other →
          accumulator.step now (.worker id cue) = some (next, seen) →
            next.crew.pipeline = accumulator.crew.pipeline ∧
              next.crew.current? = some (other, await)) ∧
      ∀ (name : String) (reporter : Reporter) (moves : List (Nat × DrillMove M)) (crew : Crew M)
        (events : List (Event M)),
        (Crew.make name reporter).run? moves = some (crew, events) →
          crew.Rests → crew.pending = 0 := by
  constructor
  · intro name policy reporter moves accumulator events ran
    have orderly := run?_orderly name policy reporter ran
    have exits := run?_exits_empty (orderly_make name policy reporter) ran
    refine ⟨orderly.crew.empty_of_rests, exits, ?_⟩
    intro now id cue other await next seen current different stepped
    simp only [step] at stepped
    split at stepped
    · cases stepped
    · rename_i resumed
      cases stepped
      exact orderly.crew.undisturbed current different resumed
  · intro name reporter moves crew events ran rests
    exact (Crew.run?_orderly name reporter ran).empty_of_rests rests

/-- A stop and a second start while worker 0 is inside a call of the source; worker 1 runs
a cycle before worker 0 leaves. -/
def lingeringWorker : List (Nat × Move Nat) :=
  [(0, .begin .start), (0, .answer 0 (.ok ())), (0, .answer 0 (.ok ())), (0, .answer 0 (.ok ())),
    (0, .worker 0 .resume), (0, .worker 0 .resume),
    (5, .begin .stop), (5, .answer 1 (.ok ())), (6, .answer 1 (.ok ())),
    (7, .begin .start), (7, .answer 2 (.ok ())), (7, .answer 2 (.ok ())), (7, .answer 2 (.ok ())),
    (8, .worker 1 .resume), (9, .worker 0 (.received (.returned (some 7)))),
    (9, .worker 0 .resume), (9, .worker 1 .resume),
    (10, .worker 1 (.received (.returned (some 8)))), (20, .worker 1 (.received (.returned none))),
    (21, .worker 1 (.processed (.returned ()))), (21, .worker 0 .resume)]

/-- Two cycles at once: the second has just been given the lock. -/
def twoCycles : List (Nat × DrillMove Nat) :=
  [(0, .call ⟨2, none, 50⟩), (0, .call ⟨2, none, 50⟩), (0, .resume 0 .resume),
    (0, .resume 1 .resume), (0, .resume 0 .resume),
    (1, .resume 0 (.received (.returned (some 7)))), (2, .resume 0 (.received (.returned none))),
    (3, .resume 0 (.processed (.failed (.process "refused"))))]

/-- The worker of the first span leaves with nothing dropped, and the second of two cycles
begins with an empty batch. -/
theorem batch_empty_between_spans :
    (∃ accumulator events, (make "pair" ⟨2, none, 50⟩ (.logging "pair")).run? lingeringWorker =
        some (accumulator, events) ∧
      accumulator.crew.lock.holder = none ∧ accumulator.pending = 0 ∧
      events.getLast? = some (.finished 0) ∧
      ∀ name dropped, .logged (.workerExited name dropped) ∈ events → dropped = 0) ∧
    ∃ crew events, (Crew.make "pair" (.logging "pair")).run? twoCycles = some (crew, events) ∧
      crew.lock.holder = some 1 ∧ crew.pending = 0 := by
  constructor
  · obtain ⟨accumulator, events, ran, free, left⟩ : ∃ accumulator events,
        (make "pair" ⟨2, none, 50⟩ (.logging "pair")).run? lingeringWorker =
          some (accumulator, events) ∧
        accumulator.crew.lock.holder = none ∧ events.getLast? = some (.finished 0) :=
      ⟨_, _, rfl, rfl, rfl⟩
    obtain ⟨empty, exits, _⟩ := batch_empty_between_cycles.1 _ _ _ _ _ _ ran
    exact ⟨accumulator, events, ran, free, empty (.inl free), left, exits⟩
  · obtain ⟨crew, events, ran, holds, runner, found, stood⟩ : ∃ crew events,
        (Crew.make "pair" (.logging "pair")).run? twoCycles = some (crew, events) ∧
        crew.lock.holder = some 1 ∧
        ∃ runner, crew.runner? 1 = some runner ∧ runner.standing = .queued :=
      ⟨_, _, rfl, rfl, _, rfl, rfl⟩
    refine ⟨crew, events, ran, holds, ?_⟩
    exact batch_empty_between_cycles.2 _ _ _ _ _ ran (.inr ⟨1, runner, holds, found, .inl stood⟩)

end Accumulator

end Batching

import Mathlib.Logic.ExistsUnique
import Batching.Proofs.Joining

namespace Batching

/-! The states of an accumulator and what each of them stands for.

The state goes round in one direction, and only a start that fails takes it back.  It tells
which call is under way: one start while it is starting, one stop while it is stopping, and
none otherwise.  The active worker is there while the accumulator runs, and nobody else may
work.
-/

variable {M : Type}

namespace RunState

/-- The states that a state gives way to. -/
inductive Passes : RunState → RunState → Prop where
  | starts : Passes .stopped .starting
  | fails : Passes .starting .stopped
  | launches : Passes .starting .running
  | stops : Passes .running .stopping
  | finishes : Passes .stopping .stopped

/-- The calls that a state refuses, with the name that the refusal gives to each. -/
inductive Refuses : RunState → Call → String → Prop where
  | start {state : RunState} (busy : state ≠ .stopped) : Refuses state .start "start"
  | stop : Refuses .starting .stop "stop"
  | setPolicy {state : RunState} {policy : Policy} (busy : state ≠ .stopped) :
      Refuses state (.setPolicy policy) "change policy"

end RunState

namespace Accumulator

variable {accumulator before after start last : Accumulator M} {now id worker : Nat}
  {call : Call} {move : Move M} {events : List (Event M)} {moves : List (Nat × Move M)}

theorem Evolves.passes (orderly : before.Orderly)
    (evolves : before.Evolves now move after events) :
    after.state = before.state ∨ before.state.Passes after.state := by
  cases evolves with
  | carries carried =>
      cases carried with
      | passes _ _ life => exact .inl (congrArg Life.state life)
      | starts was _ life =>
          have state : after.state = .starting := congrArg Life.state life
          exact .inr (was ▸ state ▸ .starts)
      | fails staged _ life =>
          have state : after.state = .stopped := congrArg Life.state life
          exact .inr (orderly.staged staged ▸ state ▸ .fails)
      | launches _ staged _ life =>
          have state : after.state = .running := congrArg Life.state life
          exact .inr (orderly.staged staged ▸ state ▸ .launches)
      | stops was _ _ life =>
          have state : after.state = .stopping := congrArg Life.state life
          exact .inr (was ▸ state ▸ .stops)
      | finishes staged _ life =>
          have state : after.state = .stopped := congrArg Life.state life
          exact .inr (orderly.staged staged ▸ state ▸ .finishes)
  | works => exact .inl rfl
  | drops => exact .inl before.release_state

/-! ### Who attends to a state -/

/-- A start or a stop under way has its caller, and the active worker may work. -/
structure Attended (accumulator : Accumulator M) : Prop where
  caller : accumulator.state = .starting ∨ accumulator.state = .stopping →
    ∃ id, accumulator.stage? id = some accumulator.state
  worker : ∀ {worker : Nat}, accumulator.active = some worker →
    accumulator.crew.allows worker = true

theorem attended_make (name : String) (policy : Policy) (reporter : Reporter) :
    (make name policy reporter : Accumulator M).Attended where
  caller moves := by simp [make] at moves
  worker active := by simp [make] at active

theorem Places.stage?_kept {stage : Option RunState}
    (places : before.Places id stage after events) (staged : before.stage? id = stage)
    (other : Nat) : after.stage? other = before.stage? other := by
  rw [places.stages]
  split
  · rename_i same
    rw [same, staged]
  · rfl

theorem Places.stage?_self {stage : Option RunState}
    (places : before.Places id stage after events) : after.stage? id = stage := by
  rw [places.stages, if_pos rfl]

theorem Carries.attended_caller (carried : before.Carries id after events)
    (attended : before.Attended) (moves : after.state = .starting ∨ after.state = .stopping) :
    ∃ id, after.stage? id = some after.state := by
  cases carried with
  | passes staged places life =>
      have state : after.state = before.state := congrArg Life.state life
      rw [state] at moves ⊢
      obtain ⟨caller, attends⟩ := attended.caller moves
      exact ⟨caller, (places.stage?_kept staged caller).trans attends⟩
  | starts _ places life | stops _ _ places life =>
      have state : after.state = _ := congrArg Life.state life
      exact ⟨id, places.stage?_self.trans (congrArg some state.symm)⟩
  | fails _ _ life | launches _ _ _ life | finishes _ _ life =>
      have state : after.state = _ := congrArg Life.state life
      simp [state] at moves

theorem Carries.attended_worker (carried : before.Carries id after events)
    (attended : before.Attended) (active : after.active = some worker) :
    after.crew.allows worker = true := by
  rcases carried.crew_cases with ⟨runners, same⟩ | ⟨_, _, none⟩ | ⟨now, _, crew, latest⟩
  · rw [Crew.allows, Crew.runner?, runners]
    exact attended.worker (same.symm.trans active)
  · cases none.symm.trans active
  · cases latest.symm.trans active
    rw [crew, Crew.allows_hire]
    exact if_pos rfl

theorem Attended.step (attended : before.Attended)
    (evolves : before.Evolves now move after events) : after.Attended := by
  cases evolves with
  | carries carried =>
      exact ⟨carried.attended_caller attended, carried.attended_worker attended⟩
  | works stepped =>
      refine ⟨attended.caller, fun active => ?_⟩
      rw [(Crew.step_runners stepped).2]
      exact attended.worker active
  | drops =>
      refine ⟨fun moves => ?_, fun active => nomatch before.release_active.symm.trans active⟩
      rw [release_state] at moves ⊢
      obtain ⟨caller, attends⟩ := attended.caller moves
      exact ⟨caller, (stage?_congr before.release_callers caller).trans attends⟩

theorem run?_attended (name : String) (policy : Policy) (reporter : Reporter)
    (ran : (make name policy reporter).run? moves = some (accumulator, events)) :
    accumulator.Attended :=
  (follow?_induction (fun accumulator => accumulator.Settled ∧ accumulator.Attended)
    (fun _ _ _ => True)
    (fun ⟨settled, attended⟩ stepped =>
      ⟨settled.step stepped, attended.step (settled.orderly.step_evolves stepped)⟩)
    (fun _ => trivial) (fun _ _ _ _ => trivial)
    ⟨settled_make name policy reporter, attended_make name policy reporter⟩ ran).1.2

/-! ### What the state tells -/

/-- The state agrees with the calls under way, the active worker and the permissions. -/
structure Coherent (accumulator : Accumulator M) : Prop where
  starting : accumulator.state = .starting ↔ ∃! id, accumulator.stage? id = some .starting
  stopping : accumulator.state = .stopping ↔ ∃! id, accumulator.stage? id = some .stopping
  running : accumulator.dropped = false → (accumulator.state = .running ↔
    ∃ worker, accumulator.active = some worker ∧ accumulator.crew.allows worker = true)
  stopped : accumulator.state = .stopped →
    accumulator.active = none ∧ ∀ id, accumulator.stage? id = none
  starters : ∀ id, accumulator.stage? id = some .starting → accumulator.calls[id]? = some .start
  stoppers : ∀ id, accumulator.stage? id = some .stopping →
    accumulator.calls[id]? = some .stop ∨ accumulator.calls[id]? = some .shutdown
  permitted : ∀ worker, accumulator.crew.allows worker = true → accumulator.state = .running ∧
    ∀ other, accumulator.crew.allows other = true → other = worker

/-- A start or a stop is under way exactly if a single caller is in the middle of it. -/
theorem Orderly.state_iff (orderly : accumulator.Orderly) (attended : accumulator.Attended)
    {stage : RunState} (moves : stage = .starting ∨ stage = .stopping) :
    accumulator.state = stage ↔ ∃! id, accumulator.stage? id = some stage := by
  constructor
  · rintro rfl
    obtain ⟨caller, attends⟩ := attended.caller moves
    exact ⟨caller, attends, fun other staged => orderly.single attends (by simp [staged])⟩
  · rintro ⟨caller, attends, _⟩
    exact orderly.staged attends

theorem Fitting.calls_of_stage (fitting : accumulator.Fitting) {stage : RunState}
    (staged : accumulator.stage? id = some stage) :
    (stage = .starting → accumulator.calls[id]? = some .start) ∧
      (stage = .stopping →
        accumulator.calls[id]? = some .stop ∨ accumulator.calls[id]? = some .shutdown) := by
  obtain ⟨⟨call, point⟩, found, there⟩ := Option.bind_eq_some_iff.mp staged
  have fits := fitting id _ found
  have called : accumulator.calls[id]? = some call := by rw [calls, List.getElem?_map, found]; rfl
  rw [called]
  cases point with
  | acquiring | startingSink | startingSource | rollingBack =>
      cases there
      refine ⟨fun _ => congrArg some fits, fun other => ?_⟩
      cases other
  | stoppingSink | stoppingSource =>
      cases there
      refine ⟨fun other => ?_, fun _ => fits.imp (congrArg some) (congrArg some)⟩
      cases other
  | joining | returned => cases there

theorem Settled.coherent (settled : accumulator.Settled) (attended : accumulator.Attended) :
    accumulator.Coherent where
  starting := settled.orderly.state_iff attended (.inl rfl)
  stopping := settled.orderly.state_iff attended (.inr rfl)
  running kept := by
    constructor
    · intro running
      obtain ⟨worker, active⟩ :=
        Option.ne_none_iff_exists'.mp (settled.orderly.manned running kept)
      exact ⟨worker, active, attended.worker active⟩
    · rintro ⟨worker, active, _⟩
      exact settled.orderly.spanning active
  stopped stopped :=
    ⟨settled.orderly.inactive (by simp [stopped]), settled.orderly.unstaged (.inl stopped)⟩
  starters _ staged := (settled.fitting.calls_of_stage staged).1 rfl
  stoppers _ staged := (settled.fitting.calls_of_stage staged).2 rfl
  permitted worker allowed := by
    have active := settled.orderly.permitted allowed
    refine ⟨settled.orderly.spanning active, fun other also => ?_⟩
    exact Option.some.inj ((settled.orderly.permitted also).symm.trans active)

/-! ### Permission once withdrawn -/

theorem Evolves.withdrawn (evolves : before.Evolves now move after events)
    (within : worker < before.hired) (withdrawn : before.crew.allows worker = false) :
    worker < after.hired ∧ after.crew.allows worker = false := by
  cases evolves with
  | carries carried =>
      rcases carried.crew_cases with ⟨runners, _⟩ | ⟨other, crew, _⟩ | ⟨now, _, crew, _⟩
      · rw [hired, Crew.allows, Crew.runner?, runners]
        exact ⟨within, withdrawn⟩
      · rw [hired, crew, Crew.withdraw_runners_length, Crew.allows_withdraw, withdrawn, ite_self]
        exact ⟨within, rfl⟩
      · have different : worker ≠ (before.crew.markStarted now).runners.length :=
          Nat.ne_of_lt within
        rw [hired, crew, Crew.hire_runners_length, Crew.allows_hire, if_neg different]
        exact ⟨Nat.lt_succ_of_lt within, withdrawn⟩
  | works stepped =>
      obtain ⟨length, allows⟩ := Crew.step_runners stepped
      exact ⟨Nat.lt_of_lt_of_eq within length.symm, (allows worker).trans withdrawn⟩
  | drops =>
      refine ⟨before.release_hired ▸ within, ?_⟩
      unfold release
      split
      · rw [Crew.allows_withdraw, withdrawn, ite_self]
      · exact withdrawn

theorem run?_withdrawn (orderly : start.Orderly) (ran : start.run? moves = some (last, events))
    (within : worker < start.hired) (withdrawn : start.crew.allows worker = false) :
    last.crew.allows worker = false := by
  have followed := run?_induction
    (fun start _ last => worker < start.hired → start.crew.allows worker = false →
      last.crew.allows worker = false)
    (fun _ withdrawn => withdrawn) ?_ orderly ran
  · exact followed within withdrawn
  · intro now move state next seen last more orderly evolves rest within withdrawn
    obtain ⟨still, stays⟩ := evolves.withdrawn within withdrawn
    exact rest still stays

/-! ### Calls that are refused -/

/-- A refused call leaves nothing behind but the caller that has returned. -/
theorem step_refused {action : String} (kept : accumulator.dropped = false)
    (refuses : accumulator.state.Refuses call action) (now : Nat) :
    accumulator.step now (.begin call) =
      some ({ accumulator with
          callers := accumulator.callers ++
            [⟨call, .returned (.error (.invalidState action accumulator.state))⟩] },
        [.returned accumulator.callers.length
          (.error (.invalidState action accumulator.state))]) := by
  have refused : (accumulator.enroll call).refuse accumulator.callers.length action =
      ({ accumulator with
          callers := accumulator.callers ++
            [⟨call, .returned (.error (.invalidState action accumulator.state))⟩] },
        [.returned accumulator.callers.length
          (.error (.invalidState action accumulator.state))]) := by
    simp [refuse, giveBack, moveTo, enroll, List.modify_eq_take_drop]
  have began : accumulator.step now (.begin call) = some (accumulator.beginCall call) := by
    simp [step, kept]
  rw [began, ← refused]
  generalize state : accumulator.state = found at refuses
  cases refuses with
  | start busy => simp only [beginCall, beginStart, state, if_neg busy, enroll]
  | stop => simp only [beginCall, beginStop, afterStop, refuse, state, enroll]
  | setPolicy busy => simp only [beginCall, changePolicy, state, if_neg busy, enroll]

theorem Departs.life {placed : Accumulator M} {joins : Bool} {result : Except Failure Unit}
    (departed : placed.Departs id joins result after events) :
    after.life = placed.life ∧ after.policy = placed.policy ∧
      ∀ caller request, .requested caller request ∉ events := by
  cases departed with
  | returns | waits => exact ⟨rfl, rfl, by simp⟩
  | collects =>
      refine ⟨rfl, rfl, fun caller request asked => ?_⟩
      rcases List.mem_append.mp asked with early | last
      · obtain ⟨notice, told⟩ := joinNotices_logged early
        cases told
      · cases List.mem_singleton.mp last

/-- A shutdown in the middle of a start has its stop refused, and only joins. -/
theorem step_shutdown_starting (starting : accumulator.state = .starting)
    (stepped : accumulator.step now (.begin .shutdown) = some (after, events)) :
    after.life = accumulator.life ∧ after.policy = accumulator.policy ∧
      ∀ caller request, .requested caller request ∉ events := by
  have began : (accumulator.enroll .shutdown).join accumulator.callers.length
      (.error (.invalidState "stop" .starting)) = (after, events) := by
    simp only [step] at stepped
    split at stepped
    · cases stepped
    · simpa only [beginCall, beginStop, afterStop, starting, enroll, Option.some.injEq]
        using stepped
  have departed := join_departs (accumulator.enroll .shutdown) accumulator.callers.length
    (.error (.invalidState "stop" .starting))
  rw [began] at departed
  exact departed.life

/-- Whichever calls overlap and whatever the collaborators answer: the state agrees with the
calls under way, the active worker and the permissions, it only goes on to the state that
follows, and a permission that was withdrawn is never given back.  A call that the state
refuses returns at once, asks nothing of the collaborators and changes nothing. -/
theorem run_states_coherent (name : String) (policy : Policy) (reporter : Reporter)
    {reached : Accumulator M}
    (ran : (make name policy reporter).run? moves = some (reached, events)) :
    reached.Coherent ∧
    (∀ now move next seen, reached.step now move = some (next, seen) →
      next.state = reached.state ∨ reached.state.Passes next.state) ∧
    (∀ more last seen, reached.run? more = some (last, seen) → ∀ worker < reached.hired,
      reached.crew.allows worker = false → last.crew.allows worker = false) ∧
    (reached.dropped = false → ∀ call action, reached.state.Refuses call action → ∀ now,
      reached.step now (.begin call) =
        some ({ reached with
            callers := reached.callers ++
              [⟨call, .returned (.error (.invalidState action reached.state))⟩] },
          [.returned reached.callers.length
            (.error (.invalidState action reached.state))])) ∧
    (reached.state = .starting → ∀ now next seen,
      reached.step now (.begin .shutdown) = some (next, seen) →
        next.life = reached.life ∧ next.policy = reached.policy ∧
          ∀ caller request, .requested caller request ∉ seen) := by
  have settled := run?_settled name policy reporter ran
  have attended := run?_attended name policy reporter ran
  refine ⟨settled.coherent attended, ?_, ?_, ?_, ?_⟩
  · intro now move next seen stepped
    exact (settled.orderly.step_evolves stepped).passes settled.orderly
  · intro more last seen continued worker within withdrawn
    exact run?_withdrawn settled.orderly continued within withdrawn
  · intro kept call action refuses now
    exact step_refused kept refuses now
  · intro starting now next seen stepped
    exact step_shutdown_starting starting stepped

/-- A start that fails, and two spans of which the second still runs. -/
def twoSpans : List (Nat × Move Nat) :=
  [(0, .begin .start), (0, .answer 0 (.error (.startup "refused"))),
    (1, .begin .start), (1, .answer 1 (.ok ())), (1, .answer 1 (.ok ())), (1, .answer 1 (.ok ())),
    (2, .begin .stop), (2, .begin .start), (2, .answer 2 (.ok ())), (3, .answer 2 (.ok ())),
    (4, .begin .start), (4, .answer 4 (.ok ())), (4, .answer 4 (.ok ())), (4, .answer 4 (.ok ()))]

/-- The second span is being stopped while another stop and a change of policy come in. -/
def secondStop : List (Nat × Move Nat) :=
  [(5, .begin .shutdown), (6, .begin (.setPolicy ⟨3, none, 50⟩)), (6, .begin .stop),
    (7, .answer 5 (.ok ()))]

theorem run_states_coherent_of_two_spans :
    ∃ (reached last : Accumulator Nat) (events seen : List (Event Nat)),
      (make "pair" ⟨2, none, 50⟩ (.logging "pair")).run? twoSpans = some (reached, events) ∧
      reached.state = .running ∧ reached.crew.allows 1 = true ∧
      (∀ other, reached.crew.allows other = true → other = 1) ∧
      reached.step 5 (.begin .start) =
        some ({ reached with
            callers := reached.callers ++
              [⟨.start, .returned (.error (.invalidState "start" reached.state))⟩] },
          [.returned 5 (.error (.invalidState "start" reached.state))]) ∧
      reached.run? secondStop = some (last, seen) ∧ last.crew.allows 0 = false ∧
      last.state = .stopping ∧ ∃! id, last.stage? id = some .stopping := by
  obtain ⟨reached, last, events, seen, all, ran, continued, whole, running, allowed, barred, kept,
      hired, count, stopping⟩ :
      ∃ (reached last : Accumulator Nat) (events seen all : List (Event Nat)),
        (make "pair" ⟨2, none, 50⟩ (.logging "pair")).run? twoSpans = some (reached, events) ∧
        reached.run? secondStop = some (last, seen) ∧
        (make "pair" ⟨2, none, 50⟩ (.logging "pair")).run? (twoSpans ++ secondStop) =
          some (last, all) ∧
        reached.state = .running ∧ reached.crew.allows 1 = true ∧
        reached.crew.allows 0 = false ∧ reached.dropped = false ∧ 0 < reached.hired ∧
        reached.callers.length = 5 ∧ last.state = .stopping :=
    ⟨_, _, _, _, _, rfl, rfl, rfl, rfl, rfl, rfl, rfl, Nat.zero_lt_succ 1, rfl, rfl⟩
  obtain ⟨coherent, _, withdrawn, refused, _⟩ := run_states_coherent _ _ _ ran
  obtain ⟨after, _⟩ := run_states_coherent _ _ _ whole
  refine ⟨reached, last, events, seen, ran, running, allowed, (coherent.permitted 1 allowed).2,
    ?_, continued, withdrawn _ _ _ continued 0 hired barred, stopping,
    after.stopping.mp stopping⟩
  have busy : reached.state ≠ .stopped := by simp [running]
  exact count ▸ refused kept .start "start" (.start busy) 5

end Accumulator

end Batching

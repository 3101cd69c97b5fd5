import Batching.Proofs.Joining
import Batching.Proofs.Withdrawal

namespace Batching

/-! Quiet after a shutdown.

A worker passes the cycle lock on its way out, and from then on nobody hired before it can
be inside a call.  So a shutdown that waits for the latest worker waits for all of them,
those of earlier spans included.
-/

variable {M : Type}

namespace Crew

variable {crew next : Crew M} {id : Nat} {runner : Runner M} {events : List (Event M)}

theorem awaitOf?_eq_none_of_gone {worker : Nat} (ended : crew.gone worker = true) :
    crew.awaitOf? worker = none := by
  cases found : crew.runner? worker with
  | none => rw [awaitOf?, found]; rfl
  | some runner =>
      rw [gone, found, Option.all_some] at ended
      refine awaitOf?_eq_none_of_stood found ?_
      unfold Runner.gone at ended
      split at ended
      · rename_i stood
        rw [stood]
        rfl
      · rename_i stood
        rw [stood]
        rfl
      · cases ended

theorem Steps.awaits_of_ne {other : Nat} (steps : crew.Steps id runner next events)
    (different : other ≠ id) : next.awaitOf? other = crew.awaitOf? other := by
  obtain ⟨standing, pipeline, lock, rfl⟩ := steps.stands
  exact awaitOf?_stand_of_ne different

/-- Without permission a runner is not inside a call once it has been resumed. -/
theorem Steps.rests_of_withdrawn (found : crew.runner? id = some runner)
    (steps : crew.Steps id runner next events) (withdrawn : runner.allowed = false) :
    next.awaitOf? id = none := by
  cases steps with
  | asks idle waits =>
      rw [awaitOf?_stand_self (by exact found)]
      exact rests_of_waits waits
  | settles _ opens =>
      obtain ⟨result, ended⟩ := opens.ended_of_withdrawn withdrawn
      obtain ⟨standing, told, settled, rests, _⟩ := settle_of_ended crew id runner ended
      rw [settled, awaitOf?_stand_self (by exact found)]
      exact rests
  | leaves => exact awaitOf?_stand_self (by exact found)

/-- A runner is over only after it has had the lock. -/
theorem Steps.holds_of_gone (orderly : crew.Orderly) (found : crew.runner? id = some runner)
    (steps : crew.Steps id runner next events) (ended : next.gone id = true) :
    crew.lock.holder = some id := by
  cases steps with
  | asks idle waits =>
      have there : (crew.request id).runner? id = some runner := found
      rw [gone, runner?_stand, if_pos rfl, there] at ended
      rcases waits with rfl | ⟨rfl, _⟩ <;> cases ended
  | settles _ opens => exact opens.holds orderly found
  | leaves _ holds => exact holds

end Crew

namespace Accumulator

variable {before after start last : Accumulator M} {now id worker : Nat} {move : Move M}
  {events : List (Event M)} {moves : List (Nat × Move M)}

/-- Each worker is the last to be inside a call when it leaves. -/
structure Succession (accumulator : Accumulator M) : Prop where
  active : ∀ {worker : Nat}, accumulator.active = some worker → worker + 1 = accumulator.hired
  quiet : ∀ {worker : Nat}, worker + 1 = accumulator.hired →
    accumulator.crew.gone worker = true → ∀ id, accumulator.crew.awaitOf? id = none

theorem succession_make (name : String) (policy : Policy) (reporter : Reporter) :
    (make name policy reporter : Accumulator M).Succession where
  active active := by simp [make] at active
  quiet _ _ _ := rfl

theorem Succession.congr (succession : before.Succession)
    (active : ∀ worker, after.active = some worker → before.active = some worker)
    (hired : after.hired = before.hired)
    (gone : ∀ worker, after.crew.gone worker = before.crew.gone worker)
    (awaits : ∀ other, after.crew.awaitOf? other = before.crew.awaitOf? other) :
    after.Succession where
  active is := hired ▸ succession.active (active _ is)
  quiet count ended id := by
    rw [awaits]
    exact succession.quiet (count.trans hired) ((gone _).symm.trans ended) id

theorem Succession.carries (succession : before.Succession)
    (carried : before.Carries id after events) : after.Succession := by
  have awaits := carried.calls_kept.2
  rcases carried.crew_cases with ⟨runners, active⟩ | ⟨worker, crew, active⟩ | ⟨now, _, crew, active⟩
  · exact succession.congr (fun _ is => active.symm.trans is) (congrArg List.length runners)
      (Crew.gone_congr runners) awaits
  · refine succession.congr (fun other is => ?_) ?_ ?_ awaits
    · rw [active] at is
      cases is
    · rw [hired, crew]
      exact Crew.withdraw_runners_length before.crew worker
    · rw [crew]
      exact Crew.gone_withdraw before.crew worker
  · have hired : after.hired = before.hired + 1 := by
      rw [Accumulator.hired, crew]
      exact Crew.hire_runners_length (before.crew.markStarted now) ..
    have fresh : after.crew.gone before.hired = false := by
      rw [crew]
      exact Crew.gone_hire_last (before.crew.markStarted now) ..
    refine ⟨fun is => ?_, fun {worker} count ended => ?_⟩
    · cases active.symm.trans is
      exact hired.symm
    · obtain rfl : worker = before.hired := by omega
      rw [fresh] at ended
      cases ended

theorem Succession.works {cue : Cue M} {crew : Crew M} (succession : before.Succession)
    (orderly : before.Orderly) (stepped : before.crew.step now id cue = some (crew, events)) :
    ({ before with crew } : Accumulator M).Succession := by
  have hired : crew.runners.length = before.crew.runners.length := (Crew.step_runners stepped).1
  obtain ⟨runner, found, steps⟩ := Crew.step_cases stepped
  refine ⟨fun is => (succession.active is).trans hired.symm, fun {worker} count ended other => ?_⟩
  have latest : worker + 1 = before.hired := count.trans hired
  by_cases left : before.crew.gone worker = true
  · -- The latest worker was over already: whoever is resumed now has no permission.
    have quiet := succession.quiet latest left
    by_cases same : other = id
    · subst other
      refine steps.rests_of_withdrawn found ?_
      cases permission : runner.allowed with
      | false => rfl
      | true =>
          have active := orderly.permitted ((Crew.allows_of_found found).trans permission)
          have count := succession.active active
          obtain rfl : id = worker := by omega
          rw [Crew.gone, found, Option.all_some, steps.present] at left
          cases left
    · exact (steps.awaits_of_ne same).trans (quiet other)
  · -- It leaves in this step, with the lock in its hands.
    have same : worker = id := Decidable.byContradiction fun different => by
      obtain ⟨standing, pipeline, lock, rfl⟩ := steps.stands
      rw [Crew.gone_stand_of_ne different] at ended
      exact left ended
    subst worker
    by_cases same : other = id
    · subst other
      exact Crew.awaitOf?_eq_none_of_gone ended
    · have holds := steps.holds_of_gone orderly.crew found ended
      exact (steps.awaits_of_ne same).trans (orderly.crew.alone holds same)

theorem Succession.step (succession : before.Succession) (orderly : before.Orderly)
    (evolves : before.Evolves now move after events) : after.Succession := by
  cases evolves with
  | carries carried => exact succession.carries carried
  | works stepped => exact succession.works orderly stepped
  | drops =>
      exact succession.congr (fun _ is => nomatch before.release_active.symm.trans is)
        before.release_hired before.release_gone before.release_calls_kept.2

/-! ### A shutdown on its own -/

theorem Evolves.hired_eq (orderly : before.Orderly)
    (evolves : before.Evolves now move after events) (settled : before.state ≠ .starting) :
    after.hired = before.hired := by
  cases evolves with
  | carries carried =>
      rcases carried.crew_cases with ⟨runners, _⟩ | ⟨worker, crew, _⟩ | ⟨_, staged, _⟩
      · exact congrArg List.length runners
      · rw [hired, crew]
        exact Crew.withdraw_runners_length before.crew worker
      · exact absurd (orderly.staged staged) settled
  | works stepped => exact (Crew.step_runners stepped).1
  | drops => exact before.release_hired

/-- Caller `id` shuts the accumulator down: no other caller joins, and since the stop was
accepted no start has been. -/
structure Closing (accumulator : Accumulator M) (id worker : Nat) : Prop where
  settled : accumulator.Settled
  succession : accumulator.Succession
  latest : worker + 1 = accumulator.hired
  called : accumulator.calls[id]? = some .shutdown
  sole : ∀ {other : Nat} {call : Call}, other ≠ id → accumulator.calls[other]? = some call →
    call.joins = true → ∃ result, accumulator.result? other = some result
  stops : accumulator.state = .stopped ∨ accumulator.stage? id = some .stopping
  attends : accumulator.hasJoined id = false ∨ accumulator.Attends id worker

theorem Fitting.joining (fitting : before.Fitting) (waits : before.joins? id = some worker) :
    ∃ call result, before.callers[id]? = some ⟨call, .joining worker result⟩ ∧
      call.joins = true := by
  obtain ⟨⟨call, point⟩, found, given⟩ := Option.bind_eq_some_iff.mp waits
  have fits := fitting id _ found
  cases point with
  | joining => cases given; exact ⟨call, _, found, fits⟩
  | _ => cases given

theorem Fitting.hasJoined (fitting : before.Fitting) (waits : before.joins? id = some worker) :
    before.hasJoined id = true := by
  obtain ⟨call, result, found, joins⟩ := fitting.joining waits
  rw [Accumulator.hasJoined, found, Option.any_some, joins]
  rfl

theorem Closing.alone (closing : before.Closing id worker) {other awaited : Nat}
    (different : other ≠ id) : before.joins? other ≠ some awaited := by
  intro waits
  obtain ⟨call, outcome, found, joins⟩ := closing.settled.fitting.joining waits
  have called : before.calls[other]? = some call := by rw [calls, List.getElem?_map, found]; rfl
  obtain ⟨result, returned⟩ := closing.sole different called joins
  rw [joins?_of_result? returned] at waits
  cases waits

theorem Closing.unstarted (closing : before.Closing id worker) : before.state ≠ .starting := by
  rcases closing.stops with stopped | staged
  · simp [stopped]
  · simp [closing.settled.orderly.staged staged]

theorem Closing.attends_step (closing : before.Closing id worker)
    (stepped : before.step now move = some (after, events)) :
    after.hasJoined id = false ∨ after.Attends id worker := by
  have orderly := closing.settled.orderly
  have acts := orderly.step_acts stepped
  rcases closing.attends with unjoined | attends
  · cases joined : after.hasJoined id with
    | false => exact .inl rfl
    | true =>
        obtain ⟨placed, approached⟩ :=
          acts.join_begins closing.settled.fitting ⟨unjoined, joined⟩
        refine .inr (approached.attends closing.settled closing.latest (.inr fun other => ?_))
        by_cases same : other = id
        · subst other
          intro waits
          exact nomatch unjoined.symm.trans (closing.settled.fitting.hasJoined waits)
        · exact closing.alone same
  · have within : worker < before.hired := by
      have count := closing.latest
      omega
    exact .inr (attends.step acts.tends ((orderly.step_evolves stepped).gone within))

theorem Closing.step (closing : before.Closing id worker)
    (stepped : before.step now move = some (after, events))
    (sole : ∀ call, move = .begin call → call.joins = false)
    (unstarted : ∀ name, .logged (.starting name) ∉ events) : after.Closing id worker := by
  have orderly := closing.settled.orderly
  have evolves := orderly.step_evolves stepped
  have gathers := (orderly.step_acts stepped).gathers
  refine
    { settled := closing.settled.step stepped
      succession := closing.succession.step orderly evolves
      latest := closing.latest.trans (evolves.hired_eq orderly closing.unstarted).symm
      called := gathers.calls_on closing.called
      sole := fun {other call} different called joins => ?_
      stops := ?_
      attends := closing.attends_step stepped }
  · rcases gathers.calls_back called with earlier | began
    · obtain ⟨result, returned⟩ := closing.sole different earlier joins
      exact ⟨result, gathers.result?_kept returned⟩
    · exact nomatch (sole call began).symm.trans joins
  · rcases closing.stops with stopped | staged
    · exact .inl (evolves.stays_stopped orderly unstarted stopped)
    · rcases evolves.stops_on orderly staged with stopped | ⟨stays, _⟩
      · exact .inl stopped
      · exact .inr stays

theorem run?_closing (ran : start.run? moves = some (last, events))
    (sole : ∀ time call, (time, .begin call) ∈ moves → call.joins = false)
    (unstarted : ∀ name, .logged (.starting name) ∉ events) (closing : start.Closing id worker) :
    last.Closing id worker := by
  refine follow?_carries [] (fun past (accumulator : Accumulator M) =>
    (∀ name, .logged (.starting name) ∉ past) → accumulator.Closing id worker)
    (fun made closes stepped unstarted => ?_) (fun _ => closing) ran unstarted
  have closing := closes fun name early => unstarted name (List.mem_append_left _ early)
  refine closing.step stepped (fun call begins => ?_)
    (fun name late => unstarted name (List.mem_append_right _ late))
  subst begins
  exact sole _ call made

theorem Enters.stops_running
    (entered : (before.enroll .shutdown).Enters before.callers.length .shutdown after events)
    (running : before.state = .running) :
    after.stage? before.callers.length = some .stopping ∧
      after.hasJoined before.callers.length = false := by
  have found := enroll_found before .shutdown
  cases entered with
  | refused called => rcases called with same | ⟨policy, same⟩ <;> cases same
  | adopts called | starts called => cases called
  | departs called =>
      rcases called with same | ⟨_, idle⟩
      · cases same
      · exact absurd running idle
  | stops =>
      rw [stage?_moveTo, hasJoined_moveTo, if_pos rfl, if_pos rfl]
      simp only [found]
      exact ⟨rfl, rfl⟩

theorem Settled.closing (settled : before.Settled) (succession : before.Succession)
    (running : before.state = .running)
    (stepped : before.step now (.begin .shutdown) = some (after, events))
    (returned : ∀ (other : Nat) (caller : Caller), before.callers[other]? = some caller →
      caller.call.joins = true → caller.result?.isSome = true) :
    ∃ worker, after.Closing before.callers.length worker := by
  have evolves := settled.orderly.step_evolves stepped
  have acts := settled.orderly.step_acts stepped
  have kept := acts.gathers
  cases acts with
  | enters undropped entered =>
      obtain ⟨worker, active⟩ :=
        Option.ne_none_iff_exists'.mp (settled.orderly.manned running undropped)
      obtain ⟨staged, unjoined⟩ := entered.stops_running running
      obtain ⟨point, callers⟩ := entered.callers
      have calls : after.calls = before.calls ++ [.shutdown] := by
        rw [calls, callers, List.map_append]
        rfl
      have count : before.calls.length = before.callers.length := List.length_map ..
      refine ⟨worker,
        { settled := settled.step stepped
          succession := succession.step settled.orderly evolves
          latest := ?_
          called := ?_
          sole := fun {other call} different called joins => ?_
          stops := .inr staged
          attends := .inl unjoined }⟩
      · rw [evolves.hired_eq settled.orderly (by simp [running])]
        exact succession.active active
      · rw [calls, List.getElem?_append_right (by omega), count, Nat.sub_self]
        rfl
      · rw [calls, List.getElem?_append] at called
        split at called
        · obtain ⟨caller, found, rfl⟩ := Option.map_eq_some_iff.mp (List.getElem?_map .. ▸ called)
          obtain ⟨result, given⟩ := Option.isSome_iff_exists.mp (returned other caller found joins)
          refine ⟨result, kept.result?_kept ?_⟩
          rw [result?, found]
          exact given
        · rw [List.getElem?_singleton, if_neg (by omega)] at called
          cases called

/-- The shutdown that has returned has stopped the accumulator and waited for the worker. -/
theorem Closing.quiet (closing : before.Closing id worker) {result : Except Failure Unit}
    (returned : before.result? id = some result) :
    before.state = .stopped ∧ before.crew.gone worker = true := by
  obtain ⟨⟨call, point⟩, found, given⟩ := Option.bind_eq_some_iff.mp returned
  have called := closing.called
  rw [calls, List.getElem?_map, found] at called
  cases called
  constructor
  · rcases closing.stops with stopped | staged
    · exact stopped
    · rw [stage?, found] at staged
      cases point with
      | returned => cases staged
      | _ => cases given
  · rcases closing.attends with unjoined | waits | gone
    · rw [hasJoined, found] at unjoined
      cases point with
      | returned => cases unjoined
      | _ => cases given
    · rw [joins?_of_result? returned] at waits
      cases waits
    · exact gone

/-! ### Until the next start -/

theorem run?_stays_stopped (orderly : start.Orderly)
    (ran : start.run? moves = some (last, events))
    (unstarted : ∀ name, .logged (.starting name) ∉ events) (stopped : start.state = .stopped) :
    ∀ event ∈ events, event.caller? = none := by
  have followed := run?_induction
    (fun start events _ => (∀ name, .logged (.starting name) ∉ events) →
      start.state = .stopped → ∀ event ∈ events, event.caller? = none)
    (fun _ _ => List.forall_mem_nil _) ?_ orderly ran
  · exact followed unstarted stopped
  · intro now move state next seen last more orderly evolves rest unstarted stopped event member
    have early := fun name inside => unstarted name (List.mem_append_left more inside)
    have late := fun name inside => unstarted name (List.mem_append_right seen inside)
    rcases List.mem_append.mp member with here | later
    · cases begins : event.caller? with
      | none => rfl
      | some worker =>
          have permitted := evolves.caller here begins
          have inactive := orderly.inactive (by simp [stopped])
          exact nomatch (orderly.withdrawn inactive worker).symm.trans permitted
    · exact rest late (evolves.stays_stopped orderly early stopped) event later

theorem run?_succession (name : String) (policy : Policy) (reporter : Reporter)
    (ran : (make name policy reporter).run? moves = some (last, events)) : last.Succession :=
  (follow?_induction (fun state => Orderly state ∧ Succession state) (fun _ _ _ => True)
    (fun ⟨orderly, succession⟩ stepped =>
      ⟨orderly.step stepped, succession.step orderly (orderly.step_evolves stepped)⟩)
    (fun _ => trivial) (fun _ _ _ _ => trivial)
    ⟨orderly_make name policy reporter, succession_make name policy reporter⟩ ran).1.2

/-- A shutdown that stops a running accumulator leaves it quiet when it returns, if no other
caller joins a worker meanwhile and no start is accepted: no worker of this or an earlier span
is inside a call of the source or of the sink, the batch is empty, and no such call begins
before the next start is accepted. -/
theorem quiet_after_shutdown (name : String) (policy : Policy) (reporter : Reporter)
    {earlier more : List (Nat × Move M)} {reached entered last : Accumulator M}
    {seen events after : List (Event M)} {result : Except Failure Unit}
    (ran : (make name policy reporter).run? earlier = some (reached, seen))
    (running : reached.state = .running)
    (stepped : reached.step now (.begin .shutdown) = some (entered, events))
    (returned : ∀ (other : Nat) (caller : Caller), reached.callers[other]? = some caller →
      caller.call.joins = true → caller.result?.isSome = true)
    (continued : entered.run? more = some (last, after))
    (sole : ∀ time call, (time, .begin call) ∈ more → call.joins = false)
    (unstarted : ∀ name, .logged (.starting name) ∉ after)
    (ended : last.result? reached.callers.length = some result) :
    (∀ worker, last.crew.awaitOf? worker = none) ∧ last.state = .stopped ∧ last.pending = 0 ∧
      ∀ (later : List (Nat × Move M)) (final : Accumulator M) (shown : List (Event M)),
        last.run? later = some (final, shown) → (∀ name, .logged (.starting name) ∉ shown) →
          ∀ event ∈ shown, event.caller? = none := by
  have settled := run?_settled name policy reporter ran
  have succession := run?_succession name policy reporter ran
  obtain ⟨worker, begun⟩ := settled.closing succession running stepped returned
  have closing := run?_closing continued sole unstarted begun
  have orderly := closing.settled.orderly
  obtain ⟨stopped, gone⟩ := closing.quiet ended
  refine ⟨closing.succession.quiet closing.latest gone, stopped,
    List.length_eq_zero_iff.mpr (orderly.still (.inl stopped)), ?_⟩
  intro later final shown followed quiet
  exact run?_stays_stopped orderly followed quiet stopped

/-- The worker of the first span is inside a call of the source when the second span starts. -/
def detachedWorker : List (Nat × Move Nat) :=
  [(0, .begin .start), (0, .answer 0 (.ok ())), (0, .answer 0 (.ok ())), (0, .answer 0 (.ok ())),
    (0, .worker 0 .resume), (0, .worker 0 .resume), (5, .begin .stop), (5, .answer 1 (.ok ())),
    (5, .answer 1 (.ok ())), (6, .begin .start), (6, .answer 2 (.ok ())),
    (6, .answer 2 (.ok ())), (6, .answer 2 (.ok ()))]

/-- The second worker leaves only after the call of the first one. -/
def leftInTurn : List (Nat × Move Nat) :=
  [(7, .answer 3 (.ok ())), (7, .answer 3 (.ok ())), (7, .worker 1 .resume),
    (9, .worker 0 (.received (.returned (some 7)))), (9, .worker 1 .resume), (9, .joined 3)]

def leftInTurnSeen : List (Event Nat) :=
  [.answered 3 .stopSink (.ok ()), .requested 3 .stopSource, .answered 3 .stopSource (.ok ()),
    .logged (.stopped "pair"), .logged (.workerStarted "pair"),
    .receiveEnded 0 1 (.returned (some 7)), .logged (.messageDropped "pair" 1 0),
    .logged (.cycleComplete "pair" 1 0 0 .stopped), .cycleEnded 0 (.ok ⟨1, 0, 0, .stopped⟩),
    .granted 1, .logged (.workerExited "pair" 0), .finished 1, .returned 3 (.ok ())]

theorem quiet_after_shutdown_of_detached :
    ∃ (reached entered last : Accumulator Nat) (seen events : List (Event Nat)),
      (make "pair" ⟨2, none, 50⟩ (.logging "pair")).run? detachedWorker = some (reached, seen) ∧
      (reached.crew.awaitOf? 0).isSome = true ∧
      reached.step 7 (.begin .shutdown) = some (entered, events) ∧
      entered.run? leftInTurn = some (last, leftInTurnSeen) ∧ last.isGone 0 = false ∧
      (∀ worker, last.crew.awaitOf? worker = none) ∧ last.state = .stopped ∧
      last.pending = 0 := by
  obtain ⟨reached, entered, last, seen, events, ran, inside, running, stepped, called, count,
      continued, ended, detached⟩ :
      ∃ (reached entered last : Accumulator Nat) (seen events : List (Event Nat)),
        (make "pair" ⟨2, none, 50⟩ (.logging "pair")).run? detachedWorker =
          some (reached, seen) ∧
        (reached.crew.awaitOf? 0).isSome = true ∧ reached.state = .running ∧
        reached.step 7 (.begin .shutdown) = some (entered, events) ∧
        reached.calls = [.start, .stop, .start] ∧ reached.callers.length = 3 ∧
        entered.run? leftInTurn = some (last, leftInTurnSeen) ∧
        last.result? 3 = some (.ok ()) ∧ last.isGone 0 = false :=
    ⟨_, _, _, _, _, rfl, rfl, rfl, rfl, rfl, rfl, rfl, rfl, rfl⟩
  have unjoined : ∀ (other : Nat) (caller : Caller), reached.callers[other]? = some caller →
      caller.call.joins = true → caller.result?.isSome = true := by
    intro other caller found joins
    have made : caller.call ∈ reached.calls := List.mem_map_of_mem (List.mem_of_getElem? found)
    rw [called] at made
    cases call : caller.call <;> simp_all [Call.joins]
  have quiet := quiet_after_shutdown _ _ _ ran running stepped unjoined continued
    (fun time call member => by simp [leftInTurn] at member)
    (fun name started => by simp [leftInTurnSeen] at started) (count ▸ ended)
  exact ⟨reached, entered, last, seen, events, ran, inside, stepped, continued, detached, quiet.1,
    quiet.2.1, quiet.2.2.1⟩

end Accumulator

end Batching

import Batching.Proofs.Journal
import Batching.Proofs.LockLine
import Batching.Proofs.RunStates

namespace Batching

/-! How cycles end, and what is told of it.

A cycle of a worker ends in one of two ways: it is told to be complete, or its failure is
reported.  Either carries the number of the cycle, so the numbers of all ends, together with
that of the cycle in progress, are the numbers that the counter has given out.
-/

variable {M : Type}

def Event.report? : Event M → Option CycleFailure
  | .reported failure => some failure
  | _ => none

/-- The number of the cycle that ends here. -/
def Event.closes? : Event M → Option Nat
  | .logged notice => notice.completed?
  | .reported failure => some failure.cycle
  | _ => none

theorem Event.silent_of_isOfCall {event : Event M} (call : event.isOfCall = true) :
    event.report? = none ∧ event.closes? = none := by
  cases event with
  | reported => cases call
  | logged notice =>
      cases notice with
      | cycleComplete => cases call
      | _ => exact ⟨rfl, rfl⟩
  | _ => exact ⟨rfl, rfl⟩

/-- The failures that the reporter was told of, in order. -/
def handled (events : List (Event M)) : List CycleFailure :=
  events.filterMap Event.report?

/-- The numbers of the cycles that have ended, in the order of their ends. -/
def closings (events : List (Event M)) : List Nat :=
  events.filterMap Event.closes?

section

variable {first rest events : List (Event M)}

theorem handled_append : handled (first ++ rest) = handled first ++ handled rest :=
  List.filterMap_append

theorem closings_append : closings (first ++ rest) = closings first ++ closings rest :=
  List.filterMap_append

theorem closings_notices (notices : List Notice) :
    closings (notices.map (Event.logged (M := M))) = notices.filterMap Notice.completed? := by
  simp [closings, List.filterMap_map, Function.comp_def, Event.closes?]

theorem handled_notices (notices : List Notice) :
    handled (notices.map (Event.logged (M := M))) = [] := by
  simp [handled, Event.report?]

theorem handled_cycles_sublist (events : List (Event M)) :
    ((handled events).map CycleFailure.cycle).Sublist (closings events) := by
  induction events with
  | nil => exact .slnil
  | cons event rest ih =>
      cases event with
      | reported failure => exact ih.cons_cons failure.cycle
      | logged notice =>
          have unreported : handled (.logged notice :: rest) = handled rest := rfl
          cases completed : notice.completed? with
          | none => simpa [unreported, closings, Event.closes?, completed] using ih
          | some number =>
              simpa [unreported, closings, Event.closes?, completed] using ih.cons number
      | _ => exact ih

end

/-! ### The turn that ends a cycle -/

def Turn.failure? (turn : Turn M) : Option CycleFailure :=
  match turn.progress with
  | .ended (.error failure) => some failure
  | _ => none

theorem Turn.failure?_eq_some_iff {turn : Turn M} {failure : CycleFailure} :
    turn.failure? = some failure ↔ turn.progress = .ended (.error failure) := by
  unfold Turn.failure?
  split
  · rename_i other ended
    simp [ended]
  · rename_i unfailed
    simp only [reduceCtorEq, false_iff]
    exact unfailed failure

def Turn.await? (turn : Turn M) : Option (Await M) :=
  match turn.progress with
  | .awaits await => some await
  | .ended _ => none

/-- A turn of the cycle of that number, which tells of the end of no other. -/
inductive Turn.Concerns (number : Nat) : Turn M → Prop where
  | awaits {pipeline : Pipeline M} {await : Await M} {notices : List Notice}
      (same : await.cycle = number) (silent : notices.filterMap Notice.completed? = []) :
      Concerns number ⟨pipeline, .awaits await, notices⟩
  | completes {pipeline : Pipeline M} {report : CycleReport} {notices : List Notice}
      (closed : notices.filterMap Notice.completed? = [number]) :
      Concerns number ⟨pipeline, .ended (.ok report), notices⟩
  | fails {pipeline : Pipeline M} {failure : CycleFailure} {notices : List Notice}
      (same : failure.cycle = number) (silent : notices.filterMap Notice.completed? = []) :
      Concerns number ⟨pipeline, .ended (.error failure), notices⟩

namespace Pipeline

variable {pipeline : Pipeline M} {allowed : Bool} {cycle : Nat} {turn : Turn M}

theorem Continues.concerns (continues : pipeline.Continues allowed cycle turn) :
    turn.Concerns cycle ∧ turn.failure? = none ∧
      turn.pipeline.counters.failedCycles = pipeline.counters.failedCycles := by
  cases continues with
  | calls _ number _ _ silent => exact ⟨.awaits number silent, rfl, rfl⟩
  | completes number _ _ closed => exact ⟨.completes (number ▸ closed), rfl, rfl⟩

theorem noteReceived_failed (pipeline : Pipeline M) (allowed : Bool) (answer : Option M) :
    (pipeline.noteReceived allowed answer).counters.failedCycles =
      pipeline.counters.failedCycles := by
  cases answer with
  | none => rfl
  | some message => cases allowed <;> rfl

end Pipeline

namespace Crew

variable {crew next : Crew M} {id : Nat} {runner : Runner M} {past events : List (Event M)}
  {reporter : Reporter}

def underway? (crew : Crew M) : Option Nat :=
  crew.current?.map fun (_, await) => await.cycle

/-- A stretch belongs to the cycle in progress, or begins the next. -/
theorem Opens.concerns {opening : List (Event M)} {turn : Turn M} (orderly : crew.Orderly)
    (found : crew.runner? id = some runner) (opens : crew.Opens id runner opening turn) :
    ∃ number, crew.turn? = some (id, number) ∧ turn.Concerns number ∧
      turn.pipeline.counters.failedCycles =
        crew.pipeline.counters.failedCycles + turn.failure?.toList.length ∧
      ((crew.underway? = none ∧ number = crew.pipeline.counters.cycles + 1 ∧
          turn.pipeline.counters.cycles = crew.pipeline.counters.cycles + 1) ∨
        crew.underway? = some number ∧
          turn.pipeline.counters.cycles = crew.pipeline.counters.cycles) := by
  have current {await : Await M} (stood : runner.standing = .awaiting await) :
      crew.turn? = some (id, await.cycle) ∧ crew.underway? = some await.cycle := by
    have inside := orderly.current? (awaitOf?_eq_some_of_stood found stood)
    exact ⟨turn?_of_current inside, by rw [underway?, inside]; rfl⟩
  cases opens with
  | begins stood holds continues =>
      obtain ⟨concerns, free, failed⟩ := continues.concerns
      have rests := current?_eq_none_of_stood found holds (by rw [stood]; rfl)
      have turn := turn?_of_queued holds (stood ▸ standing?_of_found found)
      refine ⟨_, turn, concerns, by rw [failed, free]; rfl,
        .inl ⟨by rw [underway?, rests]; rfl, rfl, ?_⟩⟩
      rw [continues.cycles]
      rfl
  | receives stood continues =>
      obtain ⟨concerns, free, failed⟩ := continues.concerns
      refine ⟨_, (current stood).1, concerns, ?_, .inr ⟨(current stood).2, ?_⟩⟩
      · rw [failed, free, Pipeline.noteReceived_failed]
        rfl
      · rw [continues.cycles, Pipeline.noteReceived_cycles]
  | processes stood continues =>
      obtain ⟨concerns, free, failed⟩ := continues.concerns
      refine ⟨_, (current stood).1, concerns, ?_, .inr ⟨(current stood).2, ?_⟩⟩
      · rw [failed, free]
        rfl
      · rw [continues.cycles]
        rfl
  | receiveFails stood | processFails stood =>
      exact ⟨_, (current stood).1, .fails rfl (Pipeline.abandon_notices_interim ..), rfl,
        .inr ⟨(current stood).2, rfl⟩⟩

theorem report_told (reporter : Reporter) (failure : CycleFailure) :
    handled (M := M) (.reported failure :: (reporter.notices failure).map Event.logged) =
        [failure] ∧
      closings (M := M) (.reported failure :: (reporter.notices failure).map Event.logged) =
        [failure.cycle] := by
  cases reporter <;> exact ⟨rfl, rfl⟩

/-- What the end of a cycle tells besides the end itself. -/
theorem Concludes.told {result : Except CycleFailure CycleReport} {standing : Standing M}
    {told : List (Event M)} (concludes : crew.Concludes id runner result standing told)
    (repeats : runner.repeats = true) :
    (∀ report, result = .ok report → told = []) ∧
      ∀ failure, result = .error failure →
        handled told = [failure] ∧ closings told = [failure.cycle] := by
  cases concludes with
  | exits single => simp [repeats] at single
  | pauses => exact ⟨fun _ _ => rfl, nofun⟩
  | @reports failure =>
      refine ⟨nofun, fun _ same => ?_⟩
      cases same
      exact report_told crew.reporter failure
  | @crashes failure =>
      refine ⟨nofun, fun _ same => ?_⟩
      cases same
      obtain ⟨reported, closed⟩ := report_told (M := M) crew.reporter failure
      rw [handled_append, closings_append, reported, closed]
      exact ⟨rfl, rfl⟩

theorem release_told (crew : Crew M) :
    handled crew.release.2 = [] ∧ closings crew.release.2 = [] := by
  cases given : crew.lock.release.holder <;>
    simp [release, given, handled, closings, Event.report?, Event.closes?]

theorem await_told (await : Await M) (id : Nat) :
    handled [await.event id] = [] ∧ closings [await.event id] = [] := by
  cases await <;> exact ⟨rfl, rfl⟩

/-- A turn of a worker tells of the end of its cycle, if it ends it, and of no other. -/
theorem settle_told (crew : Crew M) (id : Nat) {turn : Turn M} {number : Nat}
    (repeats : runner.repeats = true) (concerns : turn.Concerns number) :
    handled (crew.settle id runner turn).2 = turn.failure?.toList ∧
      closings (crew.settle id runner turn).2 ++ turn.await?.toList.map Await.cycle =
        [number] := by
  cases concerns with
  | @awaits pipeline await notices same silent =>
      obtain ⟨unreported, interim⟩ := await_told await id
      rw [settle_of_awaits rfl, handled_append, closings_append, handled_notices,
        closings_notices, unreported, interim, silent]
      exact ⟨rfl, congrArg (fun cycle => [cycle]) same⟩
  | @completes pipeline report notices closed =>
      have ended : (⟨pipeline, .ended (.ok report), notices⟩ : Turn M).progress =
          .ended (.ok report) := rfl
      obtain ⟨standing, told, concludes, settled⟩ := settle_concludes crew id runner ended
      obtain ⟨unreported, interim⟩ := release_told crew
      have silent := (concludes.told repeats).1 report rfl
      rw [settled, handled_append, closings_append, handled_notices, closings_notices, closed,
        silent, List.append_nil]
      exact ⟨unreported, congrArg (fun rest => [number] ++ rest ++ []) interim⟩
  | @fails pipeline failure notices same silent =>
      have ended : (⟨pipeline, .ended (.error failure), notices⟩ : Turn M).progress =
          .ended (.error failure) := rfl
      obtain ⟨standing, told, concludes, settled⟩ := settle_concludes crew id runner ended
      obtain ⟨unreported, interim⟩ := release_told crew
      obtain ⟨reported, closed⟩ := (concludes.told repeats).2 failure rfl
      have handles : handled (crew.release.2 ++ told) = [failure] := by
        rw [handled_append, unreported, reported]
        rfl
      have closes : closings (crew.release.2 ++ told) = [number] := by
        rw [closings_append, interim, closed, same]
        rfl
      rw [settled, handled_append, closings_append, handled_notices, closings_notices, silent]
      exact ⟨handles, congrArg (fun rest => rest ++ []) closes⟩

theorem underway?_settle {opening : List (Event M)} {turn : Turn M} (orderly : crew.Orderly)
    (found : crew.runner? id = some runner) (opens : crew.Opens id runner opening turn) :
    (crew.settle id runner turn).1.underway? = turn.await?.map Await.cycle := by
  have holds := opens.holds orderly found
  cases went : turn.progress with
  | awaits await =>
      simp [underway?, (orderly.of_settle_awaits found holds went).2, Turn.await?, went]
  | ended result =>
      have rests := (orderly.of_settle_ended runner holds went (opens.drained went)).2
      simp [underway?, rests, Turn.await?, went]

theorem Opens.opening_told {opening : List (Event M)} {turn : Turn M}
    (opens : crew.Opens id runner opening turn) : handled opening = [] ∧ closings opening = [] := by
  cases opens <;> exact ⟨rfl, rfl⟩

/-! ### The count of the cycles -/

/-- The numbers given out are those of the cycles that have ended and of the one in progress;
the failed ones are those that were reported. -/
structure Counted (crew : Crew M) (past : List (Event M)) : Prop where
  numbered : closings past ++ crew.underway?.toList = List.range' 1 crew.pipeline.counters.cycles
  failed : crew.pipeline.counters.failedCycles = (handled past).length

theorem Counted.silent (counted : crew.Counted past) (current : next.current? = crew.current?)
    (cycles : next.pipeline.counters.cycles = crew.pipeline.counters.cycles)
    (failed : next.pipeline.counters.failedCycles = crew.pipeline.counters.failedCycles)
    (told : handled events = [] ∧ closings events = []) : next.Counted (past ++ events) where
  numbered := by
    rw [closings_append, told.2, List.append_nil, underway?, current, cycles]
    exact counted.numbered
  failed := by rw [failed, handled_append, told.1, List.append_nil, counted.failed]

theorem Counted.settles {opening : List (Event M)} {turn : Turn M} (counted : crew.Counted past)
    (orderly : crew.Orderly) (found : crew.runner? id = some runner)
    (repeats : runner.repeats = true) (opens : crew.Opens id runner opening turn) :
    (crew.settle id runner turn).1.Counted
      (past ++ (opening ++ (crew.settle id runner turn).2)) := by
  obtain ⟨number, _, concerns, failed, which⟩ := opens.concerns orderly found
  obtain ⟨reported, closed⟩ := crew.settle_told id repeats concerns
  obtain ⟨unreported, interim⟩ := opens.opening_told
  -- A cycle that begins takes the next number; one that goes on has the last one given out.
  have numbers : closings past ++ [number] = List.range' 1 turn.pipeline.counters.cycles := by
    have numbered := counted.numbered
    rcases which with ⟨none, next, cycles⟩ | ⟨same, cycles⟩
    · rw [none, Option.toList_none, List.append_nil] at numbered
      rw [numbered, cycles, next, List.range'_1_concat, Nat.add_comm 1]
    · rw [same] at numbered
      rw [cycles]
      exact numbered
  constructor
  · rw [pipeline_settle, ← numbers, closings_append, closings_append, interim, List.nil_append,
      List.append_assoc, underway?_settle orderly found opens]
    cases next : turn.await? <;> simp [next] at closed ⊢ <;> exact closed
  · rw [pipeline_settle, failed, counted.failed, handled_append, handled_append, unreported,
      reported]
    simp

theorem Counted.step {now : Nat} {cue : Cue M} (counted : crew.Counted past)
    (orderly : crew.Orderly)
    (repeats : ∀ runner, crew.runner? id = some runner → runner.repeats = true)
    (stepped : crew.step now id cue = some (next, events)) : next.Counted (past ++ events) := by
  obtain ⟨runner, found, steps⟩ := step_cases stepped
  cases steps with
  | asks idle waits told =>
      refine counted.silent (current?_request_stand orderly found (rested_of_idle idle)
        (rests_of_waits waits)) rfl rfl ?_
      rcases told with rfl | rfl <;> exact ⟨rfl, rfl⟩
  | leaves stood holds =>
      have rests := current?_eq_none_of_stood found holds (by rw [stood]; rfl)
      refine counted.silent ((orderly.of_leaves holds).2.trans rests.symm) rfl rfl ?_
      obtain ⟨unreported, interim⟩ := release_told crew.cleared
      rw [leave_events, handled_append, closings_append, unreported, interim]
      exact ⟨rfl, rfl⟩
  | settles _ opens => exact counted.settles orderly found (repeats runner found) opens

end Crew

/-! ### What ends a worker -/

/-- A worker leaves only without permission, and otherwise only a reporter that panics can
end it. -/
structure Runner.Lasts (runner : Runner M) (reporter : Reporter) : Prop where
  repeats : runner.repeats = true
  left : runner.standing = .leaving ∨ runner.standing = .exited → runner.allowed = false
  crashed : runner.standing = .crashed → ∃ failure, reporter.panics failure = true

namespace Crew

variable {crew next : Crew M} {id : Nat} {runner : Runner M} {events : List (Event M)}
  {reporter : Reporter}

structure Lasting (crew : Crew M) (reporter : Reporter) : Prop where
  told : crew.reporter = reporter
  lasts : ∀ {id : Nat} {runner : Runner M}, crew.runner? id = some runner → runner.Lasts reporter

theorem Lasting.stand {standing : Standing M} (lasting : crew.Lasting reporter)
    (found : crew.runner? id = some runner) (pipeline : Pipeline M) (lock : FairLock)
    (lasts : ({ runner with standing } : Runner M).Lasts reporter) :
    ({ crew with pipeline, lock }.stand id standing).Lasting reporter where
  told := lasting.told
  lasts {other held} there := by
    have here : ({ crew with pipeline, lock } : Crew M).runner? id = some runner := found
    rw [runner?_stand, here] at there
    split at there
    · cases there
      exact lasts
    · exact lasting.lasts there

theorem Concludes.lasts {result : Except CycleFailure CycleReport} {standing : Standing M}
    {told : List (Event M)} (concludes : crew.Concludes id runner result standing told)
    (lasts : runner.Lasts crew.reporter) :
    ({ runner with standing } : Runner M).Lasts crew.reporter := by
  refine ⟨lasts.repeats, fun finished => ?_, fun crashed => ?_⟩
  · cases concludes with
    | exits single => cases lasts.repeats.symm.trans single
    | pauses | reports | crashes => rcases finished with left | left <;> cases left
  · cases concludes with
    | exits | pauses | reports => cases crashed
    | crashes _ panics => exact ⟨_, panics⟩

theorem Lasting.step {now : Nat} {cue : Cue M} (lasting : crew.Lasting reporter)
    (stepped : crew.step now id cue = some (next, events)) : next.Lasting reporter := by
  obtain ⟨runner, found, steps⟩ := step_cases stepped
  have lasts := lasting.lasts found
  cases steps with
  | asks _ waits =>
      refine lasting.stand found _ _ ⟨lasts.repeats, fun finished => ?_, fun crashed => ?_⟩
      · rcases waits with rfl | ⟨rfl, withdrawn⟩
        · rcases finished with left | left <;> cases left
        · exact withdrawn
      · rcases waits with rfl | ⟨rfl, _⟩ <;> cases crashed
  | leaves stood =>
      exact lasting.stand found _ _ ⟨lasts.repeats, fun _ => lasts.left (.inl stood), by simp⟩
  | @settles _ turn _ =>
      cases went : turn.progress with
      | awaits await =>
          rw [settle_of_awaits went]
          exact lasting.stand found _ _ ⟨lasts.repeats, by simp, by simp⟩
      | ended result =>
          obtain ⟨standing, told, concludes, settled⟩ := settle_concludes crew id runner went
          rw [settled]
          exact lasting.stand found _ _ (lasting.told ▸ concludes.lasts (lasting.told ▸ lasts))

theorem Lasting.congr (lasting : crew.Lasting reporter) (runners : next.runners = crew.runners)
    (told : next.reporter = crew.reporter) : next.Lasting reporter where
  told := told.trans lasting.told
  lasts found := lasting.lasts (by rwa [runner?, ← runners])

theorem Lasting.withdraw (lasting : crew.Lasting reporter) (id : Nat) :
    (crew.withdraw id).Lasting reporter where
  told := lasting.told
  lasts {other held} found := by
    rw [runner?_withdraw] at found
    split at found
    · obtain ⟨runner, there, rfl⟩ := Option.map_eq_some_iff.mp found
      obtain ⟨repeats, _, crashed⟩ := lasting.lasts there
      exact ⟨repeats, fun _ => rfl, crashed⟩
    · exact lasting.lasts found

theorem Lasting.hire (lasting : crew.Lasting reporter) (policy : Policy) :
    (crew.hire policy true).Lasting reporter where
  told := lasting.told
  lasts {other held} found := by
    rw [runner?_hire] at found
    split at found
    · cases found
      exact ⟨rfl, by simp, by simp⟩
    · exact lasting.lasts found

end Crew

namespace Accumulator

variable {before after start last : Accumulator M} {now id : Nat} {move : Move M}
  {events past : List (Event M)} {moves : List (Nat × Move M)} {reporter : Reporter}

theorem Carries.told (carried : before.Carries id after events) :
    handled events = [] ∧ closings events = [] := by
  have silent {event : Event M} (member : event ∈ events) :
      event.report? = none ∧ event.closes? = none :=
    Event.silent_of_isOfCall (carried.isOfCall member)
  exact ⟨List.filterMap_eq_nil_iff.mpr fun _ member => (silent member).1,
    List.filterMap_eq_nil_iff.mpr fun _ member => (silent member).2⟩

theorem Carries.keeps (carried : before.Carries id after events) :
    before.crew.Keeps after.crew := by
  cases carried with
  | passes _ _ life | starts _ _ life | fails _ _ life | finishes _ _ life =>
      rw [show after.crew = _ from congrArg Life.crew life]
      exact .refl_of_runners rfl rfl rfl rfl rfl
  | launches now _ _ life =>
      rw [show after.crew = _ from congrArg Life.crew life]
      exact ⟨rfl, rfl, rfl, rfl, (Crew.keeps_hire (before.crew.markStarted now) _ _).stands⟩
  | stops _ _ _ life =>
      rw [show after.crew = _ from congrArg Life.crew life]
      exact Crew.keeps_withdraw ..

theorem release_keeps (accumulator : Accumulator M) :
    accumulator.crew.Keeps accumulator.release.crew := by
  unfold release
  split
  · exact Crew.keeps_withdraw ..
  · exact .refl_of_runners rfl rfl rfl rfl rfl

theorem Carries.lasting (carried : before.Carries id after events)
    (lasting : before.crew.Lasting reporter) : after.crew.Lasting reporter := by
  rcases carried.crew_cases with ⟨runners, _⟩ | ⟨worker, crew, _⟩ | ⟨now, _, crew, _⟩
  · exact lasting.congr runners carried.keeps.reporter
  · exact crew ▸ lasting.withdraw worker
  · have marked : (before.crew.markStarted now).Lasting reporter := lasting.congr rfl rfl
    exact crew ▸ marked.hire before.policy

theorem release_lasting (lasting : before.crew.Lasting reporter) :
    before.release.crew.Lasting reporter := by
  unfold release
  split
  · exact lasting.withdraw _
  · exact lasting

/-- Everything that holds of the accumulator and its workers between two moves. -/
structure Sound (accumulator : Accumulator M) (reporter : Reporter) : Prop where
  settled : accumulator.Settled
  attended : accumulator.Attended
  lined : accumulator.crew.Lined
  lasting : accumulator.crew.Lasting reporter

theorem sound_make (name : String) (policy : Policy) (reporter : Reporter) :
    (make name policy reporter : Accumulator M).Sound reporter where
  settled := settled_make name policy reporter
  attended := attended_make name policy reporter
  lined := Crew.lined_make name reporter
  lasting := ⟨rfl, by simp [make, Crew.make, Crew.runner?]⟩

theorem Sound.step (sound : before.Sound reporter)
    (stepped : before.step now move = some (after, events)) : after.Sound reporter := by
  have evolves := sound.settled.orderly.step_evolves stepped
  refine ⟨sound.settled.step stepped, sound.attended.step evolves, ?_, ?_⟩
  · cases evolves with
    | carries carried => exact carried.keeps.lined sound.lined
    | works resumed => exact sound.lined.step sound.settled.orderly.crew resumed
    | drops => exact before.release_keeps.lined sound.lined
  · cases evolves with
    | carries carried => exact carried.lasting sound.lasting
    | works resumed => exact sound.lasting.step resumed
    | drops => exact release_lasting sound.lasting

theorem Sound.run? (sound : start.Sound reporter)
    (ran : start.run? moves = some (last, events)) : last.Sound reporter :=
  (follow?_induction (Sound · reporter) (fun _ _ _ => True)
    (fun sound stepped => sound.step stepped) (fun _ => trivial) (fun _ _ _ _ => trivial)
    sound ran).1

theorem Sound.counted_step (sound : before.Sound reporter) (counted : before.crew.Counted past)
    (stepped : before.step now move = some (after, events)) :
    after.crew.Counted (past ++ events) := by
  cases sound.settled.orderly.step_evolves stepped with
  | carries carried =>
      exact counted.silent carried.current? carried.keeps.cycles carried.keeps.failed carried.told
  | works resumed =>
      exact counted.step sound.settled.orderly.crew
        (fun runner found => (sound.lasting.lasts found).repeats) resumed
  | drops =>
      exact counted.silent before.release_current? before.release_keeps.cycles
        before.release_keeps.failed ⟨rfl, rfl⟩

theorem Sound.counted_run (sound : start.Sound reporter) (counted : start.crew.Counted past)
    (ran : start.run? moves = some (last, events)) : last.crew.Counted (past ++ events) := by
  refine (follow?_carries past
    (fun past accumulator => accumulator.Sound reporter ∧ accumulator.crew.Counted past)
    (fun _ ⟨sound, counted⟩ stepped => ?_) ⟨sound, counted⟩ ran).2
  exact ⟨sound.step stepped, sound.counted_step counted stepped⟩

end Accumulator

end Batching

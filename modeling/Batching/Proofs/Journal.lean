import Batching.Proofs.Permission

namespace Batching

/-! The journal of the calls of the source and the sink.

Read without everything else that happens, a history is a sequence of blocks, one for each
cycle.  A block holds the calls that one runner makes in that cycle: first those of the
source, then those of the sink, each of which ends before the next begins.  The call of the
cycle in progress comes last, and its block is the last.
-/

variable {M : Type}

def Event.isExchange : Event M → Bool
  | .receiveBegan _ _ _ | .receiveEnded _ _ _ => true
  | .processBegan _ _ _ | .processEnded _ _ _ _ => true
  | _ => false

/-- The beginnings and the ends of the calls of the source and the sink, in order. -/
def journal (events : List (Event M)) : List (Event M) :=
  events.filter Event.isExchange

def Await.isReceive : Await M → Bool
  | .receive _ _ _ _ => true
  | .process _ _ _ _ _ => false

/-- The calls of one cycle that have ended: of the source with their timeout, of the sink
with their message, and each with its outcome. -/
structure Block (M : Type) where
  runner : Nat
  cycle : Nat
  receives : List (Nat × Outcome (Option M)) := []
  processes : List (M × Outcome Unit) := []

namespace Block

def received (block : Block M) : List (Event M) :=
  block.receives.flatMap fun (timeout, outcome) =>
    [.receiveBegan block.runner block.cycle timeout,
      .receiveEnded block.runner block.cycle outcome]

def processed (block : Block M) : List (Event M) :=
  block.processes.flatMap fun (message, outcome) =>
    [.processBegan block.runner block.cycle message,
      .processEnded block.runner block.cycle message outcome]

def events (block : Block M) : List (Event M) :=
  block.received ++ block.processed

/-- The call that runner `id` waits for is the next of the block. -/
structure Runs (block : Block M) (id : Nat) (await : Await M) : Prop where
  runner : block.runner = id
  cycle : block.cycle = await.cycle
  phase : await.isReceive = true → block.processes = []

def addReceive (block : Block M) (timeout : Nat) (outcome : Outcome (Option M)) : Block M :=
  { block with receives := block.receives ++ [(timeout, outcome)] }

def addProcess (block : Block M) (message : M) (outcome : Outcome Unit) : Block M :=
  { block with processes := block.processes ++ [(message, outcome)] }

theorem events_addReceive {block : Block M} {timeout : Nat} {outcome : Outcome (Option M)}
    (filling : block.processes = []) :
    (block.addReceive timeout outcome).events =
      block.events ++ [.receiveBegan block.runner block.cycle timeout,
        .receiveEnded block.runner block.cycle outcome] := by
  simp [events, received, processed, addReceive, filling]

theorem events_addProcess (block : Block M) (message : M) (outcome : Outcome Unit) :
    (block.addProcess message outcome).events =
      block.events ++ [.processBegan block.runner block.cycle message,
        .processEnded block.runner block.cycle message outcome] := by
  simp [events, received, processed, addProcess]

end Block

section

variable {first rest events : List (Event M)}

theorem journal_append : journal (first ++ rest) = journal first ++ journal rest :=
  List.filter_append ..

theorem journal_of_aftermath (aftermath : events.all Event.isAftermath = true) :
    journal events = [] := by
  refine List.filter_eq_nil_iff.mpr fun event member => ?_
  have follows := List.all_eq_true.mp aftermath event member
  cases event <;> simp_all [Event.isAftermath, Event.isExchange]

theorem journal_notices (notices : List Notice) :
    journal (notices.map (Event.logged (M := M))) = [] := by
  simp [journal, List.filter_eq_nil_iff, Event.isExchange]

end

theorem journal_await (id : Nat) (await : Await M) :
    journal [await.event id] = [await.event id] := by
  cases await <;> rfl

/-! ### From the sink back to the source -/

namespace Pipeline

variable {pipeline : Pipeline M} {await : Await M}

theorem drain_calls_sink {allowed : Bool} {cycle received dispatched : Nat} {reason : FillExit}
    (awaits : (pipeline.drain allowed cycle received reason dispatched).progress =
      .awaits await) : await.isReceive = false := by
  unfold drain at awaits
  split at awaits
  · cases awaits
    rfl
  · split at awaits
    · cases awaits
    · simp only [dropBatch] at awaits
      split at awaits <;> cases awaits

/-- Once a cycle has called the sink it does not go back to the source. -/
theorem processed_calls_sink {allowed : Bool} {cycle received dispatched : Nat}
    {reason : FillExit} {outcome : Outcome Unit}
    (awaits : (pipeline.processed allowed cycle received reason dispatched outcome).progress =
      .awaits await) : await.isReceive = false := by
  unfold processed at awaits
  split at awaits
  · cases awaits
  · exact drain_calls_sink awaits

/-! ### The number of a cycle -/

theorem Continues.cycles {allowed : Bool} {cycle : Nat} {turn : Turn M}
    (continues : pipeline.Continues allowed cycle turn) :
    turn.pipeline.counters.cycles = pipeline.counters.cycles := by
  cases continues <;> rfl

theorem noteReceived_cycles (pipeline : Pipeline M) (allowed : Bool) (answer : Option M) :
    (pipeline.noteReceived allowed answer).counters.cycles = pipeline.counters.cycles := by
  cases answer with
  | none => rfl
  | some message => cases allowed <;> rfl

end Pipeline

namespace Crew

variable {crew next : Crew M} {id : Nat} {runner : Runner M} {past : List (Event M)}
  {blocks : List (Block M)}

theorem drains_on {now : Nat} {cue : Cue M} {events : List (Event M)} {await later : Await M}
    (stepped : crew.step now id cue = some (next, events))
    (waits : crew.awaitOf? id = some await) (draining : await.isReceive = false)
    (goes : next.awaitOf? id = some later) : later.isReceive = false := by
  obtain ⟨runner, found, stood⟩ := Option.bind_eq_some_iff.mp waits
  cases await with
  | receive => cases draining
  | process cycle received reason dispatched message =>
      cases standing : runner.standing <;> rw [standing] at stood <;> cases stood
      rw [step, found] at stepped
      cases cue with
      | resume | received => simp [standing] at stepped
      | processed outcome =>
          simp only [standing, Option.some.injEq, Prod.mk.injEq] at stepped
          obtain ⟨rfl, -⟩ := stepped
          cases went : (crew.pipeline.processed runner.allowed cycle received reason dispatched
              outcome).progress with
          | awaits call =>
              rw [settle_of_awaits went, awaitOf?_stand_self (by exact found)] at goes
              cases goes
              exact Pipeline.processed_calls_sink went
          | ended result =>
              obtain ⟨standing, told, settled, free, _⟩ :=
                settle_of_ended crew id runner went
              rw [settled, awaitOf?_stand_self (by exact found), free] at goes
              cases goes

/-! ### What has been recorded -/

/-- The beginning of the call that is in progress. -/
def inFlight (crew : Crew M) : List (Event M) :=
  crew.current?.toList.map fun (id, await) => await.event id

theorem inFlight_of_current {await : Await M} (current : crew.current? = some (id, await)) :
    crew.inFlight = [await.event id] := by
  simp [inFlight, current]

theorem inFlight_of_rest (rests : crew.current? = none) : crew.inFlight = [] := by
  simp [inFlight, rests]

/-- The journal so far in blocks, the last of which is that of the cycle in progress. -/
structure Recorded (crew : Crew M) (blocks : List (Block M)) (past : List (Event M)) :
    Prop where
  numbered : blocks.map Block.cycle = List.range' 1 crew.pipeline.counters.cycles
  written : past = blocks.flatMap Block.events ++ crew.inFlight
  inside : ∀ {id : Nat} {await : Await M}, crew.current? = some (id, await) →
    ∃ earlier block, blocks = earlier ++ [block] ∧ block.Runs id await

theorem Recorded.congr (recorded : crew.Recorded blocks past)
    (current : next.current? = crew.current?)
    (cycles : next.pipeline.counters.cycles = crew.pipeline.counters.cycles) :
    next.Recorded blocks past where
  numbered := by rw [cycles, recorded.numbered]
  written := by rw [inFlight, current, recorded.written, inFlight]
  inside found := recorded.inside (current ▸ found)

/-- A cycle that begins opens a block. -/
theorem Recorded.opens (recorded : crew.Recorded blocks past) (rests : crew.current? = none)
    (cycles : next.pipeline.counters.cycles = crew.pipeline.counters.cycles + 1)
    (inside : ∀ {caller : Nat} {await : Await M}, next.current? = some (caller, await) →
      caller = id ∧ await.cycle = crew.pipeline.counters.cycles + 1) :
    next.Recorded (blocks ++ [⟨id, crew.pipeline.counters.cycles + 1, [], []⟩])
      (past ++ next.inFlight) where
  numbered := by
    rw [List.map_append, recorded.numbered, cycles, List.range'_1_concat, Nat.add_comm 1]
    rfl
  written := by
    rw [recorded.written, inFlight_of_rest rests, List.flatMap_append]
    simp [Block.events, Block.received, Block.processed]
  inside found := by
    obtain ⟨rfl, number⟩ := inside found
    exact ⟨blocks, _, rfl, rfl, number.symm, fun _ => rfl⟩

/-- A call that ends joins the calls of its block. -/
theorem Recorded.extends {earlier : List (Block M)} {block grown : Block M}
    {opening : List (Event M)} (recorded : crew.Recorded (earlier ++ [block]) past)
    (number : grown.cycle = block.cycle)
    (told : grown.events = block.events ++ (crew.inFlight ++ opening))
    (cycles : next.pipeline.counters.cycles = crew.pipeline.counters.cycles)
    (inside : ∀ {caller : Nat} {await : Await M},
      next.current? = some (caller, await) → grown.Runs caller await) :
    next.Recorded (earlier ++ [grown]) (past ++ (opening ++ next.inFlight)) where
  numbered := by
    rw [cycles, ← recorded.numbered, List.map_append, List.map_append, List.map_singleton,
      List.map_singleton, number]
  written := by
    rw [recorded.written]
    simp [told]
  inside found := ⟨earlier, grown, rfl, inside found⟩

/-! ### One stretch of a cycle -/

theorem current?_settle {opening : List (Event M)} {turn : Turn M} (orderly : crew.Orderly)
    (found : crew.runner? id = some runner) (opens : crew.Opens id runner opening turn)
    {caller : Nat} {await : Await M}
    (current : (crew.settle id runner turn).1.current? = some (caller, await)) :
    caller = id ∧ turn.progress = .awaits await := by
  have holds := opens.holds orderly found
  cases went : turn.progress with
  | awaits call =>
      rw [(orderly.of_settle_awaits found holds went).2] at current
      cases current
      exact ⟨rfl, rfl⟩
  | ended result =>
      rw [(orderly.of_settle_ended runner holds went (opens.drained went)).2] at current
      cases current

theorem journal_settle {opening : List (Event M)} {turn : Turn M} (orderly : crew.Orderly)
    (found : crew.runner? id = some runner) (opens : crew.Opens id runner opening turn) :
    journal (opening ++ (crew.settle id runner turn).2) =
      opening ++ (crew.settle id runner turn).1.inFlight := by
  have exchanged : journal opening = opening := by cases opens <;> rfl
  have holds := opens.holds orderly found
  rw [journal_append, exchanged]
  cases went : turn.progress with
  | awaits await =>
      rw [inFlight_of_current (orderly.of_settle_awaits found holds went).2,
        settle_of_awaits went, journal_append, journal_notices, journal_await, List.nil_append]
  | ended result =>
      obtain ⟨standing, told, settled, _, aftermath⟩ := settle_of_ended crew id runner went
      rw [inFlight_of_rest
        (orderly.of_settle_ended runner holds went (opens.drained went)).2, settled,
        journal_append, journal_notices, List.nil_append]
      have silent : journal told = [] := journal_of_aftermath aftermath
      exact congrArg (opening ++ ·) silent

theorem Opens.cycles {opening : List (Event M)} {turn : Turn M}
    (opens : crew.Opens id runner opening turn) (waits : runner.standing ≠ .queued) :
    turn.pipeline.counters.cycles = crew.pipeline.counters.cycles := by
  cases opens with
  | begins stood => exact absurd stood waits
  | receives _ continues => rw [continues.cycles, Pipeline.noteReceived_cycles]
  | processes _ continues => rw [continues.cycles]; rfl
  | receiveFails | processFails => rfl

/-- The cycle that goes on after an answer is the one that the answer belongs to. -/
theorem Opens.number {opening : List (Event M)} {turn : Turn M} {await later : Await M}
    (opens : crew.Opens id runner opening turn) (stood : runner.standing = .awaiting await)
    (awaits : turn.progress = .awaits later) : later.cycle = await.cycle := by
  cases opens with
  | begins waits => cases stood.symm.trans waits
  | receives waits continues | processes waits continues =>
      cases stood.symm.trans waits
      cases continues with
      | calls _ number => cases awaits; exact number
      | completes => cases awaits
  | receiveFails | processFails => cases awaits

/-- The answer that a stretch opens with ends the call that its block was waiting for. -/
theorem Opens.grows {opening : List (Event M)} {turn : Turn M} {await : Await M} {block : Block M}
    (opens : crew.Opens id runner opening turn) (stood : runner.standing = .awaiting await)
    (runs : block.Runs id await) :
    ∃ grown : Block M, grown.Runs id await ∧
      grown.events = block.events ++ ([await.event id] ++ opening) := by
  obtain ⟨rfl, number, filling⟩ := runs
  cases opens with
  | begins waits => cases stood.symm.trans waits
  | @receives cycle index deadline timeout answer _ waits =>
      cases stood.symm.trans waits
      refine ⟨block.addReceive timeout (.returned answer), ⟨rfl, number, filling⟩, ?_⟩
      rw [Block.events_addReceive (filling rfl), number]
      rfl
  | @receiveFails cycle index deadline timeout outcome _ waits =>
      cases stood.symm.trans waits
      refine ⟨block.addReceive timeout outcome, ⟨rfl, number, filling⟩, ?_⟩
      rw [Block.events_addReceive (filling rfl), number]
      rfl
  | @processes cycle received dispatched reason message _ waits =>
      cases stood.symm.trans waits
      refine ⟨block.addProcess message (.returned ()), ⟨rfl, number, nofun⟩, ?_⟩
      rw [Block.events_addProcess, number]
      rfl
  | @processFails cycle received dispatched reason message outcome _ waits =>
      cases stood.symm.trans waits
      refine ⟨block.addProcess message outcome, ⟨rfl, number, nofun⟩, ?_⟩
      rw [Block.events_addProcess, number]
      rfl

theorem Recorded.begins {turn : Turn M} (recorded : crew.Recorded blocks past)
    (orderly : crew.Orderly) (found : crew.runner? id = some runner)
    (stood : runner.standing = .queued) (opens : crew.Opens id runner [] turn)
    (continues :
      { crew.pipeline with counters := crew.pipeline.counters.nextCycle }.Continues
        runner.allowed (crew.pipeline.counters.cycles + 1) turn) :
    (crew.settle id runner turn).1.Recorded
      (blocks ++ [⟨id, crew.pipeline.counters.cycles + 1, [], []⟩])
      (past ++ (crew.settle id runner turn).1.inFlight) := by
  have rests := current?_eq_none_of_stood found (opens.holds orderly found) (by rw [stood]; rfl)
  refine recorded.opens rests ?_ fun current => ?_
  · rw [pipeline_settle, continues.cycles]
    rfl
  · obtain ⟨same, awaits⟩ := current?_settle orderly found opens current
    refine ⟨same, ?_⟩
    cases continues with
    | calls _ number => cases awaits; exact number
    | completes => cases awaits

theorem Recorded.goesOn {opening : List (Event M)} {turn : Turn M} {await : Await M}
    (recorded : crew.Recorded blocks past) (orderly : crew.Orderly)
    (found : crew.runner? id = some runner) (stood : runner.standing = .awaiting await)
    (opens : crew.Opens id runner opening turn)
    (drains : ∀ later, await.isReceive = false → turn.progress = .awaits later →
      later.isReceive = false) :
    ∃ blocks, (crew.settle id runner turn).1.Recorded blocks
      (past ++ (opening ++ (crew.settle id runner turn).1.inFlight)) := by
  have current := orderly.current? (awaitOf?_eq_some_of_stood found stood)
  obtain ⟨earlier, block, rfl, runs⟩ := recorded.inside current
  obtain ⟨grown, still, told⟩ := opens.grows stood runs
  refine ⟨earlier ++ [grown], recorded.extends ?_ ?_ ?_ fun {caller later} goes => ?_⟩
  · rw [still.cycle, runs.cycle]
  · rw [inFlight_of_current current, told]
  · rw [pipeline_settle, opens.cycles (by simp [stood])]
  · obtain ⟨rfl, awaits⟩ := current?_settle orderly found opens goes
    refine ⟨still.runner, still.cycle.trans (opens.number stood awaits).symm, fun filling => ?_⟩
    cases phase : await.isReceive with
    | true => exact still.phase phase
    | false => exact nomatch filling.symm.trans (drains later phase awaits)

/-- What a step adds to the journal goes on in the last block or opens the next. -/
theorem Recorded.step {now : Nat} {cue : Cue M} {events : List (Event M)}
    (recorded : crew.Recorded blocks past) (orderly : crew.Orderly)
    (stepped : crew.step now id cue = some (next, events)) :
    ∃ blocks, next.Recorded blocks (past ++ journal events) := by
  obtain ⟨runner, found, steps⟩ := step_cases stepped
  cases steps with
  | asks idle waits told =>
      have silent : journal events = [] := by rcases told with rfl | rfl <;> rfl
      rw [silent, List.append_nil]
      exact ⟨blocks, recorded.congr
        (current?_request_stand orderly found (rested_of_idle idle) (rests_of_waits waits)) rfl⟩
  | leaves stood holds =>
      have silent : journal (crew.leave id).2 = [] := by
        rw [leave_events, journal_append,
          journal_of_aftermath (release_aftermath crew.cleared)]
        rfl
      rw [silent, List.append_nil]
      have rests := current?_eq_none_of_stood found holds (by rw [stood]; rfl)
      exact ⟨blocks, recorded.congr ((orderly.of_leaves holds).2.trans rests.symm) rfl⟩
  | @settles opening turn opens =>
      rw [journal_settle orderly found opens]
      cases standing : runner.standing with
      | awaiting await =>
          refine recorded.goesOn orderly found standing opens fun later draining awaits => ?_
          refine drains_on stepped (awaitOf?_eq_some_of_stood found standing) draining ?_
          rw [settle_of_awaits awaits]
          exact awaitOf?_stand_self (by exact found)
      | queued =>
          cases opens with
          | begins _ holds continues =>
              exact ⟨_, recorded.begins orderly found standing (.begins standing holds continues)
                continues⟩
          | receives stood | receiveFails stood | processes stood | processFails stood =>
              cases standing.symm.trans stood
      | fresh | pausing | leaving | exited | crashed =>
          cases opens with
          | begins stood | receives stood | receiveFails stood | processes stood
          | processFails stood => cases standing.symm.trans stood

end Crew

namespace Accumulator

variable {before after start last : Accumulator M} {id : Nat} {events past : List (Event M)}
  {blocks : List (Block M)} {moves : List (Nat × Move M)}

theorem Carries.journal (carried : before.Carries id after events) : journal events = [] := by
  refine List.filter_eq_nil_iff.mpr fun event member => ?_
  have call := carried.isOfCall member
  cases event with
  | receiveBegan | receiveEnded | processBegan | processEnded => cases call
  | _ => simp [Event.isExchange]

theorem Carries.cycles (carried : before.Carries id after events) :
    after.crew.pipeline.counters.cycles = before.crew.pipeline.counters.cycles := by
  cases carried with
  | passes _ _ life | starts _ _ life | fails _ _ life | launches _ _ _ life
  | stops _ _ _ life | finishes _ _ life =>
      rw [show after.crew = _ from congrArg Life.crew life]
      rfl

theorem Evolves.recorded {now : Nat} {move : Move M} (orderly : before.Orderly)
    (evolves : before.Evolves now move after events)
    (recorded : before.crew.Recorded blocks past) :
    ∃ blocks, after.crew.Recorded blocks (past ++ journal events) := by
  cases evolves with
  | carries carried =>
      rw [carried.journal, List.append_nil]
      exact ⟨blocks, recorded.congr carried.current? carried.cycles⟩
  | works stepped => exact recorded.step orderly.crew stepped
  | drops =>
      refine ⟨blocks, ?_⟩
      rw [Batching.journal, List.filter_nil, List.append_nil]
      refine recorded.congr before.release_current? ?_
      rw [release_pipeline]

theorem run?_recorded (orderly : start.Orderly) (recorded : start.crew.Recorded blocks past)
    (ran : start.run? moves = some (last, events)) :
    ∃ blocks, last.crew.Recorded blocks (past ++ journal events) := by
  have followed := run?_induction
    (fun start events last => ∀ past, (∃ blocks, start.crew.Recorded blocks past) →
      ∃ blocks, last.crew.Recorded blocks (past ++ journal events))
    ?_ ?_ orderly ran
  · exact followed past ⟨blocks, recorded⟩
  · intro state past recorded
    rw [journal, List.filter_nil, List.append_nil]
    exact recorded
  · intro now move state next seen last more orderly evolves rest past ⟨blocks, recorded⟩
    rw [journal_append, ← List.append_assoc]
    exact rest _ (evolves.recorded orderly recorded)

/-- Whatever the owner and the workers do, in whatever order: the calls of the source and the
sink fall into one block for each cycle, in the order of the cycles.  Each block is made by
one worker and has the calls of the source before those of the sink, and every call has
ended before the next begins.  Only the last call may be under way; it belongs to the last
block, and no worker waits for any other. -/
theorem cycles_serialized (name : String) (policy : Policy) (reporter : Reporter)
    (moves : List (Nat × Move M)) {accumulator : Accumulator M}
    (ran : (make name policy reporter).run? moves = some (accumulator, events)) :
    (∃ blocks : List (Block M),
      blocks.map Block.cycle = List.range' 1 accumulator.crew.pipeline.counters.cycles ∧
      journal events = blocks.flatMap Block.events ++ accumulator.crew.inFlight ∧
      ∀ id await, accumulator.crew.current? = some (id, await) →
        ∃ block, blocks.getLast? = some block ∧ block.Runs id await) ∧
    ∀ id await, accumulator.crew.awaitOf? id = some await →
      accumulator.crew.current? = some (id, await) := by
  have orderly := run?_orderly name policy reporter ran
  have nothing : (make name policy reporter : Accumulator M).crew.Recorded [] [] :=
    ⟨rfl, rfl, nofun⟩
  obtain ⟨blocks, recorded⟩ := run?_recorded (orderly_make name policy reporter) nothing ran
  refine ⟨⟨blocks, recorded.numbered, recorded.written, fun id await current => ?_⟩,
    fun id await waits => orderly.crew.current? waits⟩
  obtain ⟨earlier, block, rfl, runs⟩ := recorded.inside current
  exact ⟨block, List.getLast?_concat, runs⟩

/-- A stop and a second start while worker 0 is inside a call of the source, which returns
before worker 1 makes its first call. -/
def secondSpan : List (Nat × Move Nat) :=
  [(0, .begin .start), (0, .answer 0 (.ok ())), (0, .answer 0 (.ok ())), (0, .answer 0 (.ok ())),
    (0, .worker 0 .resume), (0, .worker 0 .resume),
    (5, .begin .stop), (5, .answer 1 (.ok ())), (6, .answer 1 (.ok ())),
    (7, .begin .start), (7, .answer 2 (.ok ())), (7, .answer 2 (.ok ())), (7, .answer 2 (.ok ())),
    (8, .worker 1 .resume), (9, .worker 0 (.received (.returned (some 7)))),
    (9, .worker 1 .resume)]

theorem cycles_serialized_of_second_span :
    ∃ accumulator events, (make "pair" ⟨2, none, 50⟩ (.logging "pair")).run? secondSpan =
        some (accumulator, events) ∧
      journal events = [.receiveBegan 0 1 50, .receiveEnded 0 1 (.returned (some 7)),
        .receiveBegan 1 2 50] ∧
      ∃ blocks : List (Block Nat), blocks.map Block.cycle = [1, 2] ∧
        journal events = blocks.flatMap Block.events ++ [.receiveBegan 1 2 50] := by
  obtain ⟨accumulator, events, ran, told, two, flying⟩ : ∃ accumulator events,
      (make "pair" ⟨2, none, 50⟩ (.logging "pair")).run? secondSpan =
        some (accumulator, events) ∧
      journal events = [.receiveBegan 0 1 50, .receiveEnded 0 1 (.returned (some 7)),
        .receiveBegan 1 2 50] ∧
      accumulator.crew.pipeline.counters.cycles = 2 ∧
      accumulator.crew.inFlight = [.receiveBegan 1 2 50] :=
    ⟨_, _, rfl, rfl, rfl, rfl⟩
  obtain ⟨⟨blocks, numbered, written, _⟩, _⟩ := cycles_serialized _ _ _ _ ran
  refine ⟨accumulator, events, ran, told, blocks, ?_, flying ▸ written⟩
  rw [numbered, two]
  rfl

end Accumulator

end Batching

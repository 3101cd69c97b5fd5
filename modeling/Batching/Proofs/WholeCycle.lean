import Batching.Proofs.FillPhase

namespace Batching

/-! Whole cycles against a source and a sink of which every answer is known.

`Policy.perform` says what one run makes of them: its calls, and its result but for the number
of the cycle.  What a run leaves of the source and the sink is all that the next one finds, so
runs one after the other perform like fresh ones.
-/

variable {M : Type}

namespace Behaviour

variable {sink : Behaviour Unit} {count index : Nat} {cause : Failure}

def failure? (sink : Behaviour Unit) (index : Nat) : Option Failure :=
  match (sink.outcome index).contain with
  | .error cause => some cause
  | .ok () => none

/-- The first failure among the first `count` calls, with its place. -/
def firstFailure? (sink : Behaviour Unit) (count : Nat) : Option (Nat × Failure) :=
  (List.range count).findSome? fun index => (sink.failure? index).map fun cause => (index, cause)

/-- The number of calls that it takes to hand on `count` messages, or to fail. -/
def drainCalls (sink : Behaviour Unit) (count : Nat) : Nat :=
  match sink.firstFailure? count with
  | some (index, _) => index + 1
  | none => count

/-- What becomes of a cycle that has `taken` messages to hand on.  The message that the sink
fails on is gone, and those behind it are discarded. -/
def drainResult (sink : Behaviour Unit) (taken : Nat) (reason : FillExit) (cycle : Nat) :
    Except CycleFailure CycleReport :=
  match sink.firstFailure? taken with
  | some (index, cause) => .error ⟨cycle, .drain, taken - (index + 1), cause⟩
  | none => .ok ⟨cycle, taken, taken, reason⟩

/-- The first `count` of the messages, each with what the sink makes of it. -/
def deliveries (sink : Behaviour Unit) (messages : List M) (count : Nat) :
    List (M × Outcome Unit) :=
  (messages.take count).zipIdx.map fun (message, index) => (message, sink.outcome index)

theorem outcome_of_spared (spared : sink.failure? index = none) :
    sink.outcome index = .returned () := by
  unfold failure? at spared
  cases given : sink.outcome index with
  | returned => rfl
  | failed | panicked => simp [given, Outcome.contain] at spared

theorem contain_of_failure (failed : sink.failure? index = some cause) :
    (sink.outcome index).contain = .error cause := by
  unfold failure? at failed
  split at failed
  · rename_i contained
    rw [contained, Option.some.inj failed]
  · cases failed

theorem firstFailure?_succ (sink : Behaviour Unit) (count : Nat) :
    sink.firstFailure? (count + 1) =
      (sink.firstFailure? count).or ((sink.failure? count).map fun cause => (count, cause)) := by
  simp [firstFailure?, List.range_succ, List.findSome?_append]

theorem spared_of_none (spared : sink.firstFailure? count = none) :
    ∀ index < count, sink.failure? index = none := by
  induction count with
  | zero => simp
  | succ count ih =>
      rw [firstFailure?_succ, Option.or_eq_none_iff, Option.map_eq_none_iff] at spared
      intro index early
      rcases Nat.lt_succ_iff_lt_or_eq.mp early with before | rfl
      · exact ih spared.1 index before
      · exact spared.2

theorem first_of_some (failed : sink.firstFailure? count = some (index, cause)) :
    index < count ∧ sink.failure? index = some cause ∧
      ∀ earlier < index, sink.failure? earlier = none := by
  induction count with
  | zero => cases failed
  | succ count ih =>
      rw [firstFailure?_succ] at failed
      cases before : sink.firstFailure? count with
      | some found =>
          rw [before, Option.some_or, Option.some.injEq] at failed
          obtain ⟨within, rest⟩ := ih (before.trans (congrArg some failed))
          exact ⟨Nat.lt_succ_of_lt within, rest⟩
      | none =>
          rw [before, Option.none_or, Option.map_eq_some_iff] at failed
          obtain ⟨held, here, same⟩ := failed
          cases same
          exact ⟨Nat.lt_succ_self _, here, spared_of_none before⟩

theorem drainCalls_le (sink : Behaviour Unit) (count : Nat) : sink.drainCalls count ≤ count := by
  unfold drainCalls
  split
  · rename_i failed
    exact (first_of_some failed).1
  · exact Nat.le_refl count

theorem length_deliveries {messages : List M} (within : count ≤ messages.length) :
    (sink.deliveries messages count).length = count := by
  simp [deliveries, within]

theorem deliveries_succ {messages : List M} {message : M}
    (there : messages[count]? = some message) :
    sink.deliveries messages (count + 1) =
      sink.deliveries messages count ++ [(message, sink.outcome count)] := by
  obtain ⟨within, same⟩ := List.getElem?_eq_some_iff.mp there
  have length : (messages.take count).length = count := by simp; omega
  simp [deliveries, List.take_add_one, there, List.zipIdx_append, length]

end Behaviour

/-- What one run makes of the source and the sink: its calls, each with its outcome, and the
result that it returns if its cycle has that number. -/
structure Performance (M : Type) where
  receives : List (Nat × Outcome (Option M))
  processes : List (M × Outcome Unit)
  result : Nat → Except CycleFailure CycleReport

def Performance.block (performance : Performance M) (id cycle : Nat) : Block M where
  runner := id
  cycle := cycle
  receives := performance.receives
  processes := performance.processes

def Policy.perform (policy : Policy) (source : Behaviour (Option M)) (sink : Behaviour Unit) :
    Performance M :=
  let taken := policy.fillLength source
  match policy.fillExit source with
  | .error cause =>
      { receives := policy.receives source (policy.fillCalls source)
        processes := []
        result := fun cycle => .error ⟨cycle, .fill, taken, cause⟩ }
  | .ok reason =>
      { receives := policy.receives source (policy.fillCalls source)
        processes := sink.deliveries (source.messages taken) (sink.drainCalls taken)
        result := sink.drainResult taken reason }

namespace Policy

variable {policy : Policy} {source : Behaviour (Option M)} {sink : Behaviour Unit}

theorem perform_of_error {cause : Failure} (exit : policy.fillExit source = .error cause) :
    policy.perform source sink =
      ⟨policy.receives source (policy.fillCalls source), [],
        fun cycle => .error ⟨cycle, .fill, policy.fillLength source, cause⟩⟩ := by
  simp [perform, exit]

theorem perform_of_ok {reason : FillExit} (exit : policy.fillExit source = .ok reason) :
    policy.perform source sink =
      ⟨policy.receives source (policy.fillCalls source),
        sink.deliveries (source.messages (policy.fillLength source))
          (sink.drainCalls (policy.fillLength source)),
        sink.drainResult (policy.fillLength source) reason⟩ := by
  simp [perform, exit]

theorem length_delivered (policy : Policy) (source : Behaviour (Option M))
    (sink : Behaviour Unit) :
    (sink.deliveries (source.messages (policy.fillLength source))
      (sink.drainCalls (policy.fillLength source))).length =
      sink.drainCalls (policy.fillLength source) := by
  refine Behaviour.length_deliveries ?_
  rw [length_messages (Nat.le_refl _)]
  exact sink.drainCalls_le _

end Policy

/-! ### The turns of a drain phase -/

namespace Pipeline

variable {pipeline : Pipeline M} {cycle received count : Nat} {reason : FillExit}

def draining (pipeline : Pipeline M) : Nat → Pipeline M
  | 0 => pipeline
  | count + 1 =>
      { pipeline.draining count with
        batch := ⟨(pipeline.draining count).batch.toList.tail⟩ }.noteProcessed

theorem draining_batch (pipeline : Pipeline M) (count : Nat) :
    (pipeline.draining count).batch.toList = pipeline.batch.toList.drop count := by
  induction count with
  | zero => rfl
  | succ count ih =>
      have left : (pipeline.draining (count + 1)).batch.toList =
          (pipeline.draining count).batch.toList.tail := rfl
      rw [left, ih, List.tail_drop]

theorem draining_cycles (pipeline : Pipeline M) (count : Nat) :
    (pipeline.draining count).counters.cycles = pipeline.counters.cycles := by
  induction count with
  | zero => rfl
  | succ count ih => exact ih

/-- The pipeline while the sink has message `count` in hand. -/
def handing (pipeline : Pipeline M) (count : Nat) : Pipeline M :=
  { pipeline.draining count with batch := ⟨pipeline.batch.toList.drop (count + 1)⟩ }

theorem drain_awaits {message : M} (there : pipeline.batch.toList[count]? = some message)
    (cycle received : Nat) (reason : FillExit) :
    (pipeline.draining count).drain true cycle received reason count =
      ⟨pipeline.handing count, .awaits (.process cycle received reason count message), []⟩ := by
  obtain ⟨within, same⟩ := List.getElem?_eq_some_iff.mp there
  have batch : (pipeline.draining count).batch.toList =
      message :: pipeline.batch.toList.drop (count + 1) := by
    rw [draining_batch, ← same, List.drop_eq_getElem_cons within]
  exact drain_of_cons cycle received reason count batch

theorem noteProcessed_handing (pipeline : Pipeline M) (count : Nat) :
    (pipeline.handing count).noteProcessed = pipeline.draining (count + 1) := by
  have batch : pipeline.batch.toList.drop (count + 1) =
      (pipeline.draining count).batch.toList.tail := by
    rw [draining_batch, List.tail_drop]
  simp [handing, batch, draining]

end Pipeline

namespace Crew

variable {crew : Crew M} {id start : Nat} {runner : Runner M}

def processMoves (id start : Nat) (sink : Behaviour Unit) (count : Nat) :
    List (Nat × DrillMove M) :=
  (List.range count).map fun index =>
    (start + sink.elapsed (index + 1), .resume id (.processed (sink.outcome index)))

theorem processMoves_succ (id start : Nat) (sink : Behaviour Unit) (count : Nat) :
    processMoves (M := M) id start sink (count + 1) = processMoves id start sink count ++
      [(start + sink.elapsed (count + 1), .resume id (.processed (sink.outcome count)))] := by
  simp [processMoves, List.range_succ]

variable {pipeline : Pipeline M} {cycle received count : Nat} {reason : FillExit}
  {moves : List (Nat × DrillMove M)} {block : Block M}

def withDeliveries (block : Block M) (sink : Behaviour Unit) (messages : List M) (count : Nat) :
    Block M :=
  { block with processes := sink.deliveries messages count }

theorem withDeliveries_succ {sink : Behaviour Unit} {messages : List M} {message : M}
    (block : Block M) (there : messages[count]? = some message) :
    (withDeliveries block sink messages (count + 1)).events =
      (withDeliveries block sink messages count).events ++
        [.processBegan block.runner block.cycle message,
          .processEnded block.runner block.cycle message (sink.outcome count)] := by
  have added : withDeliveries block sink messages (count + 1) =
      (withDeliveries block sink messages count).addProcess message (sink.outcome count) := by
    simp [withDeliveries, Block.addProcess, Behaviour.deliveries_succ there]
  rw [added, Block.events_addProcess]
  rfl

/-- As long as the sink takes them, the messages are handed on one after the other. -/
theorem Reaches.drains {sink : Behaviour Unit}
    (reaches : crew.Reaches id runner moves
      (withDeliveries block sink pipeline.batch.toList 0).events
      (pipeline.drain true cycle received reason 0))
    (found : crew.runner? id = some runner) (allowed : runner.allowed = true)
    (here : block.runner = id ∧ block.cycle = cycle) (start : Nat)
    (within : count ≤ pipeline.batch.toList.length)
    (spared : ∀ index < count, sink.failure? index = none) :
    crew.Reaches id runner (moves ++ processMoves id start sink count)
      (withDeliveries block sink pipeline.batch.toList count).events
      ((pipeline.draining count).drain true cycle received reason count) := by
  induction count with
  | zero =>
      rw [show processMoves id start sink 0 = [] from rfl, List.append_nil]
      exact reaches
  | succ count ih =>
      have before := ih (Nat.le_of_lt within) fun index early => spared index (by omega)
      have there : pipeline.batch.toList[count]? = some pipeline.batch.toList[count] :=
        List.getElem?_eq_getElem within
      rw [Pipeline.drain_awaits there] at before
      have next := before.processes found rfl (start + sink.elapsed (count + 1))
        (sink.outcome count)
      rw [processMoves_succ, ← List.append_assoc, withDeliveries_succ block there, here.1, here.2]
      rw [allowed] at next
      have turn : (pipeline.handing count).processed true cycle received reason count
          (sink.outcome count) =
          (pipeline.draining (count + 1)).drain true cycle received reason (count + 1) := by
        rw [Behaviour.outcome_of_spared (spared count (Nat.lt_succ_self count)),
          ← Pipeline.noteProcessed_handing]
        rfl
      rw [← turn]
      exact next

/-- How a drain phase ends that finds these messages in the batch. -/
structure Drained (pipeline : Pipeline M) (cycle : Nat) (reason : FillExit)
    (sink : Behaviour Unit) (turn : Turn M) : Prop where
  ended : turn.progress = .ended (sink.drainResult pipeline.batch.size reason cycle)
  empty : turn.pipeline.batch.toList = []
  cycles : turn.pipeline.counters.cycles = pipeline.counters.cycles

theorem Reaches.drained {sink : Behaviour Unit}
    (reaches : crew.Reaches id runner moves
      (withDeliveries block sink pipeline.batch.toList 0).events
      (pipeline.drain true cycle pipeline.batch.size reason 0))
    (found : crew.runner? id = some runner) (allowed : runner.allowed = true)
    (here : block.runner = id ∧ block.cycle = cycle) (start : Nat) :
    ∃ turn, crew.Reaches id runner
        (moves ++ processMoves id start sink (sink.drainCalls pipeline.batch.size))
        (withDeliveries block sink pipeline.batch.toList
          (sink.drainCalls pipeline.batch.size)).events turn ∧
      Drained pipeline cycle reason sink turn := by
  cases failed : sink.firstFailure? pipeline.batch.size with
  | none =>
      have calls : sink.drainCalls pipeline.batch.size = pipeline.batch.size := by
        simp [Behaviour.drainCalls, failed]
      have last := reaches.drains found allowed here start
        (Nat.le_refl pipeline.batch.toList.length) (Behaviour.spared_of_none failed)
      have rest : (pipeline.draining pipeline.batch.size).batch.toList = [] := by
        rw [Pipeline.draining_batch, Batch.size_eq_length, List.drop_length]
      rw [← Batch.size_eq_length, Pipeline.drain_of_nil _ _ _ _ rest] at last
      rw [calls]
      refine ⟨_, last, ?_, rest, Pipeline.draining_cycles ..⟩
      rw [Behaviour.drainResult, failed]
      rfl
  | some entry =>
      -- The message that the sink fails on has left the batch: those behind it are discarded.
      obtain ⟨index, cause⟩ := entry
      obtain ⟨within, fails, spared⟩ := Behaviour.first_of_some failed
      have calls : sink.drainCalls pipeline.batch.size = index + 1 := by
        simp [Behaviour.drainCalls, failed]
      have there : pipeline.batch.toList[index]? = some pipeline.batch.toList[index] :=
        List.getElem?_eq_getElem within
      have before := reaches.drains found allowed here start (Nat.le_of_lt within) spared
      rw [Pipeline.drain_awaits there] at before
      have last := before.processes found rfl (start + sink.elapsed (index + 1))
        (sink.outcome index)
      have turn : (pipeline.handing index).processed runner.allowed cycle pipeline.batch.size reason
          index (sink.outcome index) = (pipeline.handing index).abandon cycle .drain cause := by
        simp [Pipeline.processed, Behaviour.contain_of_failure fails]
      rw [turn] at last
      rw [calls, processMoves_succ, ← List.append_assoc, withDeliveries_succ block there, here.1,
        here.2]
      refine ⟨_, last, ?_, rfl, Pipeline.draining_cycles ..⟩
      have discarded : (pipeline.handing index).batch.size = pipeline.batch.size - (index + 1) := by
        simp [Batch.size, Pipeline.handing, Batch.toList]
      simp only [Behaviour.drainResult, failed, ← discarded]
      rfl

/-! ### One run after the other -/

/-- A cycle that begins at `start`, from the first step to the last answer. -/
def cycleMoves (id start : Nat) (policy : Policy) (source : Behaviour (Option M))
    (sink : Behaviour Unit) : List (Nat × DrillMove M) :=
  (start, .resume id .resume) :: receiveMoves id start source (policy.fillCalls source) ++
    processMoves id (start + source.elapsed (policy.fillCalls source)) sink
      (policy.perform source sink).processes.length

theorem Begins.performs (begins : crew.Begins id runner) (source : Behaviour (Option M))
    (sink : Behaviour Unit) (start : Nat) :
    ∃ turn,
      crew.Reaches id runner (cycleMoves id start runner.policy source sink)
        ((runner.policy.perform source sink).block id (crew.pipeline.counters.cycles + 1)).events
        turn ∧
      turn.progress = .ended
        ((runner.policy.perform source sink).result (crew.pipeline.counters.cycles + 1)) ∧
      turn.pipeline.batch.toList = [] ∧
      turn.pipeline.counters.cycles = crew.pipeline.counters.cycles + 1 := by
  have filled := begins.filled source start
  have cycles := (crew.pipeline.filling_counters source (runner.policy.fillLength source)).1
  have size := Pipeline.filling_size begins.drained (Nat.le_refl (runner.policy.fillLength source))
  have batch := crew.pipeline.filling_batch source (runner.policy.fillLength source)
  rw [begins.drained, List.nil_append] at batch
  cases exit : runner.policy.fillExit source with
  | error cause =>
      rw [Pipeline.filledTurn_of_error _ exit] at filled
      rw [cycleMoves, Policy.perform_of_error exit]
      rw [List.length_nil, processMoves, List.range_zero, List.map_nil, List.append_nil]
      refine ⟨_, filled, ?_, rfl, cycles⟩
      rw [Pipeline.abandon_progress, size]
  | ok reason =>
      have turn : crew.pipeline.filledTurn runner.policy source =
          (crew.pipeline.filling source (runner.policy.fillLength source)).drain true
            (crew.pipeline.counters.cycles + 1)
            (crew.pipeline.filling source (runner.policy.fillLength source)).batch.size reason
            0 := by
        rw [Pipeline.filledTurn_of_ok _ exit, size]
      have unhanded : fillBlock id (crew.pipeline.counters.cycles + 1) runner.policy source
          (runner.policy.fillCalls source) =
          withDeliveries (fillBlock id (crew.pipeline.counters.cycles + 1) runner.policy source
            (runner.policy.fillCalls source)) sink
            (crew.pipeline.filling source (runner.policy.fillLength source)).batch.toList 0 := rfl
      rw [turn, unhanded] at filled
      obtain ⟨last, reaches, ended, empty, kept⟩ := filled.drained begins.found begins.allowed
        ⟨rfl, rfl⟩ (start + source.elapsed (runner.policy.fillCalls source))
      rw [size] at reaches ended
      rw [batch] at reaches
      rw [cycleMoves, Policy.perform_of_ok exit]
      refine ⟨last, ?_, ended, empty, kept.trans cycles⟩
      rw [Policy.length_delivered]
      exact reaches

/-- Nobody is in a run, or waits for one. -/
structure Idle (crew : Crew M) : Prop where
  free : crew.lock = .free
  drained : crew.pipeline.batch.toList = []

theorem Idle.pending (idle : crew.Idle) : crew.pending = 0 := by
  rw [Crew.pending, Batch.size_eq_length, idle.drained]
  rfl

/-- A run on its own, from the call on. -/
def callMoves (id start : Nat) (policy : Policy) (source : Behaviour (Option M))
    (sink : Behaviour Unit) : List (Nat × DrillMove M) :=
  [(start, .call policy), (start, .resume id .resume)] ++ cycleMoves id start policy source sink

structure Shows (crew : Crew M) (performance : Performance M) (after : Crew M)
    (seen : List (Event M)) : Prop where
  journal : journal seen =
    (performance.block crew.runners.length (crew.pipeline.counters.cycles + 1)).events
  results : results seen =
    [(crew.runners.length, performance.result (crew.pipeline.counters.cycles + 1))]
  idle : after.Idle
  runners : after.runners.length = crew.runners.length + 1
  cycles : after.pipeline.counters.cycles = crew.pipeline.counters.cycles + 1

theorem Idle.performs (idle : crew.Idle) (start : Nat) (policy : Policy)
    (source : Behaviour (Option M)) (sink : Behaviour Unit) :
    ∃ after seen,
      crew.run? (callMoves crew.runners.length start policy source sink) = some (after, seen) ∧
      crew.Shows (policy.perform source sink) after seen := by
  let called := ((crew.hire policy false).request crew.runners.length).stand crew.runners.length
    .queued
  have found : (crew.hire policy false).runner? crew.runners.length =
      some { policy, repeats := false } := by
    simp [runner?_hire]
  have entered : crew.run? [(start, .call policy), (start, .resume crew.runners.length .resume)] =
      some (called, []) := by
    simp [run?, follow?, drill, step, found, called]
  have locked : called.lock = ⟨some crew.runners.length, []⟩ := by
    have lock : called.lock = crew.lock.request crew.runners.length := rfl
    rw [lock, idle.free]
    rfl
  have begins : called.Begins crew.runners.length
      { policy, repeats := false, standing := .queued } := by
    refine ⟨?_, rfl, rfl, by rw [locked], idle.drained⟩
    simp [called, runner?, stand, request, hire]
  obtain ⟨turn, ⟨seen, ran, told, closed⟩, ended, empty, cycles⟩ :=
    begins.performs source sink start
  obtain ⟨standing, others, concludes, settled⟩ := settle_concludes called crew.runners.length
    { policy, repeats := false, standing := .queued } ended
  have length : called.runners.length = crew.runners.length + 1 := by
    simp [called, stand, request, hire]
  refine ⟨_, seen, follow?_append entered ran, ?_, ?_, ?_, ?_, ?_⟩
  · rw [told, Turn.await?, ended]
    exact List.append_nil _
  · rw [closed, Turn.result?, ended]
    rfl
  · refine ⟨?_, by rw [pipeline_settle, empty]⟩
    rw [settled]
    exact (congrArg FairLock.release locked).trans rfl
  · rw [settled, stand_runners_length]
    exact length
  · rw [pipeline_settle, cycles]
    rfl

/-- Runs made one after the other, each with its start and its policy.  Each finds what those
before it have left of the source and the sink. -/
def serialMoves (id : Nat) (source : Behaviour (Option M)) (sink : Behaviour Unit) :
    List (Nat × Policy) → List (Nat × DrillMove M)
  | [] => []
  | (start, policy) :: rest =>
      callMoves id start policy source sink ++
        serialMoves (id + 1) (source.after (policy.perform source sink).receives.length)
          (sink.after (policy.perform source sink).processes.length) rest

def performances (source : Behaviour (Option M)) (sink : Behaviour Unit) :
    List (Nat × Policy) → List (Performance M)
  | [] => []
  | (_, policy) :: rest =>
      policy.perform source sink ::
        performances (source.after (policy.perform source sink).receives.length)
          (sink.after (policy.perform source sink).processes.length) rest

def remaining (source : Behaviour (Option M)) (sink : Behaviour Unit) :
    List (Nat × Policy) → Behaviour (Option M) × Behaviour Unit
  | [] => (source, sink)
  | (_, policy) :: rest =>
      remaining (source.after (policy.perform source sink).receives.length)
        (sink.after (policy.perform source sink).processes.length) rest

/-- The blocks of runs that follow one another, the first with that runner and number. -/
def blocksFrom (id cycle : Nat) (performances : List (Performance M)) : List (Block M) :=
  performances.mapIdx fun index performance => performance.block (id + index) (cycle + index)

def resultsFrom (id cycle : Nat) (performances : List (Performance M)) :
    List (Nat × Except CycleFailure CycleReport) :=
  performances.mapIdx fun index performance => (id + index, performance.result (cycle + index))

theorem blocksFrom_cons (id cycle : Nat) (first : Performance M) (rest : List (Performance M)) :
    blocksFrom id cycle (first :: rest) =
      first.block id cycle :: blocksFrom (id + 1) (cycle + 1) rest := by
  simp [blocksFrom, List.mapIdx_cons, Nat.add_assoc, Nat.add_comm 1]

theorem resultsFrom_cons (id cycle : Nat) (first : Performance M)
    (rest : List (Performance M)) :
    resultsFrom id cycle (first :: rest) =
      (id, first.result cycle) :: resultsFrom (id + 1) (cycle + 1) rest := by
  simp [resultsFrom, List.mapIdx_cons, Nat.add_assoc, Nat.add_comm 1]

theorem Idle.performs_serially (idle : crew.Idle) (source : Behaviour (Option M))
    (sink : Behaviour Unit) (runs : List (Nat × Policy)) :
    ∃ last seen, crew.run? (serialMoves crew.runners.length source sink runs) = some (last, seen) ∧
      journal seen = (blocksFrom crew.runners.length (crew.pipeline.counters.cycles + 1)
        (performances source sink runs)).flatMap Block.events ∧
      results seen = resultsFrom crew.runners.length (crew.pipeline.counters.cycles + 1)
        (performances source sink runs) ∧
      last.Idle ∧ last.pipeline.counters.cycles = crew.pipeline.counters.cycles + runs.length := by
  -- A run leaves the crew idle again, with one runner and one number more.
  induction runs generalizing crew source sink with
  | nil => exact ⟨crew, [], rfl, rfl, rfl, idle, rfl⟩
  | cons first rest ih =>
      obtain ⟨start, policy⟩ := first
      obtain ⟨next, shown, ran, shows⟩ := idle.performs start policy source sink
      obtain ⟨last, more, followed, told, closed, ended, cycles⟩ := ih shows.idle
        (source.after (policy.perform source sink).receives.length)
        (sink.after (policy.perform source sink).processes.length)
      rw [shows.runners] at followed told closed
      rw [shows.cycles] at told closed cycles
      refine ⟨last, shown ++ more, follow?_append ran followed, ?_, ?_, ended, ?_⟩
      · rw [journal_append, shows.journal, told, performances, blocksFrom_cons, List.flatMap_cons]
      · rw [results_append, shows.results, closed, performances, resultsFrom_cons]
        rfl
      · rw [cycles, List.length_cons]
        omega

/-- However the source and the sink behave, each run of a sequence performs as its reference
says: it hands on the messages of its fill phase in order, up to the first that the sink fails
on, and returns with an empty batch.  The next run does what a fresh cycle would do with what
is left of the source and the sink, and only its number is another. -/
theorem cycles_equal_reference (name : String) (reporter : Reporter) {events : List (Event M)}
    (ran : (make name reporter).run? moves = some (crew, events)) (free : crew.lock = .free)
    (source : Behaviour (Option M)) (sink : Behaviour Unit) (runs : List (Nat × Policy)) :
    ∃ last seen, crew.run? (serialMoves crew.runners.length source sink runs) = some (last, seen) ∧
      journal seen = (blocksFrom crew.runners.length (crew.pipeline.counters.cycles + 1)
        (performances source sink runs)).flatMap Block.events ∧
      results seen = resultsFrom crew.runners.length (crew.pipeline.counters.cycles + 1)
        (performances source sink runs) ∧
      last.pending = 0 ∧
      last.pipeline.counters.cycles = crew.pipeline.counters.cycles + runs.length ∧
      ∀ start policy, ∃ after shown fresh alone,
        last.run? (callMoves last.runners.length start policy (remaining source sink runs).1
          (remaining source sink runs).2) = some (after, shown) ∧
        (make name reporter).run? (callMoves 0 start policy (remaining source sink runs).1
          (remaining source sink runs).2) = some (fresh, alone) ∧
        last.Shows (policy.perform (remaining source sink runs).1 (remaining source sink runs).2)
          after shown ∧
        (make name reporter).Shows
          (policy.perform (remaining source sink runs).1 (remaining source sink runs).2)
          fresh alone := by
  have rests : crew.current? = none := by
    simp [current?, free, FairLock.free]
  have idle : crew.Idle := ⟨free, (run?_orderly name reporter ran).drained rests⟩
  have unused : (make name reporter : Crew M).Idle := ⟨rfl, rfl⟩
  obtain ⟨last, seen, followed, told, closed, ended, cycles⟩ :=
    idle.performs_serially source sink runs
  refine ⟨last, seen, followed, told, closed, ended.pending, cycles, fun start policy => ?_⟩
  obtain ⟨after, shown, next, shows⟩ := ended.performs start policy
    (remaining source sink runs).1 (remaining source sink runs).2
  obtain ⟨fresh, alone, first, begins⟩ := unused.performs start policy
    (remaining source sink runs).1 (remaining source sink runs).2
  exact ⟨after, shown, fresh, alone, next, first, shows, begins⟩

def steady : Behaviour (Option Nat) where
  delay _ := 10
  outcome index := .returned (some index)

/-- A sink that panics in its first call only. -/
def breaksOnce : Behaviour Unit where
  delay _ := 5
  outcome index := if index = 0 then .panicked .other else .returned ()

/-- The first run loses the message that the sink panics on and discards the second; the next
run knows nothing of either. -/
theorem cycles_equal_reference_of_panic :
    ∃ last seen, (make "solo" (.logging "solo")).run?
        (serialMoves 0 steady breaksOnce [(0, ⟨2, none, 50⟩), (100, ⟨2, none, 50⟩)]) =
          some (last, seen) ∧
      results seen =
        [(0, .error ⟨1, .drain, 1, .panic "non-string panic payload"⟩),
          (1, .ok ⟨2, 2, 2, .batchSize⟩)] ∧
      last.pending = 0 := by
  have length : (⟨2, none, 50⟩ : Policy).fillLength steady = 2 :=
    Policy.fillLength_eq_iff.mpr (by decide)
  have later : (⟨2, none, 50⟩ : Policy).fillLength (steady.after 2) = 2 :=
    Policy.fillLength_eq_iff.mpr (by decide)
  have first : (⟨2, none, 50⟩ : Policy).perform steady breaksOnce =
      ⟨[(50, .returned (some 0)), (40, .returned (some 1))], [(0, .panicked .other)],
        fun cycle => .error ⟨cycle, .drain, 1, .panic "non-string panic payload"⟩⟩ := by
    have exit : (⟨2, none, 50⟩ : Policy).fillExit steady = .ok .batchSize := by
      rw [Policy.fillExit, length]
      rfl
    rw [Policy.perform_of_ok exit, Policy.fillCalls, length]
    rfl
  have second : ((⟨2, none, 50⟩ : Policy).perform (steady.after 2) (breaksOnce.after 1)).result =
      fun cycle => .ok ⟨cycle, 2, 2, .batchSize⟩ := by
    have exit : (⟨2, none, 50⟩ : Policy).fillExit (steady.after 2) = .ok .batchSize := by
      rw [Policy.fillExit, later]
      rfl
    rw [Policy.perform_of_ok exit, later]
    rfl
  have unused : (make "solo" (.logging "solo") : Crew Nat).run? [] =
      some (make "solo" (.logging "solo"), []) := rfl
  obtain ⟨last, seen, ran, _, closed, empty, _⟩ := cycles_equal_reference "solo" _ unused rfl
    steady breaksOnce [(0, ⟨2, none, 50⟩), (100, ⟨2, none, 50⟩)]
  refine ⟨last, seen, ran, ?_, empty⟩
  rw [closed, performances, first, performances, resultsFrom_cons, resultsFrom_cons]
  change _ :: (1, ((⟨2, none, 50⟩ : Policy).perform (steady.after 2)
    (breaksOnce.after 1)).result 2) :: [] = _
  rw [second]
  rfl

end Crew

end Batching

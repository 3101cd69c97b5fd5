import Mathlib.Data.Nat.Find
import Batching.Proofs.SingleCycle

namespace Batching

/-! The fill phase against a source of which every answer is known.

`Policy.fillLength`, `Policy.fillExit` and `Policy.fillCalls` say what a fill phase comes to,
without a batch, a lock or a clock.  A cycle agrees with them because, until its fill phase
ends, call `count` begins with `count` messages in the batch.
-/

variable {M : Type}

/-- How the calls of a collaborator go, counted from 0: how long each takes and how it ends. -/
structure Behaviour (α : Type) where
  delay : Nat → Nat
  outcome : Nat → Outcome α

namespace Behaviour

variable {α : Type}

def elapsed (behaviour : Behaviour α) : Nat → Nat
  | 0 => 0
  | count + 1 => behaviour.elapsed count + behaviour.delay count

/-- What is left when `count` calls have been made. -/
def after (behaviour : Behaviour α) (count : Nat) : Behaviour α where
  delay index := behaviour.delay (count + index)
  outcome index := behaviour.outcome (count + index)

def message? (source : Behaviour (Option M)) (index : Nat) : Option M :=
  match source.outcome index with
  | .returned answer => answer
  | _ => none

def messages (source : Behaviour (Option M)) (count : Nat) : List M :=
  (List.range count).filterMap source.message?

theorem messages_succ (source : Behaviour (Option M)) (count : Nat) :
    source.messages (count + 1) = source.messages count ++ (source.message? count).toList := by
  rw [messages, List.range_succ, List.filterMap_append, messages]
  cases given : source.message? count <;> simp [given]

theorem outcome_of_message {source : Behaviour (Option M)} {index : Nat} {message : M}
    (given : source.message? index = some message) :
    source.outcome index = .returned (some message) := by
  unfold message? at given
  split at given
  · rename_i returned
    rw [returned, given]
  · cases given

end Behaviour

/-! ### The reference -/

namespace Policy

/-- The number of messages that completes a batch. -/
def cap (policy : Policy) : Nat :=
  match policy.outBatchSize with
  | some cap => min policy.batchSize cap.val
  | none => policy.batchSize

/-- Which cap it is that completes a batch: the content cap unless it is the larger one. -/
def capExit (policy : Policy) : FillExit :=
  match policy.outBatchSize with
  | some cap => if cap.val ≤ policy.batchSize then .outBatchSize else .batchSize
  | none => .batchSize

/-- With `count` messages taken the batch is complete, the deadline has passed, or the source
has no further message. -/
def FillEnds (policy : Policy) (source : Behaviour (Option M)) (count : Nat) : Prop :=
  count = policy.cap ∨ policy.batchTimeout < source.elapsed count ∨ source.message? count = none

instance (policy : Policy) (source : Behaviour (Option M)) :
    DecidablePred (policy.FillEnds source) :=
  fun count => inferInstanceAs (Decidable (count = policy.cap ∨
    policy.batchTimeout < source.elapsed count ∨ source.message? count = none))

theorem exists_fillEnds (policy : Policy) (source : Behaviour (Option M)) :
    ∃ count, policy.FillEnds source count :=
  ⟨policy.cap, .inl rfl⟩

/-- The number of messages that a fill phase takes: the first with which it ends. -/
def fillLength (policy : Policy) (source : Behaviour (Option M)) : Nat :=
  Nat.find (policy.exists_fillEnds source)

/-- A cap goes before the deadline, and the deadline before the next answer. -/
def fillExit (policy : Policy) (source : Behaviour (Option M)) : Except Failure FillExit :=
  if policy.fillLength source = policy.cap then .ok policy.capExit
  else if policy.batchTimeout < source.elapsed (policy.fillLength source) then
    .ok .deadlineExpired
  else (source.outcome (policy.fillLength source)).contain.map fun _ => .receiveTimedOut

/-- The number of calls of the source: one more than the messages, unless it is a limit of
the policy that ends the phase. -/
def fillCalls (policy : Policy) (source : Behaviour (Option M)) : Nat :=
  if policy.fillLength source = policy.cap ∨
      policy.batchTimeout < source.elapsed (policy.fillLength source) then
    policy.fillLength source
  else policy.fillLength source + 1

/-- The calls of the source in a fill phase: the timeout and the outcome of each. -/
def receives (policy : Policy) (source : Behaviour (Option M)) (count : Nat) :
    List (Nat × Outcome (Option M)) :=
  (List.range count).map fun index =>
    (policy.batchTimeout - source.elapsed index, source.outcome index)

variable {policy : Policy} {source : Behaviour (Option M)} {count : Nat}

theorem fillLength_eq_iff : policy.fillLength source = count ↔
    policy.FillEnds source count ∧ ∀ earlier < count, ¬ policy.FillEnds source earlier :=
  Nat.find_eq_iff _

theorem fillEnds_fillLength (policy : Policy) (source : Behaviour (Option M)) :
    policy.FillEnds source (policy.fillLength source) :=
  (fillLength_eq_iff.mp rfl).1

theorem fillLength_le_cap (policy : Policy) (source : Behaviour (Option M)) :
    policy.fillLength source ≤ policy.cap :=
  Nat.find_min' _ (.inl rfl)

theorem goes_on_of_lt (early : count < policy.fillLength source) :
    count ≠ policy.cap ∧ source.elapsed count ≤ policy.batchTimeout ∧
      ∃ message, source.message? count = some message := by
  have goes := (fillLength_eq_iff.mp rfl).2 count early
  simp only [FillEnds, not_or, Nat.not_lt] at goes
  exact ⟨goes.1, goes.2.1, Option.ne_none_iff_exists'.mp goes.2.2⟩

theorem length_messages (within : count ≤ policy.fillLength source) :
    (source.messages count).length = count := by
  induction count with
  | zero => rfl
  | succ count ih =>
      obtain ⟨_, _, message, given⟩ := goes_on_of_lt within
      rw [Behaviour.messages_succ, given, List.length_append, ih (Nat.le_of_lt within)]
      rfl

theorem completion_of_lt (short : count < policy.cap) : policy.completion count count = none := by
  cases capped : policy.outBatchSize with
  | none =>
      simp only [cap, capped] at short
      simp [completion, contentCapReached, capped, short]
  | some cap =>
      simp only [Policy.cap, capped] at short
      have below : ¬ cap.val ≤ count ∧ ¬ policy.batchSize ≤ count := by omega
      simp [completion, contentCapReached, capped, below]

theorem completion_cap (policy : Policy) :
    policy.completion policy.cap policy.cap = some policy.capExit := by
  cases capped : policy.outBatchSize with
  | none => simp [completion, contentCapReached, cap, capExit, capped]
  | some cap =>
      by_cases content : cap.val ≤ policy.batchSize
      · simp [completion, contentCapReached, Policy.cap, capExit, capped, content]
      · have size : policy.batchSize ≤ cap.val := Nat.le_of_not_le content
        simp [completion, contentCapReached, Policy.cap, capExit, capped, content, size]

/-- Short of the last call no limit of the policy is reached. -/
theorem open_of_lt_fillCalls (more : count < policy.fillCalls source) :
    count ≤ policy.fillLength source ∧ count < policy.cap ∧
      source.elapsed count ≤ policy.batchTimeout := by
  have bound := policy.fillLength_le_cap source
  unfold fillCalls at more
  split at more
  · obtain ⟨uncapped, early, _⟩ := goes_on_of_lt more
    omega
  · rename_i unlimited
    rw [not_or, Nat.not_lt] at unlimited
    rcases Nat.lt_or_ge count (policy.fillLength source) with before | last
    · obtain ⟨uncapped, early, _⟩ := goes_on_of_lt before
      omega
    · have same : count = policy.fillLength source := by omega
      subst same
      omega

end Policy

/-! ### The turns of a fill phase -/

namespace Pipeline

variable {pipeline : Pipeline M} {policy : Policy} {source : Behaviour (Option M)}
  {start count : Nat}

/-- The batch and the counters of the next cycle once `count` messages have been taken. -/
def filling (pipeline : Pipeline M) (source : Behaviour (Option M)) : Nat → Pipeline M
  | 0 => { pipeline with counters := pipeline.counters.nextCycle }
  | count + 1 => (pipeline.filling source count).noteReceived true (source.message? count)

theorem filling_batch (pipeline : Pipeline M) (source : Behaviour (Option M)) (count : Nat) :
    (pipeline.filling source count).batch.toList =
      pipeline.batch.toList ++ source.messages count := by
  induction count with
  | zero => exact (List.append_nil _).symm
  | succ count ih =>
      rw [filling, Behaviour.messages_succ, ← List.append_assoc, ← ih]
      cases source.message? count with
      | none => exact (List.append_nil _).symm
      | some message => rfl

theorem filling_counters (pipeline : Pipeline M) (source : Behaviour (Option M)) (count : Nat) :
    (pipeline.filling source count).counters.cycles = pipeline.counters.cycles + 1 ∧
      (pipeline.filling source count).counters.received =
        pipeline.counters.received + (source.messages count).length := by
  induction count with
  | zero => exact ⟨rfl, rfl⟩
  | succ count ih =>
      rw [filling, Behaviour.messages_succ, List.length_append, ← Nat.add_assoc, ← ih.2]
      cases source.message? count with
      | none => exact ⟨ih.1, rfl⟩
      | some message => exact ⟨ih.1, rfl⟩

/-- The turn that the next cycle, begun at `start`, takes when it has that many messages. -/
def fillTurn (pipeline : Pipeline M) (policy : Policy) (source : Behaviour (Option M))
    (start count : Nat) : Turn M :=
  (pipeline.filling source count).fill policy true (start + source.elapsed count)
    (pipeline.counters.cycles + 1) count (start + policy.batchTimeout)

theorem filling_size (drained : pipeline.batch.toList = [])
    (within : count ≤ policy.fillLength source) :
    (pipeline.filling source count).batch.size = count := by
  rw [Batch.size_eq_length, filling_batch, drained, List.nil_append,
    Policy.length_messages within]

theorem fillTurn_awaits (drained : pipeline.batch.toList = [])
    (more : count < policy.fillCalls source) :
    pipeline.fillTurn policy source start count =
      ⟨pipeline.filling source count,
        .awaits (.receive (pipeline.counters.cycles + 1) count (start + policy.batchTimeout)
          (policy.batchTimeout - source.elapsed count)), []⟩ := by
  obtain ⟨within, short, early⟩ := Policy.open_of_lt_fillCalls more
  have timely : ¬ start + policy.batchTimeout < start + source.elapsed count := by omega
  have left : start + policy.batchTimeout - (start + source.elapsed count) =
      policy.batchTimeout - source.elapsed count := by omega
  simp [fillTurn, fill, filling_size drained within, Policy.completion_of_lt short, timely, left]

theorem abandon_progress (pipeline : Pipeline M) (cycle : Nat) (phase : Phase)
    (cause : Failure) :
    (pipeline.abandon cycle phase cause).progress =
      .ended (.error ⟨cycle, phase, pipeline.batch.size, cause⟩) := rfl

theorem drain_of_nil (cycle received : Nat) (reason : FillExit) (dispatched : Nat)
    (drained : pipeline.batch.toList = []) :
    pipeline.drain true cycle received reason dispatched =
      pipeline.complete ⟨cycle, received, dispatched, reason⟩ := by
  simp [drain, Batch.popFrontIf?, Batch.popFront?_eq_none_iff.mpr drained]

theorem drain_of_cons {message : M} {rest : List M} (cycle received : Nat) (reason : FillExit)
    (dispatched : Nat) (batch : pipeline.batch.toList = message :: rest) :
    pipeline.drain true cycle received reason dispatched =
      ⟨{ pipeline with batch := ⟨rest⟩ },
        .awaits (.process cycle received reason dispatched message), []⟩ := by
  have popped : pipeline.batch.popFront? = some (message, ⟨rest⟩) :=
    Batch.popFront?_eq_some_iff.mpr batch
  simp [drain, Batch.popFrontIf?, popped]

def filledTurn (pipeline : Pipeline M) (policy : Policy) (source : Behaviour (Option M)) :
    Turn M :=
  let filled := pipeline.filling source (policy.fillLength source)
  match policy.fillExit source with
  | .error cause => filled.abandon (pipeline.counters.cycles + 1) .fill cause
  | .ok reason =>
      filled.drain true (pipeline.counters.cycles + 1) (policy.fillLength source) reason 0

theorem filledTurn_of_error (pipeline : Pipeline M) {cause : Failure}
    (exit : policy.fillExit source = .error cause) :
    pipeline.filledTurn policy source =
      (pipeline.filling source (policy.fillLength source)).abandon
        (pipeline.counters.cycles + 1) .fill cause := by
  simp [filledTurn, exit]

theorem filledTurn_of_ok (pipeline : Pipeline M) {reason : FillExit}
    (exit : policy.fillExit source = .ok reason) :
    pipeline.filledTurn policy source =
      (pipeline.filling source (policy.fillLength source)).drain true
        (pipeline.counters.cycles + 1) (policy.fillLength source) reason 0 := by
  simp [filledTurn, exit]

theorem filledTurn_received (pipeline : Pipeline M) (policy : Policy)
    (source : Behaviour (Option M)) :
    (pipeline.filledTurn policy source).pipeline.counters.received =
      pipeline.counters.received + policy.fillLength source := by
  have received := (pipeline.filling_counters source (policy.fillLength source)).2
  rw [Policy.length_messages (Nat.le_refl _)] at received
  rw [← received]
  cases exit : policy.fillExit source with
  | error cause =>
      rw [filledTurn_of_error pipeline exit]
      rfl
  | ok reason =>
      rw [filledTurn_of_ok pipeline exit]
      cases held : (pipeline.filling source (policy.fillLength source)).batch.toList with
      | nil =>
          rw [drain_of_nil _ _ _ _ held]
          rfl
      | cons first rest => rw [drain_of_cons _ _ _ _ held]

theorem fillTurn_limited (drained : pipeline.batch.toList = [])
    (limited : policy.fillLength source = policy.cap ∨
      policy.batchTimeout < source.elapsed (policy.fillLength source)) :
    (pipeline.fillTurn policy source start (policy.fillLength source)).Leads
      (pipeline.filledTurn policy source) := by
  have size := filling_size drained (Nat.le_refl (policy.fillLength source))
  -- `fill` asks for the caps first: a deadline that has passed as well does not count.
  by_cases capped : policy.fillLength source = policy.cap
  · have complete := policy.completion_cap
    have exit : policy.fillExit source = .ok policy.capExit := if_pos capped
    rw [← capped] at complete
    simp [Turn.Leads, fillTurn, filledTurn, fill, size, complete, exit]
  · have late := limited.resolve_left capped
    have bound := policy.fillLength_le_cap source
    have short : policy.fillLength source < policy.cap := by omega
    simp [Turn.Leads, fillTurn, filledTurn, fill, size, Policy.completion_of_lt short,
      Policy.fillExit, capped, late, Turn.noting]

theorem received_ends (pipeline : Pipeline M)
    (unlimited : ¬ (policy.fillLength source = policy.cap ∨
      policy.batchTimeout < source.elapsed (policy.fillLength source)))
    (now deadline timeout : Nat) :
    ((pipeline.filling source (policy.fillLength source)).received policy true now
      (pipeline.counters.cycles + 1) (policy.fillLength source) deadline timeout
      (source.outcome (policy.fillLength source))).Leads (pipeline.filledTurn policy source) := by
  have ends := policy.fillEnds_fillLength source
  simp only [not_or] at unlimited
  simp only [Policy.FillEnds, unlimited, false_or] at ends
  simp only [Turn.Leads, received, filledTurn, Policy.fillExit, unlimited]
  cases given : source.outcome (policy.fillLength source) with
  | failed failure => exact ⟨rfl, rfl⟩
  | panicked payload => exact ⟨rfl, rfl⟩
  | returned answer =>
      simp only [Behaviour.message?, given] at ends
      subst ends
      exact ⟨rfl, rfl⟩

end Pipeline

namespace Crew

variable {crew : Crew M} {id start : Nat} {runner : Runner M} {source : Behaviour (Option M)}

def receiveMoves (id start : Nat) (source : Behaviour (Option M)) (count : Nat) :
    List (Nat × DrillMove M) :=
  (List.range count).map fun index =>
    (start + source.elapsed (index + 1), .resume id (.received (source.outcome index)))

theorem receiveMoves_succ (id start : Nat) (source : Behaviour (Option M)) (count : Nat) :
    receiveMoves id start source (count + 1) = receiveMoves id start source count ++
      [(start + source.elapsed (count + 1), .resume id (.received (source.outcome count)))] := by
  simp [receiveMoves, List.range_succ]

/-- The calls of the source, as they are seen in cycle `cycle` of runner `id`. -/
def fillBlock (id cycle : Nat) (policy : Policy) (source : Behaviour (Option M)) (count : Nat) :
    Block M where
  runner := id
  cycle := cycle
  receives := policy.receives source count

theorem fillBlock_succ (id cycle : Nat) (policy : Policy) (source : Behaviour (Option M))
    (count : Nat) :
    (fillBlock id cycle policy source (count + 1)).events =
      (fillBlock id cycle policy source count).events ++
        [.receiveBegan id cycle (policy.batchTimeout - source.elapsed count),
          .receiveEnded id cycle (source.outcome count)] := by
  have added : fillBlock id cycle policy source (count + 1) =
      (fillBlock id cycle policy source count).addReceive
        (policy.batchTimeout - source.elapsed count) (source.outcome count) := by
    simp [fillBlock, Block.addReceive, Policy.receives, List.range_succ]
  rw [added, Block.events_addReceive rfl]
  rfl

/-- A runner that has the lock, about to begin a cycle that nobody will interrupt. -/
structure Begins (crew : Crew M) (id : Nat) (runner : Runner M) : Prop where
  found : crew.runner? id = some runner
  stood : runner.standing = .queued
  allowed : runner.allowed = true
  holds : crew.lock.holder = some id
  drained : crew.pipeline.batch.toList = []

/-- Up to the end of the fill phase call `count` finds `count` messages in the batch. -/
theorem Begins.fills (begins : crew.Begins id runner) (source : Behaviour (Option M))
    (start : Nat) {count : Nat} (within : count ≤ runner.policy.fillLength source) :
    crew.Reaches id runner ((start, .resume id .resume) :: receiveMoves id start source count)
      (fillBlock id (crew.pipeline.counters.cycles + 1) runner.policy source count).events
      (crew.pipeline.fillTurn runner.policy source start count) := by
  -- The batch was empty, so its size, which `fill` holds against the caps, is the number of
  -- calls made so far.
  induction count with
  | zero =>
      have began := reaches_begin begins.found begins.stood begins.holds start
      rw [begins.allowed] at began
      exact began
  | succ count ih =>
      have reaches := ih (Nat.le_of_lt within)
      obtain ⟨uncapped, early, message, given⟩ := Policy.goes_on_of_lt within
      have more : count < runner.policy.fillCalls source := by
        unfold Policy.fillCalls
        split <;> omega
      rw [Pipeline.fillTurn_awaits begins.drained more] at reaches
      have next := reaches.receives begins.found rfl (start + source.elapsed (count + 1))
        (source.outcome count)
      rw [receiveMoves_succ, fillBlock_succ, ← List.cons_append]
      rw [begins.allowed, Behaviour.outcome_of_message given] at next
      rw [Behaviour.outcome_of_message given]
      have turn : crew.pipeline.fillTurn runner.policy source start (count + 1) =
          (crew.pipeline.filling source count).received runner.policy true
            (start + source.elapsed (count + 1)) (crew.pipeline.counters.cycles + 1) count
            (start + runner.policy.batchTimeout)
            (runner.policy.batchTimeout - source.elapsed count) (.returned (some message)) := by
        rw [Pipeline.fillTurn, Pipeline.filling, given]
        rfl
      rw [turn]
      exact next

theorem Begins.filled (begins : crew.Begins id runner) (source : Behaviour (Option M))
    (start : Nat) :
    crew.Reaches id runner
      ((start, .resume id .resume) ::
        receiveMoves id start source (runner.policy.fillCalls source))
      (fillBlock id (crew.pipeline.counters.cycles + 1) runner.policy source
        (runner.policy.fillCalls source)).events
      (crew.pipeline.filledTurn runner.policy source) := by
  have reaches := begins.fills source start (Nat.le_refl (runner.policy.fillLength source))
  by_cases limited : runner.policy.fillLength source = runner.policy.cap ∨
      runner.policy.batchTimeout < source.elapsed (runner.policy.fillLength source)
  · have calls : runner.policy.fillCalls source = runner.policy.fillLength source :=
      if_pos limited
    rw [calls]
    exact reaches.congr (Pipeline.fillTurn_limited begins.drained limited)
  · have calls : runner.policy.fillCalls source = runner.policy.fillLength source + 1 :=
      if_neg limited
    have more : runner.policy.fillLength source < runner.policy.fillCalls source := by omega
    rw [Pipeline.fillTurn_awaits begins.drained more] at reaches
    have last := reaches.receives begins.found rfl
      (start + source.elapsed (runner.policy.fillLength source + 1))
      (source.outcome (runner.policy.fillLength source))
    rw [begins.allowed] at last
    rw [calls, receiveMoves_succ, fillBlock_succ, ← List.cons_append]
    exact last.congr (crew.pipeline.received_ends limited _ _ _)

/-- The fill phase of a cycle that begins at `start` takes as many messages, makes as many
calls and ends in the same way as its reference says, whatever the source answers and however
long it takes.  A failure of the source gives up exactly the messages taken; otherwise they
are handed to the sink, in the order in which they came. -/
theorem fill_equals_reference (name : String) (reporter : Reporter)
    {moves : List (Nat × DrillMove M)} {events : List (Event M)}
    (ran : (make name reporter).run? moves = some (crew, events))
    (found : crew.runner? id = some runner) (stood : runner.standing = .queued)
    (holds : crew.lock.holder = some id) (source : Behaviour (Option M)) (start : Nat) :
    let policy := runner.policy
    let taken := policy.fillLength source
    let cycle := crew.pipeline.counters.cycles + 1
    let calls := (fillBlock id cycle policy source (policy.fillCalls source)).events
    ∃ after seen,
      crew.run? ((start, .resume id .resume) ::
        receiveMoves id start source (policy.fillCalls source)) = some (after, seen) ∧
      after.pipeline.counters.received = crew.pipeline.counters.received + taken ∧
      (source.messages taken).length = taken ∧
      match policy.fillExit source, source.messages taken with
      | .error cause, _ =>
          journal seen = calls ∧ results seen = [(id, .error ⟨cycle, .fill, taken, cause⟩)] ∧
            after.pending = 0
      | .ok reason, [] =>
          journal seen = calls ∧ results seen = [(id, .ok ⟨cycle, 0, 0, reason⟩)] ∧
            after.pending = 0
      | .ok reason, first :: rest =>
          journal seen = calls ++ [.processBegan id cycle first] ∧ results seen = [] ∧
            after.current? = some (id, .process cycle taken reason 0 first) ∧
            after.pipeline.batch.toList = rest := by
  intro policy taken cycle calls
  have orderly := run?_orderly name reporter ran
  have rests := current?_eq_none_of_stood found holds (by rw [stood]; rfl)
  have begins : crew.Begins id runner :=
    ⟨found, stood, (run?_single name reporter ran id runner found).2, holds, orderly.drained rests⟩
  have reaches := begins.filled source start
  have received := crew.pipeline.filledTurn_received policy source
  have length := Policy.length_messages (Nat.le_refl (policy.fillLength source))
  have size := Pipeline.filling_size begins.drained (Nat.le_refl (policy.fillLength source))
  have batch := crew.pipeline.filling_batch source taken
  rw [begins.drained, List.nil_append] at batch
  cases exit : policy.fillExit source with
  | error cause =>
      have turn := crew.pipeline.filledTurn_of_error exit
      have went : (crew.pipeline.filledTurn policy source).progress =
          .ended (.error ⟨cycle, .fill, taken, cause⟩) := by
        rw [turn, Pipeline.abandon_progress, size]
      obtain ⟨after, seen, ran, told, closed, left⟩ := reaches.ended went
      refine ⟨after, seen, ran, left ▸ received, length, told, closed, ?_⟩
      rw [pending, left, turn]
      rfl
  | ok reason =>
      have turn := crew.pipeline.filledTurn_of_ok exit
      cases messages : source.messages taken with
      | nil =>
          rw [messages] at batch length
          have none : taken = 0 := length.symm
          rw [Pipeline.drain_of_nil _ _ _ _ batch] at turn
          have went : (crew.pipeline.filledTurn policy source).progress =
              .ended (.ok ⟨cycle, 0, 0, reason⟩) := by
            rw [turn, ← none]
            rfl
          obtain ⟨after, seen, ran, told, closed, left⟩ := reaches.ended went
          refine ⟨after, seen, ran, left ▸ received, length, told, closed, ?_⟩
          rw [pending, left, turn]
          exact size.trans none
      | cons first rest =>
          rw [messages] at batch length
          rw [Pipeline.drain_of_cons _ _ _ _ batch] at turn
          have went : (crew.pipeline.filledTurn policy source).progress =
              .awaits (.process cycle taken reason 0 first) := by
            rw [turn]
          obtain ⟨after, seen, ran, told, closed, current, left⟩ :=
            reaches.waiting found holds went
          refine ⟨after, seen, ran, left ▸ received, length, told, closed, current, ?_⟩
          rw [left, turn]
          rfl

/-- The second message comes after the deadline and completes the batch. -/
def lateSecond : Behaviour (Option Nat) where
  delay index := if index = 0 then 10 else 45
  outcome index := .returned (some (7 + index))

theorem fill_equals_reference_of_late_second :
    ∃ crew events after seen,
      (make "solo" (.logging "solo")).run? [(0, .call ⟨2, none, 50⟩), (0, .resume 0 .resume)] =
        some (crew, events) ∧
      crew.run? [(0, .resume 0 .resume), (10, .resume 0 (.received (.returned (some 7)))),
        (55, .resume 0 (.received (.returned (some 8))))] = some (after, seen) ∧
      journal seen = [.receiveBegan 0 1 50, .receiveEnded 0 1 (.returned (some 7)),
        .receiveBegan 0 1 40, .receiveEnded 0 1 (.returned (some 8)), .processBegan 0 1 7] ∧
      after.current? = some (0, .process 1 2 .batchSize 0 7) := by
  obtain ⟨crew, events, ran, found, holds, unused⟩ : ∃ crew events,
      (make "solo" (.logging "solo")).run? [(0, .call ⟨2, none, 50⟩), (0, .resume 0 .resume)] =
        some (crew, events) ∧
      crew.runner? 0 = some { policy := ⟨2, none, 50⟩, repeats := false, standing := .queued } ∧
      crew.lock.holder = some 0 ∧ crew.pipeline.counters.cycles = 0 :=
    ⟨_, _, rfl, rfl, rfl, rfl⟩
  obtain ⟨after, seen, went, _, _, filled⟩ :=
    fill_equals_reference _ _ ran found rfl holds lateSecond 0
  have length : (⟨2, none, 50⟩ : Policy).fillLength lateSecond = 2 :=
    Policy.fillLength_eq_iff.mpr (by decide)
  have exit : (⟨2, none, 50⟩ : Policy).fillExit lateSecond = .ok .batchSize := by
    rw [Policy.fillExit, length]
    rfl
  have calls : (⟨2, none, 50⟩ : Policy).fillCalls lateSecond = 2 := by
    rw [Policy.fillCalls, length]
    rfl
  have messages : lateSecond.messages 2 = [7, 8] := rfl
  simp only [length, exit, calls, messages, unused] at went filled
  obtain ⟨told, _, current, _⟩ := filled
  exact ⟨crew, events, after, seen, ran, went, told, current⟩

end Crew

end Batching

import Batching.Cycle

namespace Batching

/-! What one stretch of a cycle does with the messages in the batch.

A stretch begins with an answer, which is noted in the batch and the counters.  From
there it either goes on to a call of a collaborator, which takes permission and at most
the oldest message, or it ends the cycle and leaves the batch empty.
-/

variable {M : Type}

/-- The events that make up the story of a single cycle. -/
def Notice.isOfCycle : Notice → Bool
  | .deadlineExpired _ _ _ | .receiveTimedOut _ _ _ _ | .messageDropped _ _ _
  | .batchDropped _ _ _ | .cycleComplete _ _ _ _ _ | .cyclePanicked _ _ _ _
  | .cycleFailed _ _ => true
  | _ => false

/-- The number of the cycle that is told to be complete. -/
def Notice.completed? : Notice → Option Nat
  | .cycleComplete _ cycle _ _ _ => some cycle
  | _ => none

/-- The message that the sink is being given. -/
def Await.inHand : Await M → List M
  | .receive _ _ _ _ => []
  | .process _ _ _ _ message => [message]

namespace Pipeline

def emptied (pipeline : Pipeline M) : Pipeline M :=
  { pipeline with
    batch := Batch.empty
    counters := pipeline.counters.countDropped pipeline.batch.size }

/-- What an answer of the source that is no failure leaves in the batch and the counters. -/
def noteReceived (pipeline : Pipeline M) (allowed : Bool) : Option M → Pipeline M
  | none => pipeline
  | some message =>
      let counted := { pipeline with counters := pipeline.counters.countReceived }
      if allowed then { counted with batch := counted.batch.append message }
      else { counted with counters := counted.counters.countDropped 1 }

def noteProcessed (pipeline : Pipeline M) : Pipeline M :=
  { pipeline with counters := pipeline.counters.countDispatched }

/-- How a cycle goes on from a pipeline in which the last answer has been noted. -/
inductive Continues (pipeline : Pipeline M) (allowed : Bool) (cycle : Nat) : Turn M → Prop where
  | calls {await : Await M} {batch : Batch M} {notices : List Notice}
      (permitted : allowed = true) (number : await.cycle = cycle)
      (kept : await.inHand ++ batch.toList = pipeline.batch.toList)
      (told : ∀ notice ∈ notices, notice.isOfCycle = true)
      (silent : notices.filterMap Notice.completed? = []) :
      Continues pipeline allowed cycle ⟨{ pipeline with batch }, .awaits await, notices⟩
  | completes {report : CycleReport} {notices : List Notice}
      (number : report.cycle = cycle)
      (drained : allowed = true → pipeline.batch.toList = [])
      (told : ∀ notice ∈ notices, notice.isOfCycle = true)
      (closed : notices.filterMap Notice.completed? = [report.cycle]) :
      Continues pipeline allowed cycle ⟨pipeline.emptied, .ended (.ok report), notices⟩

variable {pipeline : Pipeline M} {allowed : Bool} {cycle : Nat} {turn : Turn M}

theorem Continues.noting (continues : pipeline.Continues allowed cycle turn) (notice : Notice)
    (about : notice.isOfCycle = true) (interim : notice.completed? = none) :
    pipeline.Continues allowed cycle (turn.noting notice) := by
  cases continues with
  | calls permitted number kept told silent =>
      refine .calls permitted number kept (List.forall_mem_cons.mpr ⟨about, told⟩) ?_
      rw [List.filterMap_cons_none interim, silent]
  | completes number drained told closed =>
      refine .completes number drained (List.forall_mem_cons.mpr ⟨about, told⟩) ?_
      rw [List.filterMap_cons_none interim, closed]

theorem emptied_of_drained (drained : pipeline.batch.toList = []) :
    pipeline.emptied = pipeline := by
  have same : pipeline.batch = Batch.empty := Batch.ext_toList drained
  simp [emptied, Counters.countDropped, Batch.size_eq_length, drained, ← same]

theorem complete_continues (report : CycleReport) (drained : pipeline.batch.toList = []) :
    pipeline.Continues allowed report.cycle (pipeline.complete report) := by
  have ended : pipeline.complete report =
      ⟨pipeline.emptied, .ended (.ok report),
        [.cycleComplete pipeline.name report.cycle report.received report.dispatched
          report.reason]⟩ := by
    rw [emptied_of_drained drained]
    rfl
  rw [ended]
  exact .completes rfl (fun _ => drained) (by simp [Notice.isOfCycle]) rfl

theorem dropBatch_continues (report : CycleReport) (withdrawn : allowed = false) :
    pipeline.Continues allowed report.cycle (pipeline.dropBatch report) := by
  have ended : pipeline.Continues allowed report.cycle (pipeline.emptied.complete report) :=
    .completes rfl (by simp [withdrawn]) (by simp [Notice.isOfCycle]) rfl
  by_cases some : 0 < pipeline.batch.size
  · simpa [dropBatch, some, emptied] using
      ended.noting (.batchDropped pipeline.name report.cycle pipeline.batch.size) rfl rfl
  · simpa [dropBatch, some, emptied] using ended

theorem drain_continues (pipeline : Pipeline M) (allowed : Bool) (cycle received : Nat)
    (reason : FillExit) (dispatched : Nat) :
    pipeline.Continues allowed cycle (pipeline.drain allowed cycle received reason dispatched) := by
  cases permission : allowed with
  | false => exact dropBatch_continues ⟨cycle, received, dispatched, reason⟩ rfl
  | true =>
      cases popped : pipeline.batch.popFront? with
      | none =>
          have drained := Batch.popFront?_eq_none_iff.mp popped
          simpa [drain, Batch.popFrontIf?, popped] using
            complete_continues ⟨cycle, received, dispatched, reason⟩ drained
      | some entry =>
          obtain ⟨message, rest⟩ := entry
          have kept := Batch.popFront?_eq_some_iff.mp popped
          have called : pipeline.drain true cycle received reason dispatched =
              ⟨{ pipeline with batch := rest },
                .awaits (.process cycle received reason dispatched message), []⟩ := by
            simp [drain, Batch.popFrontIf?, popped]
          rw [called]
          exact .calls rfl rfl kept.symm (by simp) rfl

theorem fill_continues (pipeline : Pipeline M) (policy : Policy) (allowed : Bool)
    (now cycle index deadline : Nat) :
    pipeline.Continues allowed cycle (pipeline.fill policy allowed now cycle index deadline) := by
  unfold fill
  split
  · exact drain_continues ..
  · split
    · exact drain_continues ..
    · split
      · exact (drain_continues ..).noting _ rfl rfl
      · rename_i permitted _
        have kept : (Await.receive cycle index deadline (deadline - now)).inHand ++
            pipeline.batch.toList = pipeline.batch.toList := rfl
        exact .calls (by simpa using permitted) rfl kept (by simp) rfl

theorem beginCycle_continues (pipeline : Pipeline M) (policy : Policy) (allowed : Bool)
    (now : Nat) :
    { pipeline with counters := pipeline.counters.nextCycle }.Continues allowed
      (pipeline.counters.cycles + 1) (pipeline.beginCycle policy allowed now) :=
  fill_continues ..

/-- A failure of the source gives the cycle up; any other answer is noted. -/
theorem received_cases (pipeline : Pipeline M) (policy : Policy) (allowed : Bool)
    (now cycle index deadline timeout : Nat) (outcome : Outcome (Option M)) :
    (∃ cause, outcome.contain = .error cause ∧
      pipeline.received policy allowed now cycle index deadline timeout outcome =
        pipeline.abandon cycle .fill cause) ∨
    (∃ answer, outcome = .returned answer ∧
      (pipeline.noteReceived allowed answer).Continues allowed cycle
        (pipeline.received policy allowed now cycle index deadline timeout outcome)) := by
  cases outcome with
  | failed failure => exact .inl ⟨failure, rfl, rfl⟩
  | panicked payload => exact .inl ⟨.panic payload.message, rfl, rfl⟩
  | returned answer =>
      refine .inr ⟨answer, rfl, ?_⟩
      cases answer with
      | none => exact (drain_continues ..).noting _ rfl rfl
      | some message =>
          cases allowed with
          | true => exact fill_continues ..
          | false => exact (drain_continues ..).noting _ rfl rfl

theorem processed_cases (pipeline : Pipeline M) (allowed : Bool) (cycle received : Nat)
    (reason : FillExit) (dispatched : Nat) (outcome : Outcome Unit) :
    (∃ cause, outcome.contain = .error cause ∧
      pipeline.processed allowed cycle received reason dispatched outcome =
        pipeline.abandon cycle .drain cause) ∨
    (outcome = .returned () ∧
      pipeline.noteProcessed.Continues allowed cycle
        (pipeline.processed allowed cycle received reason dispatched outcome)) := by
  cases outcome with
  | failed failure => exact .inl ⟨failure, rfl, rfl⟩
  | panicked payload => exact .inl ⟨.panic payload.message, rfl, rfl⟩
  | returned => exact .inr ⟨rfl, drain_continues ..⟩

theorem abandon_notices_isOfCycle (pipeline : Pipeline M) (cycle : Nat) (phase : Phase)
    (cause : Failure) :
    ∀ notice ∈ (pipeline.abandon cycle phase cause).notices, notice.isOfCycle = true := by
  cases cause <;> simp [abandon, Notice.isOfCycle]

theorem abandon_notices_interim (pipeline : Pipeline M) (cycle : Nat) (phase : Phase)
    (cause : Failure) :
    (pipeline.abandon cycle phase cause).notices.filterMap Notice.completed? = [] := by
  cases cause <;> rfl

end Pipeline

end Batching

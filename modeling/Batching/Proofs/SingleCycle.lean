import Batching.Proofs.EmptyBatch
import Batching.Proofs.Reports

namespace Batching

/-! Cycles that are run one at a time, followed from one call to the next.

`Crew.Reaches` says how far a cycle has come: the calls that it has made and the turn that it
has taken.  Each answer of a collaborator takes it on to the next turn.
-/

variable {M : Type}

def Event.result? : Event M → Option (Nat × Except CycleFailure CycleReport)
  | .cycleEnded runner result => some (runner, result)
  | _ => none

def results (events : List (Event M)) : List (Nat × Except CycleFailure CycleReport) :=
  events.filterMap Event.result?

def Turn.result? (turn : Turn M) : Option (Except CycleFailure CycleReport) :=
  match turn.progress with
  | .awaits _ => none
  | .ended result => some result

theorem results_append {first rest : List (Event M)} :
    results (first ++ rest) = results first ++ results rest :=
  List.filterMap_append

theorem results_of_aftermath {events : List (Event M)}
    (aftermath : events.all Event.isAftermath = true) : results events = [] := by
  refine List.filterMap_eq_nil_iff.mpr fun event member => ?_
  have follows := List.all_eq_true.mp aftermath event member
  cases event <;> simp_all [Event.isAftermath, Event.result?]

theorem results_notices (notices : List Notice) :
    results (notices.map (Event.logged (M := M))) = [] := by
  simp [results, Event.result?]

/-- The two turns lead to the same place, whatever they log. -/
def Turn.Leads (told turn : Turn M) : Prop :=
  told.pipeline = turn.pipeline ∧ told.progress = turn.progress

namespace Crew

variable {crew next : Crew M} {id now cycle index deadline timeout : Nat} {runner : Runner M}
  {moves : List (Nat × DrillMove M)} {calls : List (Event M)} {turn : Turn M}

/-- A stretch does not depend on where its runner waited before. -/
theorem settle_stand (crew : Crew M) (id : Nat) (runner : Runner M) (pipeline : Pipeline M)
    (standing : Standing M) (turn : Turn M) :
    ({ crew with pipeline }.stand id standing).settle id { runner with standing } turn =
      crew.settle id runner turn := by
  have again (next : Standing M) :
      ((crew.runners.modify id fun runner => { runner with standing }).modify id
        fun runner => { runner with standing := next }) =
      crew.runners.modify id fun runner => { runner with standing := next } := by
    simp [List.modify_modify_eq, Function.comp_def]
  cases went : turn.progress with
  | awaits await => simp [settle, went, stand, again]
  | ended result =>
      cases repeats : runner.repeats with
      | false => simp [settle, went, conclude, release, stand, repeats, again]
      | true =>
          cases result with
          | ok report => simp [settle, went, conclude, release, stand, repeats, again]
          | error failure =>
              cases panics : crew.reporter.panics failure <;>
                simp [settle, went, conclude, release, report, stand, repeats, panics, again]

theorem journal_of_settle (crew : Crew M) (id : Nat) (runner : Runner M) (turn : Turn M) :
    journal (crew.settle id runner turn).2 = turn.await?.toList.map (Await.event id) := by
  cases went : turn.progress with
  | awaits await =>
      rw [settle_of_awaits went, journal_append, journal_notices, journal_await, Turn.await?, went]
      rfl
  | ended result =>
      obtain ⟨standing, told, settled, _, aftermath⟩ := settle_of_ended crew id runner went
      have silent : journal told = [] := journal_of_aftermath aftermath
      rw [settled, journal_append, journal_notices, Turn.await?, went]
      exact silent

theorem results_of_settle (crew : Crew M) (id : Nat) (runner : Runner M) (turn : Turn M) :
    results (crew.settle id runner turn).2 =
      turn.result?.toList.map fun result => (id, result) := by
  cases went : turn.progress with
  | awaits await =>
      have silent : results [await.event id] = [] := by cases await <;> rfl
      rw [settle_of_awaits went, results_append, results_notices, silent, Turn.result?, went]
      rfl
  | ended result =>
      obtain ⟨standing, told, settled, _, aftermath⟩ := settle_of_ended crew id runner went
      have silent : results told = [] := results_of_aftermath aftermath
      rw [settled, results_append, results_notices, Turn.result?, went]
      exact congrArg ((id, result) :: ·) silent

/-- After these moves runner `id` has made these calls and its cycle has taken that turn. -/
def Reaches (crew : Crew M) (id : Nat) (runner : Runner M) (moves : List (Nat × DrillMove M))
    (calls : List (Event M)) (turn : Turn M) : Prop :=
  ∃ seen, crew.run? moves = some ((crew.settle id runner turn).1, seen) ∧
    journal seen = calls ++ turn.await?.toList.map (Await.event id) ∧
    results seen = turn.result?.toList.map fun result => (id, result)

theorem reaches_begin (found : crew.runner? id = some runner) (stood : runner.standing = .queued)
    (holds : crew.lock.holder = some id) (now : Nat) :
    crew.Reaches id runner [(now, .resume id .resume)] []
      (crew.pipeline.beginCycle runner.policy runner.allowed now) := by
  have stepped : crew.drill now (.resume id .resume) =
      some (crew.settle id runner
        (crew.pipeline.beginCycle runner.policy runner.allowed now)) := by
    simp [drill, step, found, stood, holds]
  refine ⟨_, follow?_cons_iff.mpr ⟨_, _, [], stepped, rfl, (List.append_nil _).symm⟩, ?_, ?_⟩
  · exact journal_of_settle ..
  · exact results_of_settle ..

/-- The runner that waits for a call goes on from the answer. -/
theorem Reaches.goes_on {await : Await M} {cue : Cue M} {answered : Turn M} {ended : Event M}
    (reaches : crew.Reaches id runner moves calls turn) (waits : turn.progress = .awaits await)
    (stepped : (crew.settle id runner turn).1.step now id cue =
      some ((crew.settle id runner answered).1, ended :: (crew.settle id runner answered).2))
    (exchange : ended.isExchange = true) :
    crew.Reaches id runner (moves ++ [(now, .resume id cue)])
      (calls ++ [await.event id, ended]) answered := by
  obtain ⟨seen, ran, told, closed⟩ := reaches
  have last : (crew.settle id runner turn).1.run? [(now, .resume id cue)] =
      some ((crew.settle id runner answered).1,
        ended :: (crew.settle id runner answered).2 ++ []) :=
    follow?_cons_iff.mpr ⟨_, _, [], stepped, rfl, rfl⟩
  have unresolved : ended.result? = none := by cases ended <;> first | rfl | cases exchange
  have journal_last : journal (ended :: (crew.settle id runner answered).2) =
      ended :: answered.await?.toList.map (Await.event id) := by
    rw [← journal_of_settle crew id runner, journal, List.filter_cons_of_pos exchange, journal]
  have results_last : results (ended :: (crew.settle id runner answered).2) =
      answered.result?.toList.map fun result => (id, result) := by
    rw [← results_of_settle crew id runner, results, List.filterMap_cons_none unresolved, results]
  refine ⟨_, follow?_append ran last, ?_, ?_⟩
  · rw [List.append_nil, journal_append, told, journal_last, Turn.await?, waits]
    simp
  · rw [List.append_nil, results_append, closed, results_last, Turn.result?, waits]
    simp

theorem settled_found (found : crew.runner? id = some runner) {await : Await M}
    (waits : turn.progress = .awaits await) :
    (crew.settle id runner turn).1.runner? id =
      some { runner with standing := .awaiting await } := by
  have there : ({ crew with pipeline := turn.pipeline } : Crew M).runner? id = some runner := found
  simp [settle_of_awaits waits, runner?_stand, there]

theorem Reaches.receives (reaches : crew.Reaches id runner moves calls turn)
    (found : crew.runner? id = some runner)
    (waits : turn.progress = .awaits (.receive cycle index deadline timeout)) (now : Nat)
    (outcome : Outcome (Option M)) :
    crew.Reaches id runner (moves ++ [(now, .resume id (.received outcome))])
      (calls ++ [.receiveBegan id cycle timeout, .receiveEnded id cycle outcome])
      (turn.pipeline.received runner.policy runner.allowed now cycle index deadline timeout
        outcome) := by
  refine reaches.goes_on waits ?_ rfl
  have there := settled_found found waits
  have same := settle_stand crew id runner turn.pipeline
    (.awaiting (.receive cycle index deadline timeout))
    (turn.pipeline.received runner.policy runner.allowed now cycle index deadline timeout outcome)
  rw [settle_of_awaits waits] at there ⊢
  rw [← same]
  simp only [Crew.step, there]
  rfl

theorem Reaches.processes {received dispatched : Nat} {reason : FillExit} {message : M}
    (reaches : crew.Reaches id runner moves calls turn) (found : crew.runner? id = some runner)
    (waits : turn.progress = .awaits (.process cycle received reason dispatched message))
    (now : Nat) (outcome : Outcome Unit) :
    crew.Reaches id runner (moves ++ [(now, .resume id (.processed outcome))])
      (calls ++ [.processBegan id cycle message, .processEnded id cycle message outcome])
      (turn.pipeline.processed runner.allowed cycle received reason dispatched outcome) := by
  refine reaches.goes_on waits ?_ rfl
  have there := settled_found found waits
  have same := settle_stand crew id runner turn.pipeline
    (.awaiting (.process cycle received reason dispatched message))
    (turn.pipeline.processed runner.allowed cycle received reason dispatched outcome)
  rw [settle_of_awaits waits] at there ⊢
  rw [← same]
  simp only [Crew.step, there]
  rfl

theorem Reaches.ended {result : Except CycleFailure CycleReport}
    (reaches : crew.Reaches id runner moves calls turn) (went : turn.progress = .ended result) :
    ∃ after seen, crew.run? moves = some (after, seen) ∧ journal seen = calls ∧
      results seen = [(id, result)] ∧ after.pipeline = turn.pipeline := by
  obtain ⟨seen, ran, told, closed⟩ := reaches
  rw [Turn.await?, went] at told
  rw [Turn.result?, went] at closed
  exact ⟨_, seen, ran, told.trans (List.append_nil _), closed, pipeline_settle ..⟩

theorem Reaches.waiting {await : Await M} (reaches : crew.Reaches id runner moves calls turn)
    (found : crew.runner? id = some runner) (holds : crew.lock.holder = some id)
    (went : turn.progress = .awaits await) :
    ∃ after seen, crew.run? moves = some (after, seen) ∧
      journal seen = calls ++ [await.event id] ∧ results seen = [] ∧
      after.current? = some (id, await) ∧ after.pipeline = turn.pipeline := by
  obtain ⟨seen, ran, told, closed⟩ := reaches
  rw [Turn.await?, went] at told
  rw [Turn.result?, went] at closed
  refine ⟨_, seen, ran, told, closed, ?_, pipeline_settle ..⟩
  rw [settle_of_awaits went]
  exact current?_eq_some_iff.mpr ⟨holds, awaitOf?_stand_self (by exact found)⟩

theorem Reaches.congr {told : Turn M} (reaches : crew.Reaches id runner moves calls told)
    (same : told.Leads turn) : crew.Reaches id runner moves calls turn := by
  obtain ⟨seen, ran, journal, results⟩ := reaches
  obtain ⟨pipeline, progress⟩ := same
  refine ⟨seen, ?_, ?_, ?_⟩
  · rw [ran]
    simp [settle, pipeline, progress]
  · rw [journal, Turn.await?, Turn.await?, progress]
  · rw [results, Turn.result?, Turn.result?, progress]

/-! ### Cycles without an accumulator -/

/-- Runners of single cycles, whose permission nobody takes away. -/
def Single (crew : Crew M) : Prop :=
  ∀ id runner, crew.runner? id = some runner → runner.repeats = false ∧ runner.allowed = true

theorem Single.drill {move : DrillMove M} {events : List (Event M)}
    (single : crew.Single) (moved : crew.drill now move = some (next, events)) : next.Single := by
  cases move with
  | call policy =>
      cases moved
      intro other runner found
      rw [runner?_hire] at found
      split at found
      · cases found
        exact ⟨rfl, rfl⟩
      · exact single other runner found
  | resume id cue =>
      obtain ⟨resumed, _, steps⟩ := step_cases moved
      obtain ⟨standing, pipeline, lock, rfl⟩ := steps.stands
      intro other runner found
      rw [runner?_stand] at found
      split at found
      · obtain ⟨held, there, rfl⟩ := Option.map_eq_some_iff.mp found
        exact single id held there
      · exact single other runner found

theorem run?_single (name : String) (reporter : Reporter) {events : List (Event M)}
    (ran : (make name reporter).run? moves = some (crew, events)) : crew.Single :=
  (follow?_induction Single (fun _ _ _ => True) (fun single => single.drill)
    (fun _ => trivial) (fun _ _ _ _ => trivial)
    (by simp [Single, make, runner?]) ran).1

end Crew

end Batching

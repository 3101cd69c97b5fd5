import Batching.Proofs.Traffic

namespace Batching

/-! The order of messages between the source and the sink.

The messages that the sink is called with are, in order and each within the cycle that
received it, some of those that the source returned.  As long as no cycle fails, no stop
begins and the accumulator is not dropped, the only ones missing are in the batch.
-/

variable {M : Type}

namespace Accumulator

variable {before after start last : Accumulator M} {id : Nat} {events : List (Event M)}
  {moves : List (Nat × Move M)}

theorem Carries.silent (carried : before.Carries id after events) :
    arrivals events = [] ∧ handovers events = [] := by
  have passed : ∀ event ∈ events, event.arrival? = none ∧ event.handover? = none := by
    intro event member
    have call := carried.isOfCall member
    cases event with
    | receiveEnded | processBegan => cases call
    | _ => exact ⟨rfl, rfl⟩
  exact ⟨List.filterMap_eq_nil_iff.mpr fun event member => (passed event member).1,
    List.filterMap_eq_nil_iff.mpr fun event member => (passed event member).2⟩

/-- The calls of the owner leave what is held alone, except that a stop clears the batch. -/
theorem Carries.held (carried : before.Carries id after events) :
    after.crew.held = before.crew.held ∨
      before.stage? id = some .stopping ∧ after.crew.held = [] := by
  have current := carried.current?
  cases carried with
  | passes _ _ life | starts _ _ life | fails _ _ life | launches _ _ _ life
  | stops _ _ _ life =>
      have crew : after.crew = _ := congrArg Life.crew life
      exact .inl (Crew.held_congr current (by rw [crew]; rfl))
  | finishes staged _ life =>
      have crew : after.crew = before.crew.cleared := congrArg Life.crew life
      exact .inr ⟨staged, Crew.held_of_drained (by rw [crew]; rfl)⟩

theorem held_release (accumulator : Accumulator M) :
    accumulator.release.crew.held = accumulator.crew.held :=
  Crew.held_congr accumulator.release_current?
    (congrArg Pipeline.batch accumulator.release_pipeline)

/-- What a move hands over and what is held afterwards was held before or has just
arrived. -/
theorem Evolves.traffic {now : Nat} {move : Move M} (orderly : before.Orderly)
    (evolves : before.Evolves now move after events) :
    (handovers events ++ after.crew.held).Sublist (before.crew.held ++ arrivals events) := by
  cases evolves with
  | carries carried =>
      rw [carried.silent.1, carried.silent.2, List.nil_append, List.append_nil]
      rcases carried.held with same | ⟨_, empty⟩
      · exact same ▸ List.Sublist.refl _
      · exact empty ▸ List.nil_sublist _
  | works stepped =>
      obtain ⟨runner, found, steps⟩ := Crew.step_cases stepped
      exact steps.traffic orderly.crew found
  | drops =>
      rw [held_release]
      exact (List.append_nil _).symm ▸ List.Sublist.refl _

theorem run?_traffic (orderly : start.Orderly) (ran : start.run? moves = some (last, events)) :
    (handovers events ++ last.crew.held).Sublist (start.crew.held ++ arrivals events) := by
  refine run?_induction
    (fun start events last =>
      (handovers events ++ last.crew.held).Sublist (start.crew.held ++ arrivals events))
    ?_ ?_ orderly ran
  · intro state
    exact (List.append_nil _).symm ▸ List.Sublist.refl _
  · intro now move state next seen last more orderly evolves rest
    have first := evolves.traffic orderly
    rw [handovers_append, arrivals_append, List.append_assoc, ← List.append_assoc state.crew.held]
    calc (handovers seen ++ (handovers more ++ last.crew.held)).Sublist
          (handovers seen ++ (next.crew.held ++ arrivals more)) := rest.append_left _
      List.Sublist _ ((state.crew.held ++ arrivals seen) ++ arrivals more) := by
        rw [← List.append_assoc]
        exact first.append_right _

/-! ### Histories that nothing has disturbed -/

/-- Every worker may still work, and no stop is under way. -/
structure Unhindered (accumulator : Accumulator M) : Prop where
  allowed : ∀ worker < accumulator.crew.runners.length, accumulator.crew.allows worker = true
  unstopped : accumulator.state ≠ .stopping

theorem unhindered_make (name : String) (policy : Policy) (reporter : Reporter) :
    (make name policy reporter : Accumulator M).Unhindered where
  allowed worker found := absurd found (Nat.not_lt_zero worker)
  unstopped := nofun

theorem Evolves.dropped {now : Nat} {move : Move M}
    (evolves : before.Evolves now move after events) (kept : after.dropped = false) :
    before.dropped = false := by
  cases evolves with
  | carries carried =>
      cases carried with
      | passes _ _ life | starts _ _ life | fails _ _ life | launches _ _ _ life | stops _ _ _ life
      | finishes _ _ life => exact (congrArg Life.dropped life).symm.trans kept
  | works => exact kept
  | drops =>
      rw [release] at kept
      split at kept <;> cases kept

theorem Unhindered.carries (unhindered : before.Unhindered) (orderly : before.Orderly)
    (carried : before.Carries id after events)
    (unstopped : ∀ name, .logged (.stopping name) ∉ events) :
    after.Unhindered ∧ after.crew.held = before.crew.held := by
  have held : after.crew.held = before.crew.held := by
    rcases carried.held with same | ⟨staged, _⟩
    · exact same
    · exact absurd (orderly.staged staged) unhindered.unstopped
  refine ⟨?_, held⟩
  cases carried with
  | passes _ _ life =>
      have crew : after.crew = before.crew := congrArg Life.crew life
      have state : after.state = before.state := congrArg Life.state life
      exact ⟨crew ▸ unhindered.allowed, state ▸ unhindered.unstopped⟩
  | starts _ _ life | fails _ _ life =>
      have crew : after.crew = before.crew := congrArg Life.crew life
      have state : after.state = _ := congrArg Life.state life
      exact ⟨crew ▸ unhindered.allowed, by simp [state]⟩
  | launches now _ _ life =>
      have crew : after.crew = (before.crew.markStarted now).hire before.policy true :=
        congrArg Life.crew life
      have state : after.state = .running := congrArg Life.state life
      refine ⟨?_, by simp [state]⟩
      intro worker within
      rw [crew, Crew.allows_hire]
      split
      · rfl
      · rename_i earlier
        rw [Crew.allows_markStarted]
        refine unhindered.allowed worker ?_
        simp [crew, Crew.hire, Crew.markStarted] at within earlier
        omega
  | stops _ _ _ _ told =>
      have stopping : .logged (.stopping before.name) ∈ majors events := by simp [told]
      exact absurd (List.mem_filter.mp stopping).1 (unstopped _)
  | finishes staged => exact absurd (orderly.staged staged) unhindered.unstopped

/-- A move that neither stops nor drops an accumulator, nor fails a cycle, loses nothing. -/
theorem Unhindered.evolves {now : Nat} {move : Move M} (unhindered : before.Unhindered)
    (orderly : before.Orderly) (evolves : before.Evolves now move after events)
    (unfailed : ∀ runner failure, .cycleEnded runner (.error failure) ∉ events)
    (unstopped : ∀ name, .logged (.stopping name) ∉ events) (kept : after.dropped = false) :
    after.Unhindered ∧
      handovers events ++ after.crew.held = before.crew.held ++ arrivals events := by
  cases evolves with
  | carries carried =>
      obtain ⟨still, held⟩ := unhindered.carries orderly carried unstopped
      rw [held, carried.silent.1, carried.silent.2, List.nil_append, List.append_nil]
      exact ⟨still, rfl⟩
  | @works id cue crew _ stepped =>
      obtain ⟨length, allows⟩ := Crew.step_runners stepped
      obtain ⟨runner, found, steps⟩ := Crew.step_cases stepped
      have permitted : runner.allowed = true := by
        rw [← Crew.allows_of_found found]
        exact unhindered.allowed id (List.getElem?_eq_some_iff.mp found).1
      refine ⟨⟨fun worker within => ?_, unhindered.unstopped⟩,
        steps.complete orderly.crew found permitted (unfailed id)⟩
      rw [allows]
      exact unhindered.allowed worker (length ▸ within)
  | drops =>
      rw [release] at kept
      split at kept <;> cases kept

theorem run?_complete (orderly : start.Orderly) (unhindered : start.Unhindered)
    (ran : start.run? moves = some (last, events))
    (unfailed : ∀ runner failure, .cycleEnded runner (.error failure) ∉ events)
    (unstopped : ∀ name, .logged (.stopping name) ∉ events) (kept : last.dropped = false) :
    handovers events ++ last.crew.held = start.crew.held ++ arrivals events := by
  -- Only the last state is known not to be dropped, so the relation carries that back to the
  -- first, and with it that nothing has disturbed the workers.
  have followed := run?_induction
    (fun start events last =>
      (∀ runner failure, .cycleEnded runner (.error failure) ∉ events) →
      (∀ name, .logged (.stopping name) ∉ events) → last.dropped = false →
      start.dropped = false ∧ (start.Unhindered →
        handovers events ++ last.crew.held = start.crew.held ++ arrivals events))
    ?_ ?_ orderly ran
  · exact (followed unfailed unstopped kept).2 unhindered
  · exact fun _ _ kept => ⟨kept, fun _ => (List.append_nil _).symm⟩
  · intro now move state next seen last more orderly evolves rest unfailed unstopped kept
    obtain ⟨still, complete⟩ := rest
      (fun runner failure member => unfailed runner failure (List.mem_append_right seen member))
      (fun name member => unstopped name (List.mem_append_right seen member)) kept
    refine ⟨evolves.dropped still, fun unhindered => ?_⟩
    obtain ⟨remains, first⟩ := unhindered.evolves orderly evolves
      (fun runner failure member => unfailed runner failure (List.mem_append_left more member))
      (fun name member => unstopped name (List.mem_append_left more member)) still
    calc handovers (seen ++ more) ++ last.crew.held
        = handovers seen ++ (handovers more ++ last.crew.held) := by
          rw [handovers_append, List.append_assoc]
      _ = (handovers seen ++ next.crew.held) ++ arrivals more := by
          rw [complete remains, List.append_assoc]
      _ = state.crew.held ++ arrivals (seen ++ more) := by
          rw [first, arrivals_append, List.append_assoc]

/-- Whatever the source, the sink and the owner do, in whatever order: the sink is called
with messages that the source returned, in the order in which it returned them, each at
most once and in the cycle that received it.  As long as no cycle has failed and no stop
or drop has begun, the messages that it has not been called with are those in the batch. -/
theorem messages_in_order (name : String) (policy : Policy) (reporter : Reporter)
    (moves : List (Nat × Move M)) {accumulator : Accumulator M}
    (ran : (make name policy reporter).run? moves = some (accumulator, events)) :
    (handovers events).Sublist (arrivals events) ∧
      ((∀ runner failure, .cycleEnded runner (.error failure) ∉ events) →
        (∀ name, .logged (.stopping name) ∉ events) → accumulator.dropped = false →
        (arrivals events).map Handled.message =
          (handovers events).map Handled.message ++ accumulator.crew.pipeline.batch.toList) := by
  have orderly := orderly_make (M := M) name policy reporter
  have after := orderly.run? ran
  have traffic := run?_traffic orderly ran
  have nothing : (make name policy reporter : Accumulator M).crew.held = [] := rfl
  rw [nothing, List.nil_append] at traffic
  refine ⟨(List.sublist_append_left ..).trans traffic, fun unfailed unstopped kept => ?_⟩
  have complete := run?_complete orderly (unhindered_make ..) ran unfailed unstopped kept
  rw [nothing, List.nil_append] at complete
  rw [← complete, List.map_append, after.crew.held_messages]

/-- A start, and two messages that the source returns to a cycle for two. -/
def twoMessages : List (Nat × Move Nat) :=
  [(0, .begin .start), (0, .answer 0 (.ok ())), (0, .answer 0 (.ok ())), (0, .answer 0 (.ok ())),
    (0, .worker 0 .resume), (0, .worker 0 .resume),
    (1, .worker 0 (.received (.returned (some 7)))),
    (2, .worker 0 (.received (.returned (some 8))))]

def twoMessagesSeen : List (Event Nat) :=
  [.logged (.starting "pair"), .requested 0 .acquireSource,
    .answered 0 .acquireSource (.ok ()), .requested 0 .startSink,
    .answered 0 .startSink (.ok ()), .requested 0 .startSource,
    .answered 0 .startSource (.ok ()), .spawned 0, .logged (.started "pair" ⟨2, none, 50⟩),
    .returned 0 (.ok ()), .logged (.workerStarted "pair"), .receiveBegan 0 1 50,
    .receiveEnded 0 1 (.returned (some 7)), .receiveBegan 0 1 49,
    .receiveEnded 0 1 (.returned (some 8)), .processBegan 0 1 7]

/-- The second message is still in the batch when the first is handed over. -/
theorem messages_in_order_of_two :
    ∃ accumulator, (make "pair" ⟨2, none, 50⟩ (.logging "pair")).run? twoMessages =
        some (accumulator, twoMessagesSeen) ∧
      handovers twoMessagesSeen = [⟨0, 1, 7⟩] ∧ accumulator.crew.pipeline.batch.toList = [8] ∧
      (arrivals twoMessagesSeen).map Handled.message =
        (handovers twoMessagesSeen).map Handled.message ++
          accumulator.crew.pipeline.batch.toList := by
  obtain ⟨accumulator, ran, left, kept⟩ : ∃ accumulator,
      (make "pair" ⟨2, none, 50⟩ (.logging "pair")).run? twoMessages =
        some (accumulator, twoMessagesSeen) ∧
      accumulator.crew.pipeline.batch.toList = [8] ∧ accumulator.dropped = false :=
    ⟨_, rfl, rfl, rfl⟩
  refine ⟨accumulator, ran, rfl, left, ?_⟩
  exact (messages_in_order _ _ _ _ ran).2 (by simp [twoMessagesSeen])
    (by simp [twoMessagesSeen]) kept

end Accumulator

end Batching

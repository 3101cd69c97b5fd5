import Batching.Proofs.Permission

namespace Batching

/-! The messages that pass through the batch.

A message arrives when the source returns it and is handed over when the sink is called
with it.  What the batch holds belongs to the cycle in progress; `Steps.traffic` says that
a step hands over, in order and in that same cycle, messages that were held or that have
just arrived, and `Steps.complete` that nothing else becomes of them while the runner may
work and no call fails.
-/

variable {M : Type}

/-- A message and the call that it came or went with. -/
structure Handled (M : Type) where
  runner : Nat
  cycle : Nat
  message : M
deriving DecidableEq, Repr

namespace Event

def arrival? : Event M → Option (Handled M)
  | .receiveEnded runner cycle (.returned (some message)) => some ⟨runner, cycle, message⟩
  | _ => none

def handover? : Event M → Option (Handled M)
  | .processBegan runner cycle message => some ⟨runner, cycle, message⟩
  | _ => none

/-- The events that move no message into or out of the batch. -/
def isQuiet : Event M → Bool
  | .receiveEnded _ _ _ | .processBegan _ _ _ | .cycleEnded _ _
  | .logged (.clearedOnStop _ _) => false
  | _ => true

theorem isQuiet_of_isAftermath {event : Event M} (aftermath : event.isAftermath = true) :
    event.isQuiet = true := by
  cases event with
  | logged notice => cases notice <;> simp_all [isAftermath, Notice.isOfCycle, isQuiet]
  | _ => simp_all [isAftermath, isQuiet]

end Event

/-- The messages that the source has returned, in order. -/
def arrivals (events : List (Event M)) : List (Handled M) :=
  events.filterMap Event.arrival?

/-- The messages that the sink has been called with, in order. -/
def handovers (events : List (Event M)) : List (Handled M) :=
  events.filterMap Event.handover?

section

variable {first rest events : List (Event M)}

theorem arrivals_append : arrivals (first ++ rest) = arrivals first ++ arrivals rest :=
  List.filterMap_append

theorem handovers_append : handovers (first ++ rest) = handovers first ++ handovers rest :=
  List.filterMap_append

theorem arrivals_of_quiet (quiet : events.all Event.isQuiet = true) : arrivals events = [] := by
  refine List.filterMap_eq_nil_iff.mpr fun event member => ?_
  have still := List.all_eq_true.mp quiet event member
  cases event <;> simp_all [Event.isQuiet, Event.arrival?]

theorem handovers_of_quiet (quiet : events.all Event.isQuiet = true) : handovers events = [] := by
  refine List.filterMap_eq_nil_iff.mpr fun event member => ?_
  have still := List.all_eq_true.mp quiet event member
  cases event <;> simp_all [Event.isQuiet, Event.handover?]

theorem quiet_of_aftermath (aftermath : events.all Event.isAftermath = true) :
    events.all Event.isQuiet = true :=
  List.all_eq_true.mpr fun event member =>
    Event.isQuiet_of_isAftermath (List.all_eq_true.mp aftermath event member)

theorem quiet_notices {notices : List Notice}
    (told : ∀ notice ∈ notices, notice.isOfCycle = true) :
    (notices.map (Event.logged (M := M))).all Event.isQuiet = true :=
  quiet_of_aftermath (by simpa [Event.isAftermath, Function.comp_def] using told)

end

namespace Crew

variable {crew next : Crew M} {id : Nat} {runner : Runner M} {events : List (Event M)}

/-- The messages in the batch, as part of the cycle in progress. -/
def held (crew : Crew M) : List (Handled M) :=
  match crew.current? with
  | some (runner, await) => crew.pipeline.batch.toList.map (Handled.mk runner await.cycle)
  | none => []

theorem held_of_current {await : Await M} (current : crew.current? = some (id, await)) :
    crew.held = crew.pipeline.batch.toList.map (Handled.mk id await.cycle) := by
  simp only [held, current]

theorem held_of_rest (rests : crew.current? = none) : crew.held = [] := by
  simp only [held, rests]

theorem held_congr (current : next.current? = crew.current?)
    (batch : next.pipeline.batch = crew.pipeline.batch) : next.held = crew.held := by
  simp only [held, current, batch]

theorem held_of_drained (drained : crew.pipeline.batch.toList = []) : crew.held = [] := by
  unfold held
  split <;> simp [drained]

theorem held_within {handled : Handled M} (member : handled ∈ crew.held) :
    handled.runner < crew.runners.length := by
  cases current : crew.current? with
  | none =>
      rw [held_of_rest current] at member
      cases member
  | some cycle =>
      obtain ⟨id, await⟩ := cycle
      rw [held_of_current current] at member
      obtain ⟨message, _, rfl⟩ := List.mem_map.mp member
      obtain ⟨runner, found, _⟩ := Option.bind_eq_some_iff.mp (current?_eq_some_iff.mp current).2
      exact (List.getElem?_eq_some_iff.mp found).1

theorem Orderly.held_messages (orderly : crew.Orderly) :
    crew.held.map Handled.message = crew.pipeline.batch.toList := by
  cases current : crew.current? with
  | none => rw [held_of_rest current, orderly.drained current, List.map_nil]
  | some cycle =>
      rw [held_of_current current, List.map_map]
      exact List.map_id' _

/-! ### One stretch of a cycle -/

theorem Opens.handovers {opening : List (Event M)} {turn : Turn M}
    (opens : crew.Opens id runner opening turn) : handovers opening = [] := by
  cases opens <;> rfl

/-- A stretch that gives its cycle up has failed; any other goes on from a batch to which
the message that has just arrived was added. -/
theorem Opens.noted {opening : List (Event M)} {turn : Turn M} (orderly : crew.Orderly)
    (found : crew.runner? id = some runner) (opens : crew.Opens id runner opening turn) :
    (∃ failure, turn.progress = .ended (.error failure)) ∨
    ∃ (noted : Pipeline M) (cycle : Nat), noted.Continues runner.allowed cycle turn ∧
      (runner.allowed = true →
        noted.batch.toList.map (Handled.mk id cycle) = crew.held ++ arrivals opening) := by
  cases opens with
  | receiveFails | processFails => exact .inl ⟨_, rfl⟩
  | begins stood holds continues =>
      refine .inr ⟨_, _, continues, fun _ => ?_⟩
      have rests := current?_eq_none_of_stood found holds (by rw [stood]; rfl)
      have drained : crew.pipeline.batch.toList = [] := orderly.drained rests
      simp [held_of_rest rests, drained, arrivals]
  | @receives cycle index deadline timeout answer _ stood continues =>
      refine .inr ⟨_, _, continues, fun permitted => ?_⟩
      have current := orderly.current? (awaitOf?_eq_some_of_stood found stood)
      rw [held_of_current current]
      cases answer with
      | none => simp [Pipeline.noteReceived, arrivals, Event.arrival?, Await.cycle]
      | some message =>
          simp [Pipeline.noteReceived, permitted, Batch.toList_append, arrivals, Event.arrival?,
            Await.cycle]
  | processes stood continues =>
      refine .inr ⟨_, _, continues, fun _ => ?_⟩
      have current := orderly.current? (awaitOf?_eq_some_of_stood found stood)
      simp [held_of_current current, Pipeline.noteProcessed, arrivals, Event.arrival?, Await.cycle]

theorem handovers_await (id : Nat) (await : Await M) :
    Batching.handovers [await.event id] = await.inHand.map (Handled.mk id await.cycle) := by
  cases await <;> rfl

theorem arrivals_await (id : Nat) (await : Await M) : arrivals [await.event id] = [] := by
  cases await <;> rfl

/-- A stretch that goes on to a call hands over nothing but the oldest message held. -/
theorem traffic_of_awaits {opening : List (Event M)} {turn : Turn M} {await : Await M}
    (orderly : crew.Orderly) (found : crew.runner? id = some runner)
    (opens : crew.Opens id runner opening turn) (awaits : turn.progress = .awaits await) :
    Batching.handovers (opening ++ (crew.settle id runner turn).2) ++
        (crew.settle id runner turn).1.held =
      crew.held ++ arrivals (opening ++ (crew.settle id runner turn).2) := by
  have quiet := quiet_notices (M := M) opens.told
  have current := (orderly.of_settle_awaits found (opens.holds orderly found) awaits).2
  rw [held_of_current current, settle_of_awaits awaits]
  simp only [handovers_append, arrivals_append, opens.handovers, handovers_of_quiet quiet,
    arrivals_of_quiet quiet, handovers_await, arrivals_await, List.nil_append, List.append_nil]
  rcases opens.noted orderly found with ⟨failure, failed⟩ | ⟨noted, cycle, continues, same⟩
  · simp [failed] at awaits
  · cases continues with
    | completes => cases awaits
    | calls permitted number kept =>
        cases awaits
        rw [← same permitted, ← kept, number, List.map_append]
        rfl

theorem traffic_of_ended {opening : List (Event M)} {turn : Turn M}
    {result : Except CycleFailure CycleReport} (orderly : crew.Orderly)
    (found : crew.runner? id = some runner) (opens : crew.Opens id runner opening turn)
    (ended : turn.progress = .ended result) :
    Batching.handovers (opening ++ (crew.settle id runner turn).2) = [] ∧
      arrivals (opening ++ (crew.settle id runner turn).2) = arrivals opening ∧
      (crew.settle id runner turn).1.held = [] := by
  have rests :=
    (orderly.of_settle_ended runner (opens.holds orderly found) ended (opens.drained ended)).2
  obtain ⟨standing, told, settled, _, aftermath⟩ :=
    settle_of_ended crew id runner ended
  have quiet := quiet_notices (M := M) opens.told
  have after := quiet_of_aftermath aftermath
  refine ⟨?_, ?_, held_of_rest rests⟩
  · rw [settled, handovers_append, handovers_append, opens.handovers, handovers_of_quiet quiet]
    exact (handovers_of_quiet after : handovers told = [])
  · rw [settled, arrivals_append, arrivals_append, arrivals_of_quiet quiet]
    exact (congrArg _ (arrivals_of_quiet after)).trans (List.append_nil _)

/-- A cycle that runs to its end with permission has handed everything over. -/
theorem Opens.drained_of_completed {opening : List (Event M)} {turn : Turn M}
    {report : CycleReport} (orderly : crew.Orderly) (found : crew.runner? id = some runner)
    (opens : crew.Opens id runner opening turn) (permitted : runner.allowed = true)
    (ended : turn.progress = .ended (.ok report)) : crew.held ++ arrivals opening = [] := by
  rcases opens.noted orderly found with ⟨failure, failed⟩ | ⟨noted, cycle, continues, same⟩
  · simp [failed] at ended
  · cases continues with
    | calls => cases ended
    | completes _ drained => rw [← same permitted, drained permitted, List.map_nil]

/-! ### A step of a runner -/

theorem quiet_of_leaves : (crew.leave id).2.all Event.isQuiet = true := by
  have granted : crew.cleared.release.2.all Event.isQuiet = true :=
    quiet_of_aftermath (release_aftermath crew.cleared)
  rw [leave_events, List.all_append, granted]
  rfl

theorem quiet_of_asks
    (told : events = [] ∨ events = [.logged (.workerStarted crew.pipeline.name)]) :
    events.all Event.isQuiet = true := by
  rcases told with rfl | rfl <;> rfl

theorem traffic_of_asks {standing : Standing M} (orderly : crew.Orderly)
    (found : crew.runner? id = some runner)
    (idle : runner.standing = .fresh ∨ runner.standing = .pausing)
    (waits : standing = .queued ∨ standing = .leaving ∧ runner.allowed = false)
    (told : events = [] ∨ events = [.logged (.workerStarted crew.pipeline.name)]) :
    handovers events ++ ((crew.request id).stand id standing).held =
      crew.held ++ arrivals events := by
  have quiet := quiet_of_asks told
  have current :=
    current?_request_stand orderly found (rested_of_idle idle) (rests_of_waits waits)
  have held : ((crew.request id).stand id standing).held = crew.held := held_congr current rfl
  rw [held, handovers_of_quiet quiet, arrivals_of_quiet quiet, List.nil_append, List.append_nil]

/-- What a step hands over and what is held afterwards was held before or has just
arrived. -/
theorem Steps.traffic (orderly : crew.Orderly) (found : crew.runner? id = some runner)
    (steps : crew.Steps id runner next events) :
    (handovers events ++ next.held).Sublist (crew.held ++ arrivals events) := by
  cases steps with
  | asks idle waits told =>
      exact traffic_of_asks orderly found idle waits told ▸ List.Sublist.refl _
  | leaves _ holds =>
      rw [held_of_rest (orderly.of_leaves holds).2, handovers_of_quiet quiet_of_leaves]
      exact List.nil_sublist _
  | @settles _ turn opens =>
      cases went : turn.progress with
      | awaits await => exact traffic_of_awaits orderly found opens went ▸ List.Sublist.refl _
      | ended result =>
          obtain ⟨handed, _, held⟩ := traffic_of_ended orderly found opens went
          rw [handed, held]
          exact List.nil_sublist _

/-- A permitted step without a failure loses nothing. -/
theorem Steps.complete (orderly : crew.Orderly) (found : crew.runner? id = some runner)
    (steps : crew.Steps id runner next events) (permitted : runner.allowed = true)
    (unfailed : ∀ failure, .cycleEnded id (.error failure) ∉ events) :
    handovers events ++ next.held = crew.held ++ arrivals events := by
  cases steps with
  | asks idle waits told => exact traffic_of_asks orderly found idle waits told
  | leaves stood holds =>
      -- The worker has the lock and is in no cycle, so nothing is held that it could drop.
      have rests := current?_eq_none_of_stood found holds (by rw [stood]; rfl)
      rw [held_of_rest (orderly.of_leaves holds).2, held_of_rest rests,
        handovers_of_quiet quiet_of_leaves, arrivals_of_quiet quiet_of_leaves]
  | @settles opening turn opens =>
      cases went : turn.progress with
      | awaits await => exact traffic_of_awaits orderly found opens went
      | ended result =>
          obtain ⟨handed, arrived, held⟩ := traffic_of_ended orderly found opens went
          rw [handed, arrived, held]
          cases result with
          | ok report =>
              rw [opens.drained_of_completed orderly found permitted went, List.append_nil]
          | error failure =>
              obtain ⟨standing, told, settled, _⟩ :=
                settle_of_ended crew id runner went
              exact absurd (by simp [settled]) (unfailed failure)

end Crew

end Batching

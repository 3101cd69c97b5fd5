import Batching.Proofs.Journal
import Batching.Proofs.SingleSpan
import Batching.Proofs.Underway

namespace Batching

/-! A sink that counts what its accumulator counts.

An instrumented layer counts how deliveries end; the accumulator counts the messages that it
has dispatched and the cycles that have failed.  The layer counts inside the call and the
accumulator after it, but in the same move, so between two moves they have the same tally as
long as no call of the source fails and no call of the sink panics.  `Outlet.Counted` says so,
and `Outlet.Yields` what else a move does: it sends the world around it on at most one errand,
which is the call in progress afterwards.
-/

variable {M : Type}

/-- Calls that succeeded and calls that failed. -/
structure Tally where
  succeeded : Nat := 0
  failed : Nat := 0
deriving DecidableEq, Repr

namespace Tally

def plus (tally more : Tally) : Tally :=
  ⟨tally.succeeded + more.succeeded, tally.failed + more.failed⟩

theorem plus_zero (tally : Tally) : tally.plus {} = tally := rfl

end Tally

def Outcome.tally : Outcome Unit → Tally
  | .returned _ => { succeeded := 1 }
  | .failed _ | .panicked _ => { failed := 1 }

/-- What an answer adds to the tally of the accumulator. -/
def Cue.tally : Cue M → Tally
  | .resume | .received (.returned _) => {}
  | .received _ => { failed := 1 }
  | .processed outcome => outcome.tally

/-- The messages that come with an answer. -/
def Cue.brought : Cue M → List M
  | .received (.returned answer) => answer.toList
  | _ => []

namespace Move

def tally : Move M → Tally
  | .worker _ cue => cue.tally
  | _ => {}

def brought : Move M → List M
  | .worker _ cue => cue.brought
  | _ => []

/-- A move that no call of the source or the sink has to end for. -/
def isOwn : Move M → Bool
  | .worker _ (.received _) | .worker _ (.processed _) => false
  | _ => true

theorem of_isOwn {move : Move M} (own : move.isOwn = true) :
    move.tally = {} ∧ move.brought = [] := by
  cases move with
  | worker runner cue =>
      cases cue with
      | resume => exact ⟨rfl, rfl⟩
      | received | processed => cases own
  | begin | answer | joined | drop => exact ⟨rfl, rfl⟩

end Move

def Pipeline.tally (pipeline : Pipeline M) : Tally :=
  ⟨pipeline.counters.dispatched, pipeline.counters.failedCycles⟩

/-! ### The tally of the accumulator -/

namespace Pipeline

variable {pipeline : Pipeline M} {allowed : Bool} {cycle : Nat} {turn : Turn M}

theorem Continues.tally (continues : pipeline.Continues allowed cycle turn) :
    turn.pipeline.tally = pipeline.tally := by
  cases continues <;> rfl

theorem noteReceived_tally (pipeline : Pipeline M) (allowed : Bool) (answer : Option M) :
    (pipeline.noteReceived allowed answer).tally = pipeline.tally := by
  cases answer with
  | none => rfl
  | some message => cases allowed <;> rfl

theorem received_tally (pipeline : Pipeline M) (policy : Policy) (allowed : Bool)
    (now cycle index deadline timeout : Nat) (outcome : Outcome (Option M)) :
    (pipeline.received policy allowed now cycle index deadline timeout outcome).pipeline.tally =
      pipeline.tally.plus (Cue.received outcome).tally := by
  rcases pipeline.received_cases policy allowed now cycle index deadline timeout outcome with
    ⟨cause, failed, given⟩ | ⟨answer, rfl, continues⟩
  · rw [given]
    cases outcome with
    | returned => cases failed
    | failed | panicked => rfl
  · rw [continues.tally, noteReceived_tally]
    rfl

theorem processed_tally (pipeline : Pipeline M) (allowed : Bool) (cycle received : Nat)
    (reason : FillExit) (dispatched : Nat) (outcome : Outcome Unit) :
    (pipeline.processed allowed cycle received reason dispatched outcome).pipeline.tally =
      pipeline.tally.plus outcome.tally := by
  rcases pipeline.processed_cases allowed cycle received reason dispatched outcome with
    ⟨cause, failed, given⟩ | ⟨rfl, continues⟩
  · rw [given]
    cases outcome with
    | returned => cases failed
    | failed | panicked => rfl
  · rw [continues.tally]
    rfl

end Pipeline

/-! ### Errands -/

/-- What the world around an accumulator does for an event. -/
def Event.errand? : Event M → Option (OutletEvent M)
  | .receiveBegan runner cycle timeout => some (.seen (.receiveBegan runner cycle timeout))
  | .processBegan runner _ message => some (.deliveryBegan runner message)
  | _ => none

def errands (events : List (Event M)) : List (OutletEvent M) :=
  events.filterMap Event.errand?

def Await.errand (id : Nat) : Await M → OutletEvent M
  | .receive cycle _ _ timeout => .seen (.receiveBegan id cycle timeout)
  | .process _ _ _ _ message => .deliveryBegan id message

theorem errands_append (first rest : List (Event M)) :
    errands (first ++ rest) = errands first ++ errands rest :=
  List.filterMap_append

theorem errands_journal (events : List (Event M)) : errands (journal events) = errands events := by
  rw [errands, errands, journal, List.filterMap_filter]
  congr 1
  funext event
  cases event <;> rfl

theorem arrivals_journal (events : List (Event M)) :
    arrivals (journal events) = arrivals events := by
  rw [arrivals, arrivals, journal, List.filterMap_filter]
  congr 1
  funext event
  cases event <;> rfl

namespace Crew

variable {crew next : Crew M} {now id : Nat} {runner : Runner M} {cue : Cue M} {await : Await M}
  {events opening : List (Event M)} {turn : Turn M}

/-- The errand of the call in progress. -/
def errand? (crew : Crew M) : Option (OutletEvent M) :=
  crew.current?.map fun (id, await) => await.errand id

/-- A runner that waits for no call has no answer to take. -/
theorem step_rested (found : crew.runner? id = some runner)
    (rested : runner.standing.await? = none)
    (stepped : crew.step now id cue = some (next, events)) : cue = .resume := by
  rw [step, found] at stepped
  cases stood : runner.standing with
  | awaiting => rw [stood] at rested; cases rested
  | fresh | queued | pausing | leaving | exited | crashed =>
      cases cue with
      | resume => rfl
      | received | processed => simp [stood] at stepped

theorem step_received {cycle index deadline timeout : Nat}
    (waits : crew.awaitOf? id = some (.receive cycle index deadline timeout)) (now : Nat)
    (outcome : Outcome (Option M)) :
    ∃ next events, crew.step now id (.received outcome) = some (next, events) := by
  obtain ⟨runner, found, stood⟩ := Option.bind_eq_some_iff.mp waits
  cases standing : runner.standing <;> rw [standing] at stood <;> cases stood
  simp [step, found, standing]

theorem step_processed {cycle received dispatched : Nat} {reason : FillExit} {message : M}
    (waits : crew.awaitOf? id = some (.process cycle received reason dispatched message))
    (now : Nat) (outcome : Outcome Unit) :
    ∃ next events, crew.step now id (.processed outcome) = some (next, events) := by
  obtain ⟨runner, found, stood⟩ := Option.bind_eq_some_iff.mp waits
  cases standing : runner.standing <;> rw [standing] at stood <;> cases stood
  simp [step, found, standing]

theorem step_tally (stepped : crew.step now id cue = some (next, events)) :
    next.pipeline.tally = crew.pipeline.tally.plus cue.tally := by
  obtain ⟨runner, found, resumes⟩ := step_resumes stepped
  cases resumes with
  | asks idle =>
      cases step_rested found (rested_of_idle idle) stepped
      rfl
  | leaves stood =>
      cases step_rested found (by rw [stood]; rfl) stepped
      rfl
  | takes taken =>
      rw [pipeline_settle]
      cases taken with
      | begins => exact (Pipeline.beginCycle_continues ..).tally
      | receives => exact Pipeline.received_tally ..
      | processes => exact Pipeline.processed_tally ..

theorem errands_settle (orderly : crew.Orderly) (found : crew.runner? id = some runner)
    (opens : crew.Opens id runner opening turn) :
    errands (opening ++ (crew.settle id runner turn).2) =
      (crew.settle id runner turn).1.errand?.toList := by
  have opened : errands opening = [] := by cases opens <;> rfl
  rw [← errands_journal, journal_settle orderly found opens, errands_append, opened, errand?,
    inFlight]
  cases (crew.settle id runner turn).1.current? with
  | none => rfl
  | some call =>
      obtain ⟨caller, await⟩ := call
      cases await <;> rfl

theorem arrivals_settle (orderly : crew.Orderly) (found : crew.runner? id = some runner)
    (opens : crew.Opens id runner opening turn) :
    arrivals (opening ++ (crew.settle id runner turn).2) = arrivals opening := by
  rw [← arrivals_journal, journal_settle orderly found opens, arrivals_append, inFlight]
  cases (crew.settle id runner turn).1.current? with
  | none => exact List.append_nil _
  | some call =>
      obtain ⟨caller, await⟩ := call
      cases await <;> exact List.append_nil _

/-- Nothing arrives but what the answer brings. -/
theorem step_arrivals (orderly : crew.Orderly)
    (stepped : crew.step now id cue = some (next, events)) :
    ((arrivals events).map Handled.message).Sublist cue.brought := by
  obtain ⟨runner, found, resumes⟩ := step_resumes stepped
  cases resumes with
  | asks _ _ told =>
      rw [arrivals_of_quiet (quiet_of_asks told)]
      exact List.nil_sublist _
  | leaves =>
      rw [arrivals_of_quiet quiet_of_leaves]
      exact List.nil_sublist _
  | takes taken =>
      rw [arrivals_settle orderly found taken.opens]
      cases taken with
      | begins | processes => exact List.nil_sublist _
      | @receives _ _ _ _ outcome =>
          rcases outcome with ⟨_ | message⟩ | failure | payload
          · exact List.nil_sublist _
          · exact List.Sublist.refl _
          · exact List.nil_sublist _
          · exact List.nil_sublist _

theorem Steps.message? {other : Nat} {message : M} (found : crew.runner? id = some runner)
    (steps : crew.Steps id runner next events) (waits : next.message? other = some message) :
    (other ≠ id ∧ crew.message? other = some message) ∨
      ∃ cycle, .processBegan other cycle message ∈ events := by
  by_cases same : other = id
  · subst same
    right
    obtain ⟨await, awaits, given⟩ := Option.bind_eq_some_iff.mp waits
    cases steps with
    | asks idle rests =>
        rw [awaitOf?_stand_self (by exact found), rests_of_waits rests] at awaits
        cases awaits
    | leaves =>
        have rested : (crew.leave other).1.awaitOf? other = none :=
          awaitOf?_stand_self (by exact found)
        cases rested.symm.trans awaits
    | @settles opening turn opens =>
        cases went : turn.progress with
        | awaits call =>
            rw [settle_of_awaits went] at awaits ⊢
            rw [awaitOf?_stand_self (by exact found)] at awaits
            cases awaits
            cases await with
            | receive => cases given
            | process cycle =>
                cases given
                exact ⟨cycle, by simp [Await.event]⟩
        | ended result =>
            obtain ⟨standing, told, settled, rests, _⟩ := settle_of_ended crew other runner went
            rw [settled, awaitOf?_stand_self (by exact found), rests] at awaits
            cases awaits
  · refine .inl ⟨same, ?_⟩
    rwa [Crew.message?, steps.awaits_of_ne same] at waits

/-- A step begins the call in progress after it, or begins none and leaves that of another
runner alone. -/
theorem Steps.errands (orderly : crew.Orderly) (found : crew.runner? id = some runner)
    (steps : crew.Steps id runner next events) :
    (errands events = next.errand?.toList ∧
        (crew.awaitOf? id = none → crew.current? = none)) ∨
      errands events = [] ∧ next.current? = crew.current? ∧ crew.awaitOf? id = none := by
  cases steps with
  | asks idle waits told =>
      right
      refine ⟨?_, ?_, awaitOf?_eq_none_of_stood found (rested_of_idle idle)⟩
      · rcases told with rfl | rfl <;> rfl
      · exact current?_request_stand orderly found (rested_of_idle idle) (rests_of_waits waits)
  | leaves stood holds =>
      have rested : runner.standing.await? = none := by rw [stood]; rfl
      right
      refine ⟨?_, ?_, awaitOf?_eq_none_of_stood found rested⟩
      · rw [leave_events, errands_append, ← errands_journal,
          journal_of_aftermath (release_aftermath crew.cleared)]
        rfl
      · exact (orderly.of_leaves holds).2.trans (current?_eq_none_of_stood found holds rested).symm
  | settles opening opens =>
      refine .inl ⟨errands_settle orderly found opens, fun rested => ?_⟩
      simp [current?, opens.holds orderly found, rested]

end Crew

namespace Accumulator

variable {before after : Accumulator M} {now id : Nat} {move : Move M} {await : Await M}
  {cue : Cue M} {events : List (Event M)}

theorem Carries.tally (carried : before.Carries id after events) :
    after.crew.pipeline.tally = before.crew.pipeline.tally := by
  cases carried with
  | passes _ _ life | starts _ _ life | fails _ _ life | launches _ _ _ life
  | stops _ _ _ life | finishes _ _ life =>
      rw [show after.crew = _ from congrArg Life.crew life]
      rfl

/-- The owner does nothing to the tally and to the calls in progress. -/
theorem Acts.leaves_calls (acts : before.Acts now move after events)
    (unmanned : ∀ id cue, move ≠ .worker id cue) :
    after.crew.pipeline.tally = before.crew.pipeline.tally ∧ journal events = [] ∧
      after.crew.lock = before.crew.lock ∧
      ∀ other, after.crew.awaitOf? other = before.crew.awaitOf? other := by
  have carries {id : Nat} (carried : before.Carries id after events) :=
    And.intro carried.tally (And.intro carried.journal carried.calls_kept)
  cases acts with
  | enters _ entered => exact carries entered.carries
  | answers found proceeded | joins found proceeded => exact carries (proceeded.carries found)
  | works => exact absurd rfl (unmanned _ _)
  | drops => exact ⟨by rw [before.release_pipeline], rfl, before.release_calls_kept⟩

theorem crew_step (stepped : before.step now (.worker id cue) = some (after, events)) :
    before.crew.step now id cue = some (after.crew, events) := by
  unfold step at stepped
  dsimp only at stepped
  split at stepped
  · cases stepped
  · rename_i resumed
    cases stepped
    exact resumed

theorem Orderly.step_tally (orderly : before.Orderly)
    (stepped : before.step now move = some (after, events)) :
    after.crew.pipeline.tally = before.crew.pipeline.tally.plus move.tally := by
  cases move with
  | worker id cue => exact Crew.step_tally (crew_step stepped)
  | begin | answer | joined | drop =>
      exact ((orderly.step_acts stepped).leaves_calls (by simp)).1

theorem Orderly.step_arrivals (orderly : before.Orderly)
    (stepped : before.step now move = some (after, events)) :
    ((arrivals events).map Handled.message).Sublist move.brought := by
  cases move with
  | worker id cue => exact Crew.step_arrivals orderly.crew (crew_step stepped)
  | begin | answer | joined | drop =>
      have silent := ((orderly.step_acts stepped).leaves_calls (by simp)).2.1
      rw [← arrivals_journal, silent]
      exact List.nil_sublist _

/-- What goes to the sink and what is in the batch afterwards was in the batch or came with
the answer. -/
theorem Orderly.step_messages (orderly : before.Orderly)
    (stepped : before.step now move = some (after, events)) :
    ((handovers events).map Handled.message ++ after.crew.pipeline.batch.toList).Sublist
      (before.crew.pipeline.batch.toList ++ move.brought) := by
  have traffic := ((orderly.step_evolves stepped).traffic orderly).map Handled.message
  rw [List.map_append, List.map_append, orderly.crew.held_messages,
    (orderly.step stepped).crew.held_messages] at traffic
  exact traffic.trans ((orderly.step_arrivals stepped).append_left _)

/-- The moves that no answer is needed for go on with no call but their own: they begin one
only if there is none, and none ends. -/
theorem Orderly.step_own (orderly : before.Orderly) (own : move.isOwn = true)
    (stepped : before.step now move = some (after, events)) :
    (errands events = after.crew.errand?.toList ∧ before.crew.current? = none) ∨
      errands events = [] ∧ after.crew.current? = before.crew.current? := by
  cases move with
  | worker id cue =>
      have resumed := crew_step stepped
      obtain ⟨runner, found, steps⟩ := Crew.step_cases resumed
      have rested : before.crew.awaitOf? id = none := by
        cases cue with
        | received | processed => cases own
        | resume =>
            refine Crew.awaitOf?_eq_none_of_stood found ?_
            rw [Crew.step, found] at resumed
            cases stood : runner.standing <;> first | rfl | simp [stood] at resumed
      rcases steps.errands orderly.crew found with ⟨told, rests⟩ | ⟨told, kept, _⟩
      · exact .inl ⟨told, rests rested⟩
      · exact .inr ⟨told, kept⟩
  | begin | answer | joined | drop =>
      obtain ⟨_, silent, lock, awaits⟩ := (orderly.step_acts stepped).leaves_calls (by simp)
      exact .inr ⟨by rw [← errands_journal, silent]; rfl, Crew.current?_congr lock awaits⟩

/-- After the answer to a call, the call in progress is one that has just begun. -/
theorem Orderly.step_answer (orderly : before.Orderly)
    (waits : before.crew.awaitOf? id = some await)
    (stepped : before.step now (.worker id cue) = some (after, events)) :
    errands events = after.crew.errand?.toList := by
  obtain ⟨runner, found, steps⟩ := Crew.step_cases (crew_step stepped)
  rcases steps.errands orderly.crew found with ⟨told, _⟩ | ⟨_, _, rested⟩
  · exact told
  · cases rested.symm.trans waits

/-- A runner that waits for the sink was waiting for it, and has not been resumed, or has just
called it. -/
theorem Orderly.step_message? (orderly : before.Orderly)
    (stepped : before.step now move = some (after, events)) {message : M}
    (waits : after.crew.message? id = some message) :
    (before.crew.message? id = some message ∧ ∀ cue, move ≠ .worker id cue) ∨
      ∃ cycle, .processBegan id cycle message ∈ events := by
  cases move with
  | worker runner cue =>
      obtain ⟨resumed, found, steps⟩ := Crew.step_cases (crew_step stepped)
      rcases steps.message? found waits with ⟨different, kept⟩ | began
      · refine .inl ⟨kept, fun other same => different ?_⟩
        cases same
        rfl
      · exact .inr began
  | begin | answer | joined | drop =>
      have awaits := ((orderly.step_acts stepped).leaves_calls (by simp)).2.2.2
      rw [Crew.message?, awaits] at waits
      exact .inl ⟨waits, by simp⟩

end Accumulator

/-! ### The tally of the sink -/

namespace OutletEvent

/-- Something that the world around has to do before a call can go on. -/
def isErrand : OutletEvent M → Bool
  | .seen (.receiveBegan _ _ _) | .deliveryBegan _ _ | .paused _ _ => true
  | _ => false

def given? : OutletEvent M → Option M
  | .deliveryBegan _ message => some message
  | _ => none

end OutletEvent

/-- What is left to do for the calls. -/
def dues (events : List (OutletEvent M)) : List (OutletEvent M) :=
  events.filter OutletEvent.isErrand

theorem dues_append (first rest : List (OutletEvent M)) :
    dues (first ++ rest) = dues first ++ dues rest :=
  List.filter_append ..

theorem dues_cons {event : OutletEvent M} (errand : event.isErrand = true)
    (rest : List (OutletEvent M)) : dues (event :: rest) = event :: dues rest :=
  List.filter_cons_of_pos errand

theorem dues_noted (notices : List Notice) :
    dues (notices.map (OutletEvent.noted (M := M))) = [] := by
  simp [dues, OutletEvent.isErrand]

theorem given_errands (events : List (Event M)) :
    (errands events).filterMap OutletEvent.given? =
      (handovers events).map Handled.message := by
  rw [errands, handovers, List.filterMap_filterMap, List.map_filterMap]
  congr 1
  funext event
  cases event <;> rfl

namespace Outlet

variable {outlet entered next : Outlet M} {now runner : Nat} {move : Move M}
  {accumulator : Accumulator M} {seen : List (Event M)} {events : List (OutletEvent M)}

def crew (outlet : Outlet M) : Crew M :=
  outlet.accumulator.crew

def tally (outlet : Outlet M) : Tally :=
  outlet.crew.pipeline.tally

/-- The layers of a sink that is instrumented and nothing else. -/
def instrumented (tally : Tally) : List Layer :=
  [.instrumented tally.succeeded tally.failed]

/-- The sink has counted what the accumulator has counted, and it is being called with every
message that a runner waits for it to take. -/
structure Counted (outlet : Outlet M) : Prop where
  orderly : outlet.Orderly
  layers : outlet.layers = instrumented outlet.tally
  busy : ∀ {runner : Nat} {message : M}, outlet.crew.message? runner = some message →
    ∃ delivery, outlet.stage? runner = some (.delivering delivery)

/-- The accumulator has made the move, and both sides have counted what it adds.  The sink is
given the next messages of the batch and of those that the move brings. -/
structure Yields (before : Outlet M) (now : Nat) (move : Move M) (after : Outlet M)
    (events : List (OutletEvent M)) : Prop where
  stepped : ∃ seen, before.accumulator.step now move = some (after.accumulator, seen) ∧
    dues events = errands seen
  counted : after.Counted
  tally : after.tally = before.tally.plus move.tally
  messages : ((dues events).filterMap OutletEvent.given? ++
    after.crew.pipeline.batch.toList).Sublist (before.crew.pipeline.batch.toList ++ move.brought)

theorem followAll_layers (followed : outlet.followAll seen = (next, events)) :
    next.layers = outlet.layers := by
  induction seen generalizing outlet events with
  | nil => cases followed; rfl
  | cons event rest ih =>
      obtain ⟨middle, first, others, one, all, rfl⟩ := followAll_cons_iff.mp followed
      rw [ih all]
      cases event <;> cases one <;> rfl

theorem dues_followAll (followed : outlet.followAll seen = (next, events)) :
    dues events = errands seen := by
  induction seen generalizing outlet events with
  | nil => cases followed; rfl
  | cons event rest ih =>
      obtain ⟨middle, first, others, one, all, rfl⟩ := followAll_cons_iff.mp followed
      rw [dues_append, ih all]
      cases event <;> cases one <;> rfl

theorem delivering_followAll (followed : outlet.followAll seen = (next, events))
    (delivers : (∃ delivery, outlet.stage? runner = some (.delivering delivery)) ∨
      ∃ cycle message, .processBegan runner cycle message ∈ seen) :
    ∃ delivery, next.stage? runner = some (.delivering delivery) := by
  induction seen generalizing outlet events with
  | nil =>
      cases followed
      rcases delivers with there | ⟨cycle, message, began⟩
      · exact there
      · cases began
  | cons event rest ih =>
      obtain ⟨middle, first, others, one, all, rfl⟩ := followAll_cons_iff.mp followed
      refine ih all ?_
      cases event with
      | processBegan other cycle message =>
          cases one
          rw [stage?_enter]
          split
          · exact .inl ⟨_, rfl⟩
          · rename_i different
            refine delivers.imp_right fun ⟨cycle, message, began⟩ => ⟨cycle, message, ?_⟩
            rcases List.mem_cons.mp began with same | later
            · cases same
              exact absurd rfl different
            · exact later
      | _ =>
          cases one
          simpa using delivers

/-- The accumulator moves, the layers count what it counts, and nobody else's call is touched. -/
theorem Counted.follows (counted : outlet.Counted)
    (stepped : outlet.accumulator.step now move = some (accumulator, seen))
    (moved : entered.accumulator = accumulator)
    (layers : entered.layers = instrumented (outlet.tally.plus move.tally))
    (others : ∀ runner, (∀ cue, move ≠ .worker runner cue) →
      entered.stage? runner = outlet.stage? runner)
    (followed : entered.followAll seen = (next, events)) (orderly : next.Orderly) :
    outlet.Yields now move next events := by
  have same : next.accumulator = accumulator := (followAll_shows followed).1.trans moved
  have told := dues_followAll followed
  have tally : next.tally = outlet.tally.plus move.tally := by
    rw [Outlet.tally, crew, same]
    exact counted.orderly.accumulator.step_tally stepped
  refine
    { stepped := ⟨seen, same ▸ stepped, told⟩
      counted :=
        { orderly
          layers := by rw [followAll_layers followed, layers, tally]
          busy := fun {runner message} waits => ?_ }
      tally
      messages := ?_ }
  · rw [crew, same] at waits
    refine delivering_followAll followed ?_
    rcases counted.orderly.accumulator.step_message? stepped waits with ⟨kept, still⟩ | began
    · rw [others runner still]
      exact .inl (counted.busy kept)
    · obtain ⟨cycle, began⟩ := began
      exact .inr ⟨cycle, message, began⟩
  · rw [told, given_errands, crew, same]
    exact counted.orderly.accumulator.step_messages stepped

theorem step_life (unprocessed : ∀ runner outcome, move ≠ .worker runner (.processed outcome)) :
    outlet.step now (.life move) = outlet.advance now move := by
  cases move with
  | worker runner cue =>
      cases cue with
      | processed outcome => exact absurd rfl (unprocessed runner outcome)
      | resume | received => rfl
  | begin | answer | joined | drop => rfl

theorem Counted.life (counted : outlet.Counted)
    (unprocessed : ∀ runner outcome, move ≠ .worker runner (.processed outcome))
    (free : move.tally = {}) (stepped : outlet.step now (.life move) = some (next, events)) :
    outlet.Yields now move next events := by
  have orderly := counted.orderly.step stepped
  rw [step_life unprocessed] at stepped
  obtain ⟨accumulator, seen, moved, followed⟩ := advance_cases stepped
  refine counted.follows moved ?_ ?_ (fun _ _ => ?_) followed orderly
  · rfl
  · rw [free, Tally.plus_zero]
    exact counted.layers
  · rfl

/-- A move of its own begins a call only if there is none, and adds nothing to the tally. -/
theorem Counted.own (counted : outlet.Counted) (own : move.isOwn = true)
    (stepped : outlet.step now (.life move) = some (next, events)) :
    outlet.Yields now move next events ∧
      ((dues events = next.crew.errand?.toList ∧ outlet.crew.current? = none) ∨
        dues events = [] ∧ next.crew.current? = outlet.crew.current?) := by
  have unprocessed : ∀ runner outcome, move ≠ .worker runner (.processed outcome) := by
    rintro runner outcome rfl
    cases own
  have yields := counted.life unprocessed (Move.of_isOwn own).1 stepped
  obtain ⟨seen, moved, told⟩ := yields.stepped
  rw [told]
  exact ⟨yields, counted.orderly.accumulator.step_own own moved⟩

/-- The source answers the call in progress. -/
theorem Counted.received {cycle index deadline timeout : Nat} (counted : outlet.Counted)
    (waits : outlet.crew.awaitOf? runner = some (.receive cycle index deadline timeout))
    (now : Nat) (answer : Option M) :
    ∃ next events,
      outlet.step now (.life (.worker runner (.received (.returned answer)))) =
          some (next, events) ∧
        outlet.Yields now (.worker runner (.received (.returned answer))) next events ∧
        dues events = next.crew.errand?.toList := by
  obtain ⟨crew, shown, resumed⟩ := Crew.step_received waits now (.returned answer)
  obtain ⟨next, events, stepped⟩ : ∃ next events,
      outlet.step now (.life (.worker runner (.received (.returned answer)))) =
        some (next, events) := by
    rw [step_life (by simp), advance, Accumulator.step_worker _ resumed]
    exact ⟨_, _, rfl⟩
  have yields := counted.life (by simp) rfl stepped
  obtain ⟨seen, moved, told⟩ := yields.stepped
  refine ⟨next, events, stepped, yields, ?_⟩
  rw [told]
  exact counted.orderly.accumulator.step_answer waits moved

theorem settle_instrumented (sink : String) (tally : Tally) (delivery : Delivery M)
    {outcome : Outcome Unit} (calm : ∀ payload, outcome ≠ .panicked payload) :
    ∃ notices, delivery.settle sink (instrumented tally) outcome =
      (.ends outcome, instrumented (tally.plus outcome.tally), notices) := by
  cases outcome with
  | returned => exact ⟨_, rfl⟩
  | failed => exact ⟨_, rfl⟩
  | panicked payload => exact absurd rfl (calm payload)

/-- The sink takes the message that it is being called with, or fails. -/
theorem Counted.delivered {cycle received dispatched : Nat} {reason : FillExit} {message : M}
    {outcome : Outcome Unit} (counted : outlet.Counted)
    (waits : outlet.crew.awaitOf? runner =
      some (.process cycle received reason dispatched message))
    (now : Nat) (calm : ∀ payload, outcome ≠ .panicked payload) :
    ∃ next events, outlet.step now (.delivered runner outcome) = some (next, events) ∧
      outlet.Yields now (.worker runner (.processed outcome)) next events ∧
      dues events = next.crew.errand?.toList := by
  have calls : outlet.crew.message? runner = some message := by
    rw [Crew.message?, waits]
    rfl
  obtain ⟨delivery, found⟩ := counted.busy calls
  obtain ⟨notices, settled⟩ := settle_instrumented outlet.sink outlet.tally delivery calm
  obtain ⟨crew, seen, resumed⟩ := Crew.step_processed waits now outcome
  have moved := Accumulator.step_worker _ resumed
  obtain ⟨next, entered, followed⟩ : ∃ next entered,
      { outlet.finish runner with
        accumulator := { outlet.accumulator with crew }
        layers := instrumented (outlet.tally.plus outcome.tally) }.followAll seen =
        (next, entered) := ⟨_, _, rfl⟩
  have stepped : outlet.step now (.delivered runner outcome) =
      some (next, notices.map OutletEvent.noted ++ entered) := by
    simp only [step, found, settle, counted.layers, settled]
    simp only [advance, finish] at followed ⊢
    rw [moved]
    simp only [followed]
  have yields := counted.follows moved ?_ ?_ (fun other still => ?_) followed
    (counted.orderly.step stepped)
  · have told : dues (notices.map OutletEvent.noted ++ entered) = dues entered := by
      rw [dues_append, dues_noted, List.nil_append]
    obtain ⟨_, again, errands⟩ := yields.stepped
    refine ⟨next, _, stepped, ?_, ?_⟩
    · exact
        { stepped := told ▸ yields.stepped
          counted := yields.counted
          tally := yields.tally
          messages := told ▸ yields.messages }
    · rw [told, errands]
      exact counted.orderly.accumulator.step_answer waits again
  · rfl
  · rfl
  · have different : other ≠ runner := fun same => still _ (by rw [same])
    exact (outlet.stage?_finish runner other).trans (if_neg different)

end Outlet

end Batching

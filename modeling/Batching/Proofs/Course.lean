import Batching.History

namespace Batching

/-! The course of a call of the owner.

A call enters the accumulator, proceeds from one place where it waits to the next, and
departs: it returns, or waits for a worker first.  `Enters` and `Proceeds` say of each leg
when it is possible, what becomes of the accumulator and what is seen.  `step_acts` shows
that a move is one such leg, resumes a worker or drops the accumulator.
-/

variable {M : Type}

namespace Crew

def markStarted (crew : Crew M) (now : Nat) : Crew M :=
  { crew with pipeline :=
      { crew.pipeline with counters := crew.pipeline.counters.markStarted now } }

def cleared (crew : Crew M) : Crew M :=
  { crew with pipeline := { crew.pipeline with batch := Batch.empty } }

end Crew

/-- The calls that wait for the latest worker before they return. -/
def Call.joins : Call → Bool
  | .join | .shutdown => true
  | .start | .stop | .setPolicy _ => false

namespace CallPoint

/-- An answer that takes a caller from one call of a collaborator to the next. -/
inductive Leads : CallPoint → Request → Except Failure Unit → CallPoint → Request → Prop where
  | acquired : Leads .acquiring .acquireSource (.ok ()) .startingSink .startSink
  | sinkStarted : Leads .startingSink .startSink (.ok ()) .startingSource .startSource
  | sourceFailed {failure : Failure} :
      Leads .startingSource .startSource (.error failure) (.rollingBack failure) .stopSink
  | sinkStopped {result : Except Failure Unit} :
      Leads .stoppingSink .stopSink result
        (.stoppingSource (Accumulator.noteFailure [] "sink" result)) .stopSource

/-- An answer that puts an end to a start, with the failure that the start returns. -/
inductive Fails : CallPoint → Request → Except Failure Unit → Failure → Prop where
  | unacquired {failure : Failure} :
      Fails .acquiring .acquireSource (.error failure) (failure.atStartup "acquire source")
  | sinkFailed {failure : Failure} :
      Fails .startingSink .startSink (.error failure) (failure.atStartup "start sink")
  | rolledBack {cause : Failure} {result : Except Failure Unit} :
      Fails (.rollingBack cause) .stopSink result (cause.atStartup "start source")

end CallPoint

/-- The call may come to the place where its caller is. -/
def Caller.Fits (caller : Caller) : Prop :=
  match caller.point with
  | .acquiring | .startingSink | .startingSource | .rollingBack _ => caller.call = .start
  | .stoppingSink | .stoppingSource _ => caller.call = .stop ∨ caller.call = .shutdown
  | .joining _ _ => caller.call.joins = true
  | .returned _ => True

namespace Accumulator

variable {placed before after : Accumulator M} {now id : Nat} {call : Call} {caller : Caller}
  {events : List (Event M)}

/-- What a stop says of the messages that it finds in the batch. -/
def clearing (accumulator : Accumulator M) : List (Event M) :=
  if 0 < accumulator.pending then
    [.logged (.clearedOnStop accumulator.name accumulator.pending)]
  else []

/-- Puts a new caller down, who has done nothing yet. -/
def enroll (accumulator : Accumulator M) (call : Call) : Accumulator M :=
  { accumulator with callers := accumulator.callers ++ [⟨call, .acquiring⟩] }

def Fitting (accumulator : Accumulator M) : Prop :=
  ∀ (id : Nat) (caller : Caller), accumulator.callers[id]? = some caller → caller.Fits

/-- A caller that is through with starting and stopping returns.  One that joins takes the
latest worker with it, if nobody has yet, and returns when that worker is gone. -/
inductive Departs (placed : Accumulator M) (id : Nat) (joins : Bool)
    (result : Except Failure Unit) : Accumulator M → List (Event M) → Prop where
  | returns (free : joins = true → placed.latest = none) :
      Departs placed id joins result (placed.moveTo id (.returned result)) [.returned id result]
  | collects {worker : Nat} (joined : joins = true) (slot : placed.latest = some worker)
      (gone : placed.isGone worker = true) :
      Departs placed id joins result
        ({ placed with latest := none }.moveTo id (.returned result))
        (placed.joinNotices worker ++ [.returned id result])
  | waits {worker : Nat} (joined : joins = true) (slot : placed.latest = some worker)
      (present : placed.isGone worker = false) :
      Departs placed id joins result
        ({ placed with latest := none }.moveTo id (.joining worker result)) []

/-- How a call goes to its first place. -/
inductive Enters (placed : Accumulator M) (id : Nat) (call : Call) :
    Accumulator M → List (Event M) → Prop where
  | refused {action : String} (called : call = .start ∨ ∃ policy, call = .setPolicy policy)
      (busy : placed.state ≠ .stopped) :
      Enters placed id call
        (placed.moveTo id (.returned (.error (.invalidState action placed.state))))
        [.returned id (.error (.invalidState action placed.state))]
  | adopts {policy : Policy} (called : call = .setPolicy policy)
      (was : placed.state = .stopped) :
      Enters placed id call ({ placed with policy }.moveTo id (.returned (.ok ())))
        [.returned id (.ok ())]
  | departs {result : Except Failure Unit} {after : Accumulator M} {events : List (Event M)}
      (called : call = .join ∨ (call = .stop ∨ call = .shutdown) ∧ placed.state ≠ .running)
      (departed : placed.Departs id call.joins result after events) :
      Enters placed id call after events
  | starts (called : call = .start) (was : placed.state = .stopped) :
      Enters placed id call ({ placed with state := .starting }.moveTo id .acquiring)
        [.logged (.starting placed.name), .requested id .acquireSource]
  | stops {worker : Nat} (called : call = .stop ∨ call = .shutdown)
      (was : placed.state = .running) (active : placed.active = some worker) :
      Enters placed id call
        ({ placed with
            crew := placed.crew.withdraw worker
            state := .stopping
            active := none }.moveTo id .stoppingSink)
        [.logged (.stopping placed.name), .requested id .stopSink]

/-- How a caller goes on from the place where it waits. -/
inductive Proceeds (before : Accumulator M) (now id : Nat) (caller : Caller) :
    Accumulator M → List (Event M) → Prop where
  | asks {answered asked : Request} {result : Except Failure Unit} {next : CallPoint}
      (leads : caller.point.Leads answered result next asked) :
      Proceeds before now id caller (before.moveTo id next)
        [.answered id answered result, .requested id asked]
  | fails {answered : Request} {result : Except Failure Unit} {failure : Failure}
      {noted : List (Event M)} (failed : caller.point.Fails answered result failure)
      (told : noted = [] ∨ ∃ cause, noted = [.logged (.sinkRollbackFailed before.name cause)]) :
      Proceeds before now id caller
        ({ before with state := .stopped }.moveTo id (.returned (.error failure)))
        (.answered id answered result :: (noted ++
          [.logged (.startFailed before.name failure), .returned id (.error failure)]))
  | launches (stood : caller.point = .startingSource) :
      Proceeds before now id caller
        ({ before with
            crew := (before.crew.markStarted now).hire before.policy true
            state := .running
            active := some before.crew.runners.length
            latest := some before.crew.runners.length }.moveTo id (.returned (.ok ())))
        [.answered id .startSource (.ok ()), .spawned before.crew.runners.length,
          .logged (.started before.name before.policy), .returned id (.ok ())]
  | finishes {failures : List String} {result outcome : Except Failure Unit}
      {noted : List (Event M)} {after : Accumulator M} {events : List (Event M)}
      (stood : caller.point = .stoppingSource failures)
      (told : noted = [] ∨ noted = [.logged (.stopped before.name)])
      (departed : { before with crew := before.crew.cleared, state := .stopped }.Departs id
        (decide (caller.call = Call.shutdown)) outcome after events) :
      Proceeds before now id caller after
        (.answered id .stopSource result :: (before.clearing ++ (noted ++ events)))
  | joined {worker : Nat} {result : Except Failure Unit}
      (stood : caller.point = .joining worker result) (gone : before.isGone worker = true) :
      Proceeds before now id caller (before.moveTo id (.returned result))
        (before.joinNotices worker ++ [.returned id result])

/-- Everything that a move can do. -/
inductive Acts (before : Accumulator M) (now : Nat) :
    Move M → Accumulator M → List (Event M) → Prop where
  | enters {call : Call} {after : Accumulator M} {events : List (Event M)}
      (kept : before.dropped = false)
      (entered : (before.enroll call).Enters before.callers.length call after events) :
      Acts before now (.begin call) after events
  | answers {id : Nat} {caller : Caller} {result : Except Failure Unit} {after : Accumulator M}
      {events : List (Event M)} (found : before.callers[id]? = some caller)
      (proceeded : before.Proceeds now id caller after events) :
      Acts before now (.answer id result) after events
  | joins {id : Nat} {caller : Caller} {after : Accumulator M} {events : List (Event M)}
      (found : before.callers[id]? = some caller)
      (proceeded : before.Proceeds now id caller after events) :
      Acts before now (.joined id) after events
  | works {id : Nat} {cue : Cue M} {crew : Crew M} {events : List (Event M)}
      (stepped : before.crew.step now id cue = some (crew, events)) :
      Acts before now (.worker id cue) { before with crew } events
  | drops (kept : before.dropped = false) (idle : before.idle = true) :
      Acts before now .drop before.release []

theorem callers_moveTo (accumulator : Accumulator M) (id other : Nat) (point : CallPoint) :
    (accumulator.moveTo id point).callers[other]? =
      if other = id then accumulator.callers[id]?.map fun held => { held with point }
      else accumulator.callers[other]? := by
  simp only [moveTo, List.getElem?_modify]
  by_cases same : other = id
  · subst other
    cases accumulator.callers[id]? <;> simp
  · cases accumulator.callers[other]? <;> simp [same, Ne.symm same]

theorem bind_point_moveTo {α : Type} (f : CallPoint → Option α) (accumulator : Accumulator M)
    (id other : Nat) (point : CallPoint) :
    ((accumulator.moveTo id point).callers[other]?.bind fun caller => f caller.point) =
      if other = id then accumulator.callers[id]?.bind fun _ => f point
      else accumulator.callers[other]?.bind fun caller => f caller.point := by
  rw [callers_moveTo]
  split
  · cases accumulator.callers[id]? <;> rfl
  · rfl

/-! ### Departures -/

theorem join_departs (placed : Accumulator M) (id : Nat) (result : Except Failure Unit) :
    placed.Departs id true result (placed.join id result).1 (placed.join id result).2 := by
  cases slot : placed.latest with
  | none =>
      simp only [join, slot]
      exact .returns fun _ => slot
  | some worker =>
      cases gone : placed.isGone worker with
      | true =>
          have taken : { placed with latest := none }.isGone worker = true := gone
          simp only [join, slot, taken]
          exact .collects rfl slot gone
      | false =>
          have taken : { placed with latest := none }.isGone worker = false := gone
          simp only [join, slot, taken]
          exact .waits rfl slot gone

theorem afterStop_departs (placed : Accumulator M) (id : Nat) (call : Call)
    (result : Except Failure Unit) :
    placed.Departs id (decide (call = .shutdown)) result (placed.afterStop id call result).1
      (placed.afterStop id call result).2 := by
  cases call with
  | shutdown => exact join_departs placed id result
  | start | stop | join | setPolicy => exact .returns (by simp)

/-! ### Entries -/

theorem beginStart_enters (placed : Accumulator M) (id : Nat) :
    placed.Enters id .start (placed.beginStart id).1 (placed.beginStart id).2 := by
  unfold beginStart
  split
  · rename_i stopped
    exact .starts rfl stopped
  · rename_i busy
    exact .refused (.inl rfl) busy

theorem changePolicy_enters (placed : Accumulator M) (id : Nat) (policy : Policy) :
    placed.Enters id (.setPolicy policy) (placed.changePolicy id policy).1
      (placed.changePolicy id policy).2 := by
  unfold changePolicy
  split
  · rename_i stopped
    exact .adopts rfl stopped
  · rename_i busy
    exact .refused (.inr ⟨policy, rfl⟩) busy

theorem beginStop_enters (placed : Accumulator M) (id : Nat)
    (called : call = .stop ∨ call = .shutdown)
    (manned : placed.state = .running → placed.active ≠ none) :
    placed.Enters id call (placed.beginStop id call).1 (placed.beginStop id call).2 := by
  have departs (idle : placed.state ≠ .running) (result : Except Failure Unit) :
      placed.Enters id call (placed.afterStop id call result).1
        (placed.afterStop id call result).2 := by
    have joins : decide (call = .shutdown) = call.joins := by
      rcases called with rfl | rfl <;> rfl
    exact .departs (.inr ⟨called, idle⟩) (joins ▸ afterStop_departs placed id call result)
  cases state : placed.state with
  | stopped | stopping | starting =>
      simp only [beginStop, state]
      exact departs (by simp [state]) _
  | running =>
      cases active : placed.active with
      | none => exact absurd active (manned state)
      | some worker =>
          simp only [beginStop, state, active]
          exact .stops called state active

theorem beginCall_enters (before : Accumulator M) (call : Call)
    (manned : before.state = .running → before.active ≠ none) :
    (before.enroll call).Enters before.callers.length call (before.beginCall call).1
      (before.beginCall call).2 := by
  cases call with
  | start => exact beginStart_enters ..
  | stop => exact beginStop_enters _ _ (.inl rfl) manned
  | shutdown => exact beginStop_enters _ _ (.inr rfl) manned
  | join => exact .departs (.inl rfl) (join_departs ..)
  | setPolicy policy => exact changePolicy_enters ..

/-! ### Answers -/

theorem finishStop_proceeds (before : Accumulator M) (now id : Nat) (call : Call)
    (failures left : List String) (result : Except Failure Unit) :
    before.Proceeds now id ⟨call, .stoppingSource failures⟩ (before.finishStop id call left).1
      (.answered id .stopSource result :: (before.finishStop id call left).2) := by
  cases left with
  | nil => exact .finishes rfl (.inr rfl) (afterStop_departs ..)
  | cons failure rest => exact .finishes rfl (.inl rfl) (afterStop_departs ..)

theorem answerCall_proceeds {request : Request} {result : Except Failure Unit}
    (asked : caller.request? = some request)
    (answered : before.answerCall now id caller result = some (after, events)) :
    before.Proceeds now id caller after (.answered id request result :: events) := by
  obtain ⟨call, point⟩ := caller
  cases point with
  | acquiring =>
      cases asked
      cases result <;> cases answered
      · exact .fails .unacquired (.inl rfl)
      · exact .asks .acquired
  | startingSink =>
      cases asked
      cases result <;> cases answered
      · exact .fails .sinkFailed (.inl rfl)
      · exact .asks .sinkStarted
  | startingSource =>
      cases asked
      cases result <;> cases answered
      · exact .asks .sourceFailed
      · exact .launches rfl
  | rollingBack cause =>
      cases asked
      cases result <;> cases answered
      · rename_i failure
        exact .fails .rolledBack (.inr ⟨failure, rfl⟩)
      · exact .fails .rolledBack (.inl rfl)
  | stoppingSink =>
      cases asked
      cases result <;> cases answered <;> exact .asks .sinkStopped
  | stoppingSource failures =>
      cases asked
      have ended := finishStop_proceeds before now id call failures
        (noteFailure failures "source" result) result
      cases result <;> rw [Option.some.inj answered] at ended <;> exact ended
  | joining | returned => cases asked

theorem joinedCall_proceeds (joined : before.joinedCall id caller = some (after, events)) :
    before.Proceeds now id caller after events := by
  unfold joinedCall at joined
  split at joined
  · rename_i worker result stood
    split at joined
    · rename_i gone
      cases joined
      exact .joined stood gone
    · cases joined
  · cases joined

/-- A move takes a caller one leg further, resumes a worker or drops the accumulator.  The
first stop of a running span finds the worker of that span. -/
theorem step_acts {move : Move M}
    (manned : before.state = .running → before.dropped = false → before.active ≠ none)
    (stepped : before.step now move = some (after, events)) :
    before.Acts now move after events := by
  cases move with
  | begin call =>
      cases kept : before.dropped <;> simp only [step, kept] at stepped
      · have entered := beginCall_enters before call fun running => manned running kept
        rw [Option.some.inj stepped] at entered
        exact .enters kept entered
      · cases stepped
  | answer id result =>
      simp only [step] at stepped
      split at stepped
      · cases stepped
      · rename_i caller found
        split at stepped
        · rename_i request _ _ asked answered
          cases stepped
          exact .answers found (answerCall_proceeds asked answered)
        · cases stepped
  | joined id =>
      simp only [step] at stepped
      split at stepped
      · cases stepped
      · rename_i caller found
        exact .joins found (joinedCall_proceeds stepped)
  | worker id cue =>
      simp only [step] at stepped
      split at stepped
      · cases stepped
      · rename_i crew _ resumed
        cases stepped
        exact .works resumed
  | drop =>
      simp only [step] at stepped
      split at stepped
      · cases stepped
      · rename_i permitted
        cases stepped
        exact .drops (by simp_all) (by simp_all)

theorem step_worker (accumulator : Accumulator M) {cue : Cue M} {crew : Crew M}
    (resumed : accumulator.crew.step now id cue = some (crew, events)) :
    accumulator.step now (.worker id cue) = some ({ accumulator with crew }, events) := by
  simp [step, resumed]

/-! ### What becomes of the callers -/

theorem enroll_found (accumulator : Accumulator M) (call : Call) :
    (accumulator.enroll call).callers[accumulator.callers.length]? =
      some ⟨call, .acquiring⟩ := by
  simp [enroll]

theorem Departs.callers {joins : Bool} {result : Except Failure Unit}
    (departed : placed.Departs id joins result after events) :
    ∃ point, after.callers = placed.callers.modify id fun held => { held with point } := by
  cases departed with
  | returns | collects | waits => exact ⟨_, rfl⟩

theorem Enters.callers
    (entered : (before.enroll call).Enters before.callers.length call after events) :
    ∃ point, after.callers = before.callers ++ [⟨call, point⟩] := by
  have placed : ∃ point, after.callers =
      (before.enroll call).callers.modify before.callers.length fun held =>
        { held with point } := by
    cases entered with
    | refused | adopts | starts | stops => exact ⟨_, rfl⟩
    | departs _ departed => exact departed.callers
  obtain ⟨point, callers⟩ := placed
  exact ⟨point, callers.trans (by simp [enroll, List.modify_eq_take_drop])⟩

theorem Proceeds.callers (proceeded : before.Proceeds now id caller after events) :
    ∃ point, after.callers = before.callers.modify id fun held => { held with point } := by
  cases proceeded with
  | asks | fails | launches | joined => exact ⟨_, rfl⟩
  | finishes _ _ departed => exact departed.callers

/-- Whoever goes on has not returned. -/
theorem Proceeds.unreturned (proceeded : before.Proceeds now id caller after events) :
    caller.result? = none := by
  obtain ⟨call, point⟩ := caller
  cases proceeded with
  | asks leads => cases leads <;> rfl
  | fails failed => cases failed <;> rfl
  | launches stood | finishes stood | joined stood => cases stood; rfl

/-- A move leaves the callers where they are, takes one further or adds a new one. -/
inductive Gathers (before after : Accumulator M) : Move M → Prop where
  | keeps {move : Move M} (callers : after.callers = before.callers) : Gathers before after move
  | moves {move : Move M} {id : Nat} {caller : Caller} {point : CallPoint}
      (found : before.callers[id]? = some caller) (unreturned : caller.result? = none)
      (callers : after.callers = before.callers.modify id fun held => { held with point }) :
      Gathers before after move
  | adds {call : Call} {point : CallPoint}
      (callers : after.callers = before.callers ++ [⟨call, point⟩]) :
      Gathers before after (.begin call)

theorem release_callers (accumulator : Accumulator M) :
    accumulator.release.callers = accumulator.callers := by
  unfold release
  split <;> rfl

theorem Acts.gathers {move : Move M} (acts : before.Acts now move after events) :
    before.Gathers after move := by
  cases acts with
  | enters _ entered =>
      obtain ⟨point, callers⟩ := entered.callers
      exact .adds callers
  | answers found proceeded | joins found proceeded =>
      obtain ⟨point, callers⟩ := proceeded.callers
      exact .moves found proceeded.unreturned callers
  | works => exact .keeps rfl
  | drops => exact .keeps (release_callers before)

/-- The calls made so far, each under the number of its caller. -/
def calls (accumulator : Accumulator M) : List Call :=
  accumulator.callers.map Caller.call

theorem Gathers.calls {move : Move M} (gathers : before.Gathers after move) :
    after.calls = before.calls ∨
      ∃ call, move = .begin call ∧ after.calls = before.calls ++ [call] := by
  cases gathers with
  | keeps callers => exact .inl (by rw [Accumulator.calls, callers, Accumulator.calls])
  | moves _ _ callers =>
      refine .inl (List.ext_getElem? fun other => ?_)
      simp only [Accumulator.calls, callers, List.getElem?_map, List.getElem?_modify]
      cases before.callers[other]? with
      | none => rfl
      | some held => simp only [Option.map_eq_map, Option.map_some]; split <;> rfl
  | @adds call _ callers =>
      exact .inr ⟨call, rfl, by rw [Accumulator.calls, callers, List.map_append]; rfl⟩

theorem Gathers.calls_on {move : Move M} (gathers : before.Gathers after move)
    (called : before.calls[id]? = some call) : after.calls[id]? = some call := by
  rcases gathers.calls with same | ⟨added, _, grown⟩
  · rw [same, called]
  · rw [grown, List.getElem?_append_left (List.getElem?_eq_some_iff.mp called).1, called]

theorem Gathers.calls_back {move : Move M} (gathers : before.Gathers after move)
    (called : after.calls[id]? = some call) :
    before.calls[id]? = some call ∨ move = .begin call := by
  rcases gathers.calls with same | ⟨added, began, grown⟩
  · exact .inl (same ▸ called)
  · rw [grown, List.getElem?_append] at called
    split at called
    · exact .inl called
    · rw [List.getElem?_singleton] at called
      split at called
      · cases called
        exact .inr began
      · cases called

theorem Gathers.result?_kept {move : Move M} (gathers : before.Gathers after move)
    {result : Except Failure Unit} (returned : before.result? id = some result) :
    after.result? id = some result := by
  obtain ⟨held, there, given⟩ := Option.bind_eq_some_iff.mp returned
  cases gathers with
  | keeps callers => rw [result?, callers, ← result?, returned]
  | @moves _ mover caller _ found unreturned callers =>
      have different : mover ≠ id := by
        rintro rfl
        cases found.symm.trans there
        exact nomatch unreturned.symm.trans given
      rw [result?, callers, List.getElem?_modify_ne _ _ different, ← result?, returned]
  | adds callers =>
      have within := (List.getElem?_eq_some_iff.mp there).1
      rw [result?, callers, List.getElem?_append_left within, ← result?, returned]

/-! ### Calls at their places -/

theorem fitting_moveTo (point : CallPoint) (callers : after.callers = before.callers)
    (found : before.callers[id]? = some caller) (fits : Caller.Fits ⟨caller.call, point⟩)
    (others : ∀ other held, other ≠ id → before.callers[other]? = some held → held.Fits) :
    (after.moveTo id point).Fitting := by
  intro other held there
  rw [callers_moveTo, callers] at there
  split at there
  · rw [found] at there
    exact Option.some.inj there ▸ fits
  · rename_i different
    exact others other held different there

theorem Departs.fitting {joins : Bool} {result : Except Failure Unit}
    (departed : placed.Departs id joins result after events)
    (found : placed.callers[id]? = some caller) (called : joins = true → caller.call.joins = true)
    (others : ∀ other held, other ≠ id → placed.callers[other]? = some held → held.Fits) :
    after.Fitting := by
  cases departed with
  | returns | collects => exact fitting_moveTo (.returned _) (by rfl) found trivial others
  | waits joined => exact fitting_moveTo (.joining _ _) (by rfl) found (called joined) others

theorem Enters.fitting (fitting : before.Fitting)
    (entered : (before.enroll call).Enters before.callers.length call after events) :
    after.Fitting := by
  have found := enroll_found before call
  have others : ∀ other held, other ≠ before.callers.length →
      (before.enroll call).callers[other]? = some held → held.Fits := by
    intro other held different there
    simp only [enroll, List.getElem?_append, List.getElem?_singleton] at there
    split at there
    · exact fitting other held there
    · rw [if_neg (by omega)] at there
      cases there
  cases entered with
  | refused | adopts => exact fitting_moveTo (.returned _) (by rfl) found trivial others
  | departs _ departed => exact departed.fitting found (fun joins => joins) others
  | starts called => exact fitting_moveTo .acquiring (by rfl) found called others
  | stops called => exact fitting_moveTo .stoppingSink (by rfl) found called others

theorem Proceeds.fitting (fitting : before.Fitting) (found : before.callers[id]? = some caller)
    (proceeded : before.Proceeds now id caller after events) : after.Fitting := by
  have fits := fitting id caller found
  have others : ∀ other held, other ≠ id → before.callers[other]? = some held → held.Fits :=
    fun other held _ there => fitting other held there
  obtain ⟨call, point⟩ := caller
  cases proceeded with
  | asks leads => cases leads <;> exact fitting_moveTo _ (by rfl) found (by exact fits) others
  | fails | launches | joined =>
      exact fitting_moveTo (.returned _) (by rfl) found trivial others
  | finishes stood _ departed =>
      refine departed.fitting (by exact found) (fun shutdown => ?_) others
      rw [of_decide_eq_true shutdown]
      rfl

/-- Every call stays at places of its kind. -/
theorem Acts.fitting {move : Move M} (acts : before.Acts now move after events)
    (fitting : before.Fitting) : after.Fitting := by
  cases acts with
  | enters _ entered => exact entered.fitting fitting
  | answers found proceeded | joins found proceeded => exact proceeded.fitting fitting found
  | works => exact fitting
  | drops =>
      unfold release
      split <;> exact fitting

end Accumulator

end Batching

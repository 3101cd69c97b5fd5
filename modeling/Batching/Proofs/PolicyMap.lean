import Batching.Proofs.FillProgress

namespace Batching

/-! Other policies in the same places.

The calls of the owner only hand policies on, so whatever policies stand in their place an
accumulator does the same.  A fill phase reads a policy, but of its caps only which of them is
the lower and how low it is.  So a map of policies that keeps this commutes with every step, and
with every run.
-/

variable {M : Type}

/-- Policies that limit a fill phase alike. -/
structure Policy.Alike (policy other : Policy) : Prop where
  cap : policy.cap = other.cap
  capExit : policy.capExit = other.capExit
  batchTimeout : policy.batchTimeout = other.batchTimeout

/-! ### Fill phases -/

section

variable {policy other : Policy} {pipeline : Pipeline M} {allowed : Bool}
  {now cycle index deadline timeout : Nat}

theorem Policy.completion_eq (within : index ≤ policy.cap) :
    policy.completion index index = if index = policy.cap then some policy.capExit else none := by
  split
  · rename_i full
    rw [full, policy.completion_cap]
  · exact Policy.completion_of_lt (by omega)

theorem fill_alike (alike : policy.Alike other) (size : pipeline.batch.size = index)
    (within : index ≤ other.cap) :
    pipeline.fill policy allowed now cycle index deadline =
      pipeline.fill other allowed now cycle index deadline := by
  have same : policy.completion index index = other.completion index index := by
    rw [Policy.completion_eq (alike.cap ▸ within), Policy.completion_eq within, alike.cap,
      alike.capExit]
  simp only [Pipeline.fill, size, same]

theorem beginCycle_alike (alike : policy.Alike other) (drained : pipeline.batch.size = 0) :
    pipeline.beginCycle policy allowed now = pipeline.beginCycle other allowed now := by
  simp only [Pipeline.beginCycle, alike.batchTimeout]
  exact fill_alike alike drained (Nat.zero_le _)

theorem received_alike (alike : policy.Alike other)
    (size : allowed = true → pipeline.batch.size = index) (short : index < other.cap)
    (outcome : Outcome (Option M)) :
    pipeline.received policy allowed now cycle index deadline timeout outcome =
      pipeline.received other allowed now cycle index deadline timeout outcome := by
  unfold Pipeline.received
  split
  · rfl
  · rfl
  · rename_i message given
    cases allowed with
    | false => rfl
    | true =>
        refine fill_alike alike ?_ short
        rw [Batch.size_eq_length, Batch.toList_append, List.length_append, ← Batch.size_eq_length,
          size rfl]
        rfl

end

/-! ### The map -/

def Runner.mapPolicy (f : Policy → Policy) (runner : Runner M) : Runner M :=
  { runner with policy := f runner.policy }

def Crew.mapPolicy (f : Policy → Policy) (crew : Crew M) : Crew M :=
  { crew with runners := crew.runners.map (Runner.mapPolicy f) }

def Call.mapPolicy (f : Policy → Policy) : Call → Call
  | .setPolicy policy => .setPolicy (f policy)
  | call => call

def Caller.mapPolicy (f : Policy → Policy) (caller : Caller) : Caller :=
  { caller with call := caller.call.mapPolicy f }

def Notice.mapPolicy (f : Policy → Policy) : Notice → Notice
  | .started accumulator policy => .started accumulator (f policy)
  | notice => notice

def Event.mapPolicy (f : Policy → Policy) : Event M → Event M
  | .logged notice => .logged (notice.mapPolicy f)
  | event => event

def Move.mapPolicy (f : Policy → Policy) : Move M → Move M
  | .begin call => .begin (call.mapPolicy f)
  | move => move

def DrillMove.mapPolicy (f : Policy → Policy) : DrillMove M → DrillMove M
  | .call policy => .call (f policy)
  | move => move

def Accumulator.mapPolicy (f : Policy → Policy) (accumulator : Accumulator M) : Accumulator M :=
  { accumulator with
    crew := accumulator.crew.mapPolicy f
    policy := f accumulator.policy
    callers := accumulator.callers.map (Caller.mapPolicy f) }

/-! What the map leaves alone. -/

section

variable (f : Policy → Policy)

@[simp] theorem Runner.mapPolicy_standing (runner : Runner M) :
    (runner.mapPolicy f).standing = runner.standing := rfl

@[simp] theorem Runner.mapPolicy_repeats (runner : Runner M) :
    (runner.mapPolicy f).repeats = runner.repeats := rfl

@[simp] theorem Runner.mapPolicy_allowed (runner : Runner M) :
    (runner.mapPolicy f).allowed = runner.allowed := rfl

@[simp] theorem Runner.mapPolicy_hasCrashed (runner : Runner M) :
    (runner.mapPolicy f).hasCrashed = runner.hasCrashed := rfl

@[simp] theorem Crew.mapPolicy_pipeline (crew : Crew M) :
    (crew.mapPolicy f).pipeline = crew.pipeline := rfl

@[simp] theorem Crew.mapPolicy_lock (crew : Crew M) : (crew.mapPolicy f).lock = crew.lock := rfl

@[simp] theorem Crew.mapPolicy_reporter (crew : Crew M) :
    (crew.mapPolicy f).reporter = crew.reporter := rfl

@[simp] theorem Caller.mapPolicy_request? (caller : Caller) :
    (caller.mapPolicy f).request? = caller.request? := rfl

@[simp] theorem Accumulator.mapPolicy_name (accumulator : Accumulator M) :
    (accumulator.mapPolicy f).name = accumulator.name := rfl

@[simp] theorem Accumulator.mapPolicy_state (accumulator : Accumulator M) :
    (accumulator.mapPolicy f).state = accumulator.state := rfl

@[simp] theorem Accumulator.mapPolicy_active (accumulator : Accumulator M) :
    (accumulator.mapPolicy f).active = accumulator.active := rfl

@[simp] theorem Accumulator.mapPolicy_latest (accumulator : Accumulator M) :
    (accumulator.mapPolicy f).latest = accumulator.latest := rfl

@[simp] theorem Accumulator.mapPolicy_dropped (accumulator : Accumulator M) :
    (accumulator.mapPolicy f).dropped = accumulator.dropped := rfl

@[simp] theorem Accumulator.mapPolicy_crew (accumulator : Accumulator M) :
    (accumulator.mapPolicy f).crew = accumulator.crew.mapPolicy f := rfl

end

/-! ### Crews -/

namespace Crew

variable {crew : Crew M} {now id : Nat} {runner : Runner M} {f : Policy → Policy}

theorem runner?_mapPolicy (f : Policy → Policy) (crew : Crew M) (id : Nat) :
    (crew.mapPolicy f).runner? id = (crew.runner? id).map (Runner.mapPolicy f) :=
  List.getElem?_map

theorem stand_mapPolicy (f : Policy → Policy) (crew : Crew M) (id : Nat)
    (standing : Standing M) :
    (crew.mapPolicy f).stand id standing = (crew.stand id standing).mapPolicy f := by
  have same := map_modify (fun runner : Runner M => { runner with standing })
    (fun runner => { runner with standing }) (Runner.mapPolicy f) (fun _ => rfl) crew.runners id
  simp only [stand, mapPolicy, same]

theorem withdraw_mapPolicy (f : Policy → Policy) (crew : Crew M) (id : Nat) :
    (crew.mapPolicy f).withdraw id = (crew.withdraw id).mapPolicy f := by
  have same := map_modify (fun runner : Runner M => { runner with allowed := false })
    (fun runner => { runner with allowed := false }) (Runner.mapPolicy f) (fun _ => rfl)
    crew.runners id
  simp only [withdraw, mapPolicy, same]

theorem hire_mapPolicy (f : Policy → Policy) (crew : Crew M) (policy : Policy)
    (repeats : Bool) :
    (crew.mapPolicy f).hire (f policy) repeats = (crew.hire policy repeats).mapPolicy f := by
  simp only [hire, mapPolicy, List.map_append]
  rfl

theorem goOn_mapPolicy (f : Policy → Policy) (crew : Crew M) (id : Nat) (runner : Runner M) :
    (crew.mapPolicy f).goOn id (runner.mapPolicy f) = (crew.goOn id runner).mapPolicy f :=
  stand_mapPolicy f (crew.request id) id _

theorem leave_mapPolicy (f : Policy → Policy) (crew : Crew M) (id : Nat) :
    (crew.mapPolicy f).leave id = ((crew.leave id).1.mapPolicy f, (crew.leave id).2) :=
  Prod.ext (stand_mapPolicy f crew.cleared.release.1 id .exited) rfl

/-- A cycle ends in the same way: only whether its runner repeats cycles matters. -/
theorem conclude_mapPolicy (f : Policy → Policy) (crew : Crew M) (id : Nat) (runner : Runner M)
    (result : Except CycleFailure CycleReport) :
    (crew.mapPolicy f).conclude id (runner.mapPolicy f) result =
      ((crew.conclude id runner result).1.mapPolicy f, (crew.conclude id runner result).2) := by
  have stands (standing : Standing M) : (crew.release.1.mapPolicy f).stand id standing =
      (crew.release.1.stand id standing).mapPolicy f := stand_mapPolicy f crew.release.1 id standing
  have released : (crew.mapPolicy f).release = (crew.release.1.mapPolicy f, crew.release.2) := rfl
  simp only [conclude, released, Runner.mapPolicy_repeats]
  cases runner.repeats with
  | false => simp only [stands]; rfl
  | true =>
      cases result with
      | ok => simp only [stands]; rfl
      | error failure =>
          simp only [report, mapPolicy_reporter, stands]
          cases crew.release.1.reporter.panics failure <;> rfl

theorem settle_mapPolicy (f : Policy → Policy) (crew : Crew M) (id : Nat) (runner : Runner M)
    (turn : Turn M) :
    (crew.mapPolicy f).settle id (runner.mapPolicy f) turn =
      ((crew.settle id runner turn).1.mapPolicy f, (crew.settle id runner turn).2) := by
  have moved : { crew.mapPolicy f with pipeline := turn.pipeline } =
      ({ crew with pipeline := turn.pipeline } : Crew M).mapPolicy f := rfl
  cases went : turn.progress with
  | awaits await =>
      simp only [settle, went, moved, stand_mapPolicy]
  | ended result =>
      simp only [settle, went, moved, conclude_mapPolicy]

/-- A cycle that begins takes the same first turn. -/
theorem beginCycle_mapPolicy (alike : ∀ policy, (f policy).Alike policy) (orderly : crew.Orderly)
    (found : crew.runner? id = some runner) (stood : runner.standing = .queued)
    (holds : crew.lock.holder = some id) (now : Nat) :
    (crew.mapPolicy f).pipeline.beginCycle (runner.mapPolicy f).policy
        (runner.mapPolicy f).allowed now =
      crew.pipeline.beginCycle runner.policy runner.allowed now := by
  have drained : crew.pipeline.batch.size = 0 :=
    orderly.empty_of_rests (.inr ⟨id, runner, holds, found, .inl stood⟩)
  exact beginCycle_alike (alike runner.policy) drained

/-- A fill phase goes on in the same way from what the source returns. -/
theorem received_mapPolicy (alike : ∀ policy, (f policy).Alike policy) (orderly : crew.Orderly)
    (measured : crew.Measured) (found : crew.runner? id = some runner)
    {cycle index deadline timeout : Nat}
    (stood : runner.standing = .awaiting (.receive cycle index deadline timeout)) (now : Nat)
    (outcome : Outcome (Option M)) :
    (crew.mapPolicy f).pipeline.received (runner.mapPolicy f).policy
        (runner.mapPolicy f).allowed now cycle index deadline timeout outcome =
      crew.pipeline.received runner.policy runner.allowed now cycle index deadline timeout
        outcome := by
  obtain ⟨short, size⟩ := measured.of_stood orderly found stood
  exact received_alike (alike runner.policy) size short outcome

/-- A map that keeps what the fill phases read commutes with the step of a runner. -/
theorem step_mapPolicy (alike : ∀ policy, (f policy).Alike policy) (orderly : crew.Orderly)
    (measured : crew.Measured) (now id : Nat) (cue : Cue M) :
    (crew.mapPolicy f).step now id cue =
      (crew.step now id cue).map fun (next, events) => (next.mapPolicy f, events) := by
  cases found : crew.runner? id with
  | none => simp [step, runner?_mapPolicy, found]
  | some runner =>
      have there : (crew.mapPolicy f).runner? id = some (runner.mapPolicy f) := by
        rw [runner?_mapPolicy, found]
        rfl
      simp only [step, there, found, Runner.mapPolicy_standing]
      cases stood : runner.standing with
      | fresh =>
          cases cue with
          | resume =>
              simp only [Runner.mapPolicy_repeats, goOn_mapPolicy]
              split
              · rfl
              · exact congrArg some (Prod.ext (stand_mapPolicy f (crew.request id) id .queued) rfl)
          | received | processed => rfl
      | queued =>
          cases cue with
          | resume =>
              by_cases holds : crew.lock.holder = some id
              · have held : (crew.mapPolicy f).lock.holder = some id := holds
                rw [if_pos held, if_pos holds,
                  beginCycle_mapPolicy alike orderly found stood holds, settle_mapPolicy]
                rfl
              · have elsewhere : (crew.mapPolicy f).lock.holder ≠ some id := holds
                rw [if_neg elsewhere, if_neg holds]
                rfl
          | received | processed => rfl
      | awaiting await =>
          cases await with
          | receive cycle index deadline timeout =>
              cases cue with
              | received outcome =>
                  simp only [received_mapPolicy alike orderly measured found stood,
                    settle_mapPolicy, Option.map_some]
              | resume | processed => rfl
          | process cycle received reason dispatched message =>
              cases cue with
              | processed outcome =>
                  simp only [mapPolicy_pipeline, Runner.mapPolicy_allowed, settle_mapPolicy,
                    Option.map_some]
              | resume | received => rfl
      | pausing =>
          cases cue with
          | resume => simp only [goOn_mapPolicy, Option.map_some]
          | received | processed => rfl
      | leaving =>
          cases cue with
          | resume =>
              simp only [mapPolicy_lock, leave_mapPolicy]
              split <;> rfl
          | received | processed => rfl
      | exited | crashed => cases cue <;> rfl

end Crew

/-! ### Calls of the owner -/

namespace Accumulator

variable {accumulator : Accumulator M} {now id : Nat}

/-- The map of what a move leads to and of what is seen of it. -/
def mapSeen (f : Policy → Policy) (given : Accumulator M × List (Event M)) :
    Accumulator M × List (Event M) :=
  (given.1.mapPolicy f, given.2.map (Event.mapPolicy f))

section

variable (f : Policy → Policy) (accumulator : Accumulator M) (id : Nat)

theorem moveTo_mapPolicy (point : CallPoint) :
    (accumulator.mapPolicy f).moveTo id point = (accumulator.moveTo id point).mapPolicy f := by
  have same := map_modify (fun held : Caller => { held with point })
    (fun held => { held with point }) (Caller.mapPolicy f) (fun _ => rfl) accumulator.callers id
  simp only [moveTo, mapPolicy, same]

theorem ask_mapPolicy (point : CallPoint) (request : Request) :
    (accumulator.mapPolicy f).ask id point request =
      mapSeen f (accumulator.ask id point request) :=
  Prod.ext (moveTo_mapPolicy ..) rfl

theorem giveBack_mapPolicy (result : Except Failure Unit) :
    (accumulator.mapPolicy f).giveBack id result = mapSeen f (accumulator.giveBack id result) :=
  Prod.ext (moveTo_mapPolicy ..) rfl

theorem isGone_mapPolicy (worker : Nat) :
    (accumulator.mapPolicy f).isGone worker = accumulator.isGone worker := by
  simp only [isGone, mapPolicy_crew, Crew.runner?_mapPolicy]
  cases accumulator.crew.runner? worker <;> rfl

theorem joinNotices_mapPolicy (worker : Nat) :
    (accumulator.mapPolicy f).joinNotices worker =
      (accumulator.joinNotices worker).map (Event.mapPolicy f) := by
  simp only [joinNotices, mapPolicy_crew, Crew.runner?_mapPolicy]
  cases accumulator.crew.runner? worker with
  | none => rfl
  | some runner =>
      cases crashed : runner.hasCrashed <;>
        simp [crashed, Event.mapPolicy, Notice.mapPolicy]

theorem join_mapPolicy (result : Except Failure Unit) :
    (accumulator.mapPolicy f).join id result = mapSeen f (accumulator.join id result) := by
  unfold join
  rw [mapPolicy_latest]
  cases accumulator.latest with
  | none => exact giveBack_mapPolicy ..
  | some worker =>
      have taken : ({ accumulator.mapPolicy f with latest := none } : Accumulator M) =
          { accumulator with latest := none }.mapPolicy f := rfl
      simp only [taken, isGone_mapPolicy, giveBack_mapPolicy, joinNotices_mapPolicy,
        moveTo_mapPolicy]
      split
      · simp [mapSeen]
      · rfl

theorem afterStop_mapPolicy (call : Call) (result : Except Failure Unit) :
    (accumulator.mapPolicy f).afterStop id (call.mapPolicy f) result =
      mapSeen f (accumulator.afterStop id call result) := by
  cases call with
  | shutdown => exact join_mapPolicy ..
  | start | stop | join | setPolicy => exact giveBack_mapPolicy ..

theorem refuse_mapPolicy (action : String) :
    (accumulator.mapPolicy f).refuse id action = mapSeen f (accumulator.refuse id action) :=
  giveBack_mapPolicy ..

theorem beginStart_mapPolicy :
    (accumulator.mapPolicy f).beginStart id = mapSeen f (accumulator.beginStart id) := by
  unfold beginStart
  rw [mapPolicy_state]
  split
  · exact Prod.ext (moveTo_mapPolicy f { accumulator with state := .starting } id .acquiring) rfl
  · exact refuse_mapPolicy ..

theorem failStart_mapPolicy (failure : Failure) :
    (accumulator.mapPolicy f).failStart id failure =
      mapSeen f (accumulator.failStart id failure) :=
  Prod.ext (moveTo_mapPolicy f { accumulator with state := .stopped } id _) rfl

theorem launch_mapPolicy (now : Nat) :
    (accumulator.mapPolicy f).launch now id = mapSeen f (accumulator.launch now id) := by
  have count : (accumulator.mapPolicy f).crew.runners.length =
      accumulator.crew.runners.length := List.length_map _
  have hired : ((accumulator.crew.mapPolicy f).markStarted now).hire (f accumulator.policy) true =
      ((accumulator.crew.markStarted now).hire accumulator.policy true).mapPolicy f :=
    Crew.hire_mapPolicy f (accumulator.crew.markStarted now) accumulator.policy true
  have running : ({ accumulator.mapPolicy f with
        crew := ((accumulator.crew.mapPolicy f).markStarted now).hire (f accumulator.policy) true
        state := .running
        active := some accumulator.crew.runners.length
        latest := some accumulator.crew.runners.length } : Accumulator M) =
      { accumulator with
        crew := (accumulator.crew.markStarted now).hire accumulator.policy true
        state := .running
        active := some accumulator.crew.runners.length
        latest := some accumulator.crew.runners.length }.mapPolicy f := by
    rw [hired]
    rfl
  refine Prod.ext ?_ ?_
  · simp only [launch, count]
    exact (congrArg (fun after => moveTo after id (.returned (.ok ()))) running).trans
      (moveTo_mapPolicy ..)
  · simp only [launch, count, mapSeen]
    rfl

theorem clearing_mapPolicy :
    accumulator.clearing.map (Event.mapPolicy f) = accumulator.clearing := by
  unfold clearing
  split <;> rfl

theorem finishStop_mapPolicy (call : Call) (failures : List String) :
    (accumulator.mapPolicy f).finishStop id (call.mapPolicy f) failures =
      mapSeen f (accumulator.finishStop id call failures) := by
  have stops (result : Except Failure Unit) := afterStop_mapPolicy f
    { accumulator with crew := accumulator.crew.cleared, state := .stopped } id call result
  have adds (early : List (Event M)) (given : Accumulator M × List (Event M)) :
      ((mapSeen f given).1,
        accumulator.clearing ++ (early.map (Event.mapPolicy f) ++ (mapSeen f given).2)) =
      mapSeen f (given.1, accumulator.clearing ++ (early ++ given.2)) := by
    simp only [mapSeen, List.map_append, clearing_mapPolicy]
  cases failures with
  | nil =>
      have stopped := congrArg (fun given : Accumulator M × List (Event M) => (given.1,
        accumulator.clearing ++ ([.logged (.stopped accumulator.name)] ++ given.2)))
        (stops (.ok ()))
      exact stopped.trans (adds [.logged (.stopped accumulator.name)] _)
  | cons failure rest =>
      have stopped := congrArg (fun given : Accumulator M × List (Event M) => (given.1,
        accumulator.clearing ++ ([] ++ given.2)))
        (stops (.error (.shutdown ("; ".intercalate (failure :: rest)))))
      exact stopped.trans (adds [] _)

theorem beginStop_mapPolicy (call : Call) :
    (accumulator.mapPolicy f).beginStop id (call.mapPolicy f) =
      mapSeen f (accumulator.beginStop id call) := by
  cases stage : accumulator.state with
  | stopped | stopping | starting =>
      simp only [beginStop, mapPolicy_state, stage]
      exact afterStop_mapPolicy ..
  | running =>
      cases manned : accumulator.active with
      | none =>
          have finished := finishStop_mapPolicy f
            { accumulator with state := .stopping, active := none } id call []
          simp only [beginStop, mapPolicy_state, stage, mapPolicy_active, manned]
          exact congrArg (fun given : Accumulator M × List (Event M) =>
            (given.1, .logged (.stopping accumulator.name) :: given.2)) finished
      | some worker =>
          simp only [beginStop, mapPolicy_state, stage, mapPolicy_active, manned, mapPolicy_crew,
            Crew.withdraw_mapPolicy]
          exact Prod.ext (moveTo_mapPolicy f { accumulator with
            crew := accumulator.crew.withdraw worker
            state := .stopping
            active := none } id .stoppingSink) rfl

theorem changePolicy_mapPolicy (policy : Policy) :
    (accumulator.mapPolicy f).changePolicy id (f policy) =
      mapSeen f (accumulator.changePolicy id policy) := by
  unfold changePolicy
  rw [mapPolicy_state]
  split
  · exact giveBack_mapPolicy f { accumulator with policy } id (.ok ())
  · exact refuse_mapPolicy ..

theorem enroll_mapPolicy (call : Call) :
    (accumulator.mapPolicy f).enroll (call.mapPolicy f) =
      (accumulator.enroll call).mapPolicy f := by
  simp only [enroll, mapPolicy, List.map_append]
  rfl

theorem beginCall_mapPolicy (call : Call) :
    (accumulator.mapPolicy f).beginCall (call.mapPolicy f) =
      mapSeen f (accumulator.beginCall call) := by
  have count : (accumulator.mapPolicy f).callers.length = accumulator.callers.length :=
    List.length_map _
  have entered : { accumulator.mapPolicy f with
        callers := (accumulator.mapPolicy f).callers ++ [⟨call.mapPolicy f, .acquiring⟩] } =
      (accumulator.enroll call).mapPolicy f := enroll_mapPolicy f accumulator call
  simp only [beginCall, entered, count]
  cases call with
  | start => exact beginStart_mapPolicy ..
  | stop => exact beginStop_mapPolicy f _ _ .stop
  | shutdown => exact beginStop_mapPolicy f _ _ .shutdown
  | join => exact join_mapPolicy ..
  | setPolicy policy => exact changePolicy_mapPolicy ..

theorem answerCall_mapPolicy (now : Nat) (caller : Caller) (result : Except Failure Unit) :
    (accumulator.mapPolicy f).answerCall now id (caller.mapPolicy f) result =
      (accumulator.answerCall now id caller result).map (mapSeen f) := by
  obtain ⟨call, point⟩ := caller
  cases point with
  | acquiring =>
      cases result with
      | ok => exact congrArg some (ask_mapPolicy ..)
      | error => exact congrArg some (failStart_mapPolicy ..)
  | startingSink =>
      cases result with
      | ok => exact congrArg some (ask_mapPolicy ..)
      | error => exact congrArg some (failStart_mapPolicy ..)
  | startingSource =>
      cases result with
      | ok => exact congrArg some (launch_mapPolicy ..)
      | error => exact congrArg some (ask_mapPolicy ..)
  | rollingBack cause =>
      have failed := failStart_mapPolicy f accumulator id (cause.atStartup "start source")
      cases result with
      | ok => exact congrArg some failed
      | error failure =>
          exact congrArg (fun given : Accumulator M × List (Event M) => some (given.1,
            .logged (.sinkRollbackFailed accumulator.name failure) :: given.2)) failed
  | stoppingSink => cases result <;> exact congrArg some (ask_mapPolicy ..)
  | stoppingSource failures =>
      cases result <;> exact congrArg some (finishStop_mapPolicy f accumulator id call _)
  | joining | returned => rfl

theorem joinedCall_mapPolicy (caller : Caller) :
    (accumulator.mapPolicy f).joinedCall id (caller.mapPolicy f) =
      (accumulator.joinedCall id caller).map (mapSeen f) := by
  obtain ⟨call, point⟩ := caller
  cases point with
  | joining worker result =>
      simp only [joinedCall, Caller.mapPolicy, isGone_mapPolicy, joinNotices_mapPolicy,
        giveBack_mapPolicy]
      split
      · simp [mapSeen]
      · rfl
  | _ => rfl

theorem release_mapPolicy :
    (accumulator.mapPolicy f).release = accumulator.release.mapPolicy f := by
  cases manned : accumulator.active with
  | none =>
      simp only [release, mapPolicy_active, manned]
      rfl
  | some worker =>
      simp only [release, mapPolicy_active, manned, mapPolicy_crew, Crew.withdraw_mapPolicy]
      rfl

theorem idle_mapPolicy : (accumulator.mapPolicy f).idle = accumulator.idle :=
  List.all_map

end

/-- No worker tells of a policy. -/
theorem mapPolicy_of_tells {crew next : Crew M} {runner : Runner M} {event : Event M}
    (f : Policy → Policy) (tells : crew.Tells next id runner event) :
    event.mapPolicy f = event := by
  cases tells with
  | @calls await _ _ _ called => cases await <;> (rw [called]; rfl)
  | follows aftermath =>
      cases event with
      | logged notice =>
          cases notice with
          | started => cases aftermath
          | _ => rfl
      | _ => rfl
  | _ => rfl

theorem step_mapPolicy {f : Policy → Policy} (alike : ∀ policy, (f policy).Alike policy)
    (orderly : accumulator.crew.Orderly) (measured : accumulator.crew.Measured) (now : Nat)
    (move : Move M) :
    (accumulator.mapPolicy f).step now (move.mapPolicy f) =
      (accumulator.step now move).map (mapSeen f) := by
  have callers (id : Nat) : (accumulator.mapPolicy f).callers[id]? =
      accumulator.callers[id]?.map (Caller.mapPolicy f) := List.getElem?_map
  cases move with
  | begin call =>
      simp only [step, Move.mapPolicy, mapPolicy_dropped, beginCall_mapPolicy]
      split <;> rfl
  | answer id result =>
      simp only [step, Move.mapPolicy, callers]
      cases accumulator.callers[id]? with
      | none => rfl
      | some caller =>
          simp only [Option.map_some, Caller.mapPolicy_request?, answerCall_mapPolicy]
          cases caller.request? with
          | none => rfl
          | some asked => cases accumulator.answerCall now id caller result <;> rfl
  | joined id =>
      simp only [step, Move.mapPolicy, callers]
      cases accumulator.callers[id]? with
      | none => rfl
      | some caller => exact joinedCall_mapPolicy ..
  | worker id cue =>
      simp only [step, Move.mapPolicy, mapPolicy_crew, Crew.step_mapPolicy alike orderly measured]
      cases resumed : accumulator.crew.step now id cue with
      | none => rfl
      | some given =>
          obtain ⟨crew, events⟩ := given
          obtain ⟨runner, found, steps⟩ := Crew.step_cases resumed
          have silent : events.map (Event.mapPolicy f) = events := by
            rw [List.map_congr_left fun event member =>
              mapPolicy_of_tells f (steps.tells found member)]
            exact List.map_id' events
          exact congrArg some (Prod.ext rfl silent.symm)
  | drop =>
      simp only [step, Move.mapPolicy, mapPolicy_dropped, idle_mapPolicy, release_mapPolicy]
      split <;> rfl

end Accumulator

/-! ### Runs -/

/-- What maps the steps of a system maps its histories, and leaves all times as they are. -/
theorem follow?_map {σ μ ε : Type} (step : Nat → σ → μ → Option (σ × List ε)) (Holds : σ → Prop)
    (kept : ∀ {now state move next seen}, Holds state →
      step now state move = some (next, seen) → Holds next)
    (f : σ → σ) (g : μ → μ) (h : ε → ε)
    (commutes : ∀ {state}, Holds state → ∀ now move, step now (f state) (g move) =
      (step now state move).map fun (next, seen) => (f next, seen.map h))
    {start : σ} (holds : Holds start) (moves : List (Nat × μ)) :
    follow? (clocked step) (f start) (moves.map fun (now, move) => (now, g move)) =
      (follow? (clocked step) start moves).map fun (last, timed) =>
        (f last, timed.map fun (now, event) => (now, h event)) := by
  induction moves generalizing start with
  | nil => rfl
  | cons first rest ih =>
      obtain ⟨now, move⟩ := first
      simp only [List.map_cons, follow?, clocked, commutes holds]
      cases stepped : step now start move with
      | none => rfl
      | some given =>
          obtain ⟨next, seen⟩ := given
          simp only [Option.map_some, ih (kept holds stepped)]
          cases follow? (clocked step) next rest with
          | none => rfl
          | some given => simp

namespace Crew

variable {f : Policy → Policy} {crew : Crew M}

theorem drill_mapPolicy (alike : ∀ policy, (f policy).Alike policy) (orderly : crew.Orderly)
    (measured : crew.Measured) (now : Nat) (move : DrillMove M) :
    (crew.mapPolicy f).drill now (move.mapPolicy f) =
      (crew.drill now move).map fun (next, events) => (next.mapPolicy f, events.map id) := by
  simp only [List.map_id]
  cases move with
  | call policy => exact congrArg some (Prod.ext (hire_mapPolicy f crew policy false) rfl)
  | resume id cue => exact step_mapPolicy alike orderly measured now id cue

theorem watch?_mapPolicy (alike : ∀ policy, (f policy).Alike policy) (name : String)
    (reporter : Reporter) (moves : List (Nat × DrillMove M)) :
    (make name reporter).watch? (moves.map fun (now, move) => (now, move.mapPolicy f)) =
      ((make name reporter).watch? moves).map fun (last, timed) => (last.mapPolicy f, timed) := by
  have mapped := follow?_map drill (fun crew : Crew M => crew.Orderly ∧ crew.Measured)
    (fun holds moved =>
      ⟨drill_orderly holds.1 moved, (drill_measured holds.1 holds.2 moved).1⟩)
    (mapPolicy f) (DrillMove.mapPolicy f) id
    (fun holds => drill_mapPolicy alike holds.1 holds.2)
    ⟨orderly_make _ reporter rfl, measured_make name reporter⟩ moves
  simp only [id, List.map_id'] at mapped
  exact mapped

end Crew

theorem Accumulator.watch?_mapPolicy {f : Policy → Policy}
    (alike : ∀ policy, (f policy).Alike policy) (name : String) (policy : Policy)
    (reporter : Reporter) (moves : List (Nat × Move M)) :
    (make name (f policy) reporter).watch?
        (moves.map fun (now, move) => (now, move.mapPolicy f)) =
      ((make name policy reporter).watch? moves).map fun (last, timed) =>
        (last.mapPolicy f, timed.map fun (now, event) => (now, event.mapPolicy f)) :=
  follow?_map step
    (fun accumulator : Accumulator M => accumulator.Orderly ∧ accumulator.crew.Measured)
    (fun holds stepped => ⟨holds.1.step stepped, (step_measured holds.1 holds.2 stepped).1⟩)
    (mapPolicy f) (Move.mapPolicy f) (Event.mapPolicy f)
    (fun holds => step_mapPolicy alike holds.1.crew holds.2)
    ⟨orderly_make name policy reporter, Crew.measured_make name reporter⟩ moves

end Batching

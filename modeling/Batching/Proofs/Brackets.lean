import Batching.Proofs.Joining
import Batching.Proofs.Withdrawal

namespace Batching

/-! Starts and stops of the collaborators.

A start that succeeds opens a side, and a stop that is called closes it, whatever it comes
to.  `Opened` reads off the state of an accumulator which sides are open, and `Bracketed`
says of a list of events that no side is opened or closed twice and that nothing is asked
of a side that is not open.
-/

variable {M : Type}

inductive Side where
  | sink
  | source

namespace Side

def start : Side → Request
  | .sink => .startSink
  | .source => .startSource

def stop : Side → Request
  | .sink => .stopSink
  | .source => .stopSource

theorem forall_iff {holds : Side → Prop} : (∀ side, holds side) ↔ holds .sink ∧ holds .source :=
  ⟨fun all => ⟨all .sink, all .source⟩, fun both side => by
    cases side
    · exact both.1
    · exact both.2⟩

end Side

namespace Event

variable {event : Event M}

/-- A start of that side has succeeded. -/
def starts (side : Side) : Event M → Bool
  | .answered _ request (.ok ()) => request = side.start
  | _ => false

/-- A stop of that side is called. -/
def stops (side : Side) : Event M → Bool
  | .requested _ request => request = side.stop
  | _ => false

/-- The sides that must be open for an event: the sink for the start of the source, and both
for a call within a cycle. -/
def Meets (opened : Side → Int) : Event M → Prop
  | .requested _ .startSource => opened .sink = 1
  | .receiveBegan _ _ _ | .processBegan _ _ _ => ∀ side, opened side = 1
  | _ => True

end Event

namespace Side

def starts (side : Side) (events : List (Event M)) : Nat :=
  events.countP (Event.starts side)

def stops (side : Side) (events : List (Event M)) : Nat :=
  events.countP (Event.stops side)

def balance (side : Side) (events : List (Event M)) : Int :=
  side.starts events - side.stops events

theorem balance_nil (side : Side) : side.balance ([] : List (Event M)) = 0 := rfl

theorem balance_append (side : Side) (first rest : List (Event M)) :
    side.balance (first ++ rest) = side.balance first + side.balance rest := by
  simp only [balance, starts, stops, List.countP_append]
  omega

theorem balance_cons (side : Side) (event : Event M) (rest : List (Event M)) :
    side.balance (event :: rest) = side.balance [event] + side.balance rest :=
  balance_append side [event] rest

@[simp] theorem balance_requested (side : Side) (caller : Nat) (request : Request) :
    side.balance [(.requested caller request : Event M)] =
      if request = side.stop then -1 else 0 := by
  by_cases closes : request = side.stop <;>
    simp [balance, starts, stops, Event.starts, Event.stops, closes]

@[simp] theorem balance_answered (side : Side) (caller : Nat) (request : Request)
    (value : Unit) :
    side.balance [(.answered caller request (.ok value) : Event M)] =
      if request = side.start then 1 else 0 := by
  by_cases opens : request = side.start <;>
    simp [balance, starts, stops, Event.starts, Event.stops, opens]

@[simp] theorem balance_failed (side : Side) (caller : Nat) (request : Request)
    (failure : Failure) :
    side.balance [(.answered caller request (.error failure) : Event M)] = 0 := rfl

@[simp] theorem balance_logged (side : Side) (notice : Notice) :
    side.balance [(.logged notice : Event M)] = 0 := rfl

@[simp] theorem balance_spawned (side : Side) (worker : Nat) :
    side.balance [(.spawned worker : Event M)] = 0 := rfl

@[simp] theorem balance_returned (side : Side) (caller : Nat) (result : Except Failure Unit) :
    side.balance [(.returned caller result : Event M)] = 0 := rfl

end Side

/-- From `opened` on, every side is open once or not at all, and every event finds the sides
open that it needs. -/
def Bracketed (opened : Side → Int) : List (Event M) → Prop
  | [] => ∀ side, opened side = 0 ∨ opened side = 1
  | event :: rest =>
      (∀ side, opened side = 0 ∨ opened side = 1) ∧ event.Meets opened ∧
        Bracketed (fun side => opened side + side.balance [event]) rest

variable {opened : Side → Int} {first rest events : List (Event M)}

theorem Bracketed.range (bracketed : Bracketed opened events) (side : Side) :
    opened side = 0 ∨ opened side = 1 := by
  cases events with
  | nil => exact bracketed side
  | cons => exact bracketed.1 side

theorem bracketed_append_iff :
    Bracketed opened (first ++ rest) ↔
      Bracketed opened first ∧ Bracketed (fun side => opened side + side.balance first) rest := by
  induction first generalizing opened with
  | nil =>
      simp only [List.nil_append, Side.balance_nil, Int.add_zero]
      exact ⟨fun bracketed => ⟨bracketed.range, bracketed⟩, fun bracketed => bracketed.2⟩
  | cons event first ih =>
      simp only [List.cons_append, Bracketed, ih, Side.balance_cons _ event first, Int.add_assoc,
        and_assoc]

/-- An event that opens and closes nothing and finds open what it needs. -/
structure Event.Still (opened : Side → Int) (event : Event M) : Prop where
  starts : ∀ side, event.starts side = false
  stops : ∀ side, event.stops side = false
  meets : event.Meets opened

theorem balance_of_still (still : ∀ event ∈ events, event.Still opened) (side : Side) :
    side.balance events = 0 := by
  have starts : side.starts events = 0 :=
    List.countP_eq_zero.mpr fun event member => by simp [(still event member).starts side]
  have stops : side.stops events = 0 :=
    List.countP_eq_zero.mpr fun event member => by simp [(still event member).stops side]
  simp [Side.balance, starts, stops]

theorem Event.Still.balance {event : Event M} (still : event.Still opened) (side : Side) :
    side.balance [event] = 0 :=
  balance_of_still (fun _ member => List.mem_singleton.mp member ▸ still) side

theorem bracketed_of_still (range : ∀ side, opened side = 0 ∨ opened side = 1)
    (still : ∀ event ∈ events, event.Still opened) : Bracketed opened events := by
  induction events with
  | nil => exact range
  | cons event rest ih =>
      have now := still event (.head _)
      refine ⟨range, now.meets, ?_⟩
      simp only [now.balance, Int.add_zero]
      exact ih fun other member => still other (.tail _ member)

theorem still_returned {caller : Nat} {result : Except Failure Unit} :
    (Event.returned caller result : Event M).Still opened := ⟨fun _ => rfl, fun _ => rfl, trivial⟩

theorem still_logged {notice : Notice} : (Event.logged notice : Event M).Still opened :=
  ⟨fun _ => rfl, fun _ => rfl, trivial⟩

/-- The answer to a stop, or to any request that fails, opens nothing. -/
theorem still_answered {caller : Nat} {request : Request} {result : Except Failure Unit}
    (unopened : (∀ side : Side, request ≠ side.start) ∨ ∃ failure, result = .error failure) :
    (Event.answered caller request result : Event M).Still opened where
  starts side := by
    cases result with
    | error => rfl
    | ok =>
        rcases unopened with different | ⟨_, failed⟩
        · exact decide_eq_false (different side)
        · cases failed
  stops _ := rfl
  meets := trivial

theorem still_stopped {caller : Nat} (closed : Side) {result : Except Failure Unit} :
    (Event.answered caller closed.stop result : Event M).Still opened :=
  still_answered (.inl fun side => by cases closed <;> cases side <;> exact nofun)

theorem CallPoint.Fails.still {caller : Nat} {point : CallPoint} {answered : Request}
    {result : Except Failure Unit} {failure : Failure}
    (failed : point.Fails answered result failure) :
    (Event.answered caller answered result : Event M).Still opened := by
  cases failed with
  | unacquired | sinkFailed => exact still_answered (.inr ⟨_, rfl⟩)
  | rolledBack => exact still_stopped .sink

/-- Workers leave the starts and the stops to the callers. -/
theorem Crew.Tells.unasked {crew next : Crew M} {id : Nat} {runner : Runner M}
    {event : Event M} (tells : crew.Tells next id runner event) :
    (∀ caller request, event ≠ .requested caller request) ∧
      ∀ caller request result, event ≠ .answered caller request result := by
  cases tells with
  | starts | exits | receives | processes | ends => simp
  | @calls await _ _ _ called => cases await <;> simp [called, Await.event]
  | follows aftermath =>
      cases event with
      | requested | answered => cases aftermath
      | _ => simp

/-- The sides that are open while a caller waits there. -/
def CallPoint.held : Side → CallPoint → Int
  | .sink, .startingSource => 1
  | .source, .stoppingSink => 1
  | _, _ => 0

theorem CallPoint.Fails.held_eq {point : CallPoint} {answered : Request}
    {result : Except Failure Unit} {failure : Failure}
    (failed : point.Fails answered result failure) (side : Side) : point.held side = 0 := by
  cases failed <;> cases side <;> rfl

namespace Accumulator

variable {placed before after start last : Accumulator M} {now id : Nat} {call : Call}
  {caller : Caller} {move : Move M} {moves : List (Nat × Move M)} {side : Side} {count : Int}

/-- How often a side is open. -/
inductive Opened (accumulator : Accumulator M) (side : Side) : Int → Prop where
  | rests (stopped : accumulator.state = .stopped) : Opened accumulator side 0
  | runs (running : accumulator.state = .running) : Opened accumulator side 1
  | waits {id : Nat} {caller : Caller} {stage : RunState}
      (found : accumulator.callers[id]? = some caller)
      (staged : caller.point.stage? = some stage) :
      Opened accumulator side (caller.point.held side)

theorem stage?_of_found {stage : RunState} (found : before.callers[id]? = some caller)
    (staged : caller.point.stage? = some stage) : before.stage? id = some stage := by
  rw [stage?, found]
  exact staged

theorem Opened.of_stopped (orderly : before.Orderly) (opened : before.Opened side count)
    (stopped : before.state = .stopped) : count = 0 := by
  cases opened with
  | rests => rfl
  | runs running => exact nomatch stopped.symm.trans running
  | @waits id _ _ found staged =>
      exact nomatch (orderly.unstaged (.inl stopped) id).symm.trans (stage?_of_found found staged)

theorem Opened.of_running (orderly : before.Orderly) (opened : before.Opened side count)
    (running : before.state = .running) : count = 1 := by
  cases opened with
  | rests stopped => exact nomatch stopped.symm.trans running
  | runs => rfl
  | @waits id _ _ found staged =>
      exact nomatch (orderly.unstaged (.inr running) id).symm.trans (stage?_of_found found staged)

theorem Opened.of_waits (orderly : before.Orderly) (opened : before.Opened side count)
    (found : before.callers[id]? = some caller) {stage : RunState}
    (staged : caller.point.stage? = some stage) : count = caller.point.held side := by
  have here := stage?_of_found found staged
  cases opened with
  | rests stopped => exact nomatch (orderly.unstaged (.inl stopped) id).symm.trans here
  | runs running => exact nomatch (orderly.unstaged (.inr running) id).symm.trans here
  | @waits other _ _ there waiting =>
      -- Only one caller at a time is in the middle of a start or a stop.
      have same : id = other :=
        orderly.single (stage?_of_found there waiting) (by simp [here])
      subst same
      cases found.symm.trans there
      rfl

theorem Opened.range (opened : before.Opened side count) : count = 0 ∨ count = 1 := by
  cases opened with
  | rests => exact .inl rfl
  | runs => exact .inr rfl
  | @waits _ caller =>
      obtain ⟨call, point⟩ := caller
      cases point <;> cases side <;> first | exact .inl rfl | exact .inr rfl

theorem Opened.kept (opened : before.Opened side count) (state : after.state = before.state)
    (callers : ∀ (id : Nat) (caller : Caller), before.callers[id]? = some caller →
      caller.point.stage? ≠ none → after.callers[id]? = some caller) :
    after.Opened side count := by
  cases opened with
  | rests stopped => exact .rests (state.trans stopped)
  | runs running => exact .runs (state.trans running)
  | waits found staged => exact .waits (callers _ _ found (by simp [staged])) staged

theorem opened_moveTo {point : CallPoint} {stage : RunState}
    (found : placed.callers[id]? = some caller) (staged : point.stage? = some stage)
    (held : count = point.held side) : (placed.moveTo id point).Opened side count := by
  have there : (placed.moveTo id point).callers[id]? = some ⟨caller.call, point⟩ := by
    rw [callers_moveTo, if_pos rfl, found]
    rfl
  exact held ▸ .waits there staged

/-- What is seen between two states opens and closes the sides accordingly. -/
def Brackets (before : Accumulator M) (events : List (Event M)) (after : Accumulator M) : Prop :=
  ∀ opened : Side → Int, (∀ side, before.Opened side (opened side)) →
    Bracketed opened events ∧ ∀ side, after.Opened side (opened side + side.balance events)

theorem Brackets.refl (accumulator : Accumulator M) : accumulator.Brackets [] accumulator := by
  intro opened held
  refine ⟨fun side => (held side).range, fun side => ?_⟩
  rw [Side.balance_nil, Int.add_zero]
  exact held side

theorem Brackets.trans {next : Accumulator M} (head : before.Brackets first next)
    (tail : next.Brackets rest after) : before.Brackets (first ++ rest) after := by
  intro opened held
  obtain ⟨bracketed, reached⟩ := head opened held
  obtain ⟨later, ended⟩ := tail _ reached
  refine ⟨bracketed_append_iff.mpr ⟨bracketed, later⟩, fun side => ?_⟩
  rw [Side.balance_append, ← Int.add_assoc]
  exact ended side

theorem Brackets.of_still
    (kept : ∀ side count, before.Opened side count → after.Opened side count)
    (still : ∀ opened : Side → Int, (∀ side, before.Opened side (opened side)) →
      ∀ event ∈ events, event.Still opened) : before.Brackets events after := by
  intro opened held
  have quiet := still opened held
  refine ⟨bracketed_of_still (fun side => (held side).range) quiet, fun side => ?_⟩
  rw [balance_of_still quiet, Int.add_zero]
  exact kept side _ (held side)

/-! ### What each leg does -/

theorem joinNotices_still {worker : Nat} {event : Event M}
    (member : event ∈ before.joinNotices worker) : event.Still opened := by
  obtain ⟨name, rfl⟩ := joinNotices_logged member
  exact still_logged

theorem collected_still {worker : Nat} {result : Except Failure Unit} {event : Event M}
    (member : event ∈ before.joinNotices worker ++ [.returned id result]) :
    event.Still opened := by
  rcases List.mem_append.mp member with early | last
  · exact joinNotices_still early
  · cases List.mem_singleton.mp last
    exact still_returned

theorem clearing_still {event : Event M} (member : event ∈ before.clearing) :
    event.Still opened := by
  unfold clearing at member
  split at member
  · cases List.mem_singleton.mp member
    exact still_logged
  · cases member

theorem Departs.still {joins : Bool} {result : Except Failure Unit}
    (departed : placed.Departs id joins result after events) {event : Event M}
    (member : event ∈ events) : event.Still opened := by
  cases departed with
  | returns => cases List.mem_singleton.mp member; exact still_returned
  | collects => exact collected_still member
  | waits => cases member

theorem finishes_still {joins : Bool} {result outcome : Except Failure Unit}
    {noted : List (Event M)} (told : noted = [] ∨ noted = [.logged (.stopped before.name)])
    (departed : placed.Departs id joins outcome after events) :
    ∀ event ∈ .answered id .stopSource result :: (before.clearing ++ (noted ++ events)),
      event.Still opened := by
  simp only [List.forall_mem_cons, List.forall_mem_append]
  refine ⟨still_stopped .source, fun _ => clearing_still, ?_, fun _ => departed.still⟩
  rcases told with rfl | rfl
  · exact List.forall_mem_nil _
  · exact fun event inside => List.mem_singleton.mp inside ▸ still_logged

theorem Departs.state {joins : Bool} {result : Except Failure Unit}
    (departed : placed.Departs id joins result after events) : after.state = placed.state := by
  cases departed <;> rfl

theorem Enters.brackets (orderly : before.Orderly)
    (entered : (before.enroll call).Enters before.callers.length call after events) :
    before.Brackets events after := by
  have found := enroll_found before call
  obtain ⟨point, callers⟩ := entered.callers
  have kept (state : after.state = before.state) (side : Side) (count : Int)
      (opened : before.Opened side count) : after.Opened side count := by
    refine opened.kept state fun id caller there _ => ?_
    rw [callers, List.getElem?_append_left (List.getElem?_eq_some_iff.mp there).1, there]
  cases entered with
  | refused | adopts =>
      refine .of_still (kept rfl) fun opened _ event member => ?_
      cases List.mem_singleton.mp member
      exact still_returned
  | departs _ departed =>
      exact .of_still (kept departed.state) fun opened _ event member => departed.still member
  | starts _ was =>
      refine .of_still (fun side count opened => ?_) fun opened _ event member => ?_
      · refine opened_moveTo (by exact found) rfl ((opened.of_stopped orderly was).trans ?_)
        cases side <;> rfl
      · rcases List.mem_cons.mp member with rfl | later
        · exact still_logged
        · cases List.mem_singleton.mp later
          exact ⟨fun _ => rfl, fun side => by cases side <;> rfl, trivial⟩
  | stops _ was =>
      intro opened held
      obtain rfl : opened = fun _ => 1 :=
        funext fun side => (held side).of_running orderly was
      refine ⟨?_, fun side => opened_moveTo (by exact found) rfl ?_⟩
      · simp [Bracketed, Side.forall_iff, Event.Meets, Side.stop]
      · cases side <;> rfl

theorem opened_eq (orderly : before.Orderly) (held : ∀ side, before.Opened side (opened side))
    (found : before.callers[id]? = some caller) {point : CallPoint} {stage : RunState}
    (stood : caller.point = point) (staged : point.stage? = some stage) :
    opened = fun side => point.held side :=
  funext fun side => by
    rw [(held side).of_waits orderly found (stood ▸ staged), stood]

theorem Proceeds.brackets (orderly : before.Orderly)
    (found : before.callers[id]? = some caller)
    (proceeded : before.Proceeds now id caller after events) : before.Brackets events after := by
  obtain ⟨call, point⟩ := caller
  cases proceeded with
  | @asks _ _ result _ leads =>
      intro opened held
      cases leads with
      | acquired | sinkStarted | sourceFailed =>
          obtain rfl := opened_eq orderly held found rfl rfl
          refine ⟨?_, fun side => opened_moveTo found rfl ?_⟩
          · simp [Bracketed, Side.forall_iff, Event.Meets, Side.start, Side.stop, CallPoint.held]
          · cases side <;> rfl
      | sinkStopped =>
          obtain rfl := opened_eq orderly held found rfl rfl
          refine ⟨?_, fun side => opened_moveTo found rfl ?_⟩
          · cases result <;>
              simp [Bracketed, Side.forall_iff, Event.Meets, Side.start, Side.stop, CallPoint.held]
          · cases side <;> cases result <;> rfl
  | fails failed told =>
      refine .of_still (fun side count opened => ?_) fun opened _ event member => ?_
      · rw [opened.of_waits orderly found failed.stage?_eq, failed.held_eq]
        exact .rests rfl
      · revert event
        simp only [List.forall_mem_cons, List.forall_mem_append]
        refine ⟨failed.still, ?_, still_logged, still_returned, List.forall_mem_nil _⟩
        rcases told with rfl | ⟨cause, rfl⟩
        · exact List.forall_mem_nil _
        · exact fun event inside => List.mem_singleton.mp inside ▸ still_logged
  | launches stood =>
      intro opened held
      obtain rfl := opened_eq orderly held found stood rfl
      refine ⟨?_, fun side => ?_⟩
      · simp [Bracketed, Side.forall_iff, Event.Meets, Side.start, CallPoint.held]
      · cases side <;> exact .runs rfl
  | finishes stood told departed =>
      refine .of_still (fun side count opened => ?_) fun _ _ => finishes_still told departed
      cases stood
      rw [opened.of_waits orderly found rfl]
      cases side <;> exact .rests departed.state
  | joined stood =>
      refine .of_still (fun side count opened => opened.kept rfl ?_) fun _ _ _ => collected_still
      intro other held there staged
      cases stood
      have different : other ≠ id := by
        rintro rfl
        cases found.symm.trans there
        exact staged rfl
      rw [callers_moveTo, if_neg different, there]

/-- Only the worker of a running accumulator calls the source or the sink. -/
theorem works_still {crew : Crew M} {runner : Runner M} {event : Event M}
    (orderly : before.Orderly) (held : ∀ side, before.Opened side (opened side))
    (found : before.crew.runner? id = some runner)
    (tells : before.crew.Tells crew id runner event) : event.Still opened := by
  have both {worker : Nat} (begins : event.caller? = some worker) (side : Side) :
      opened side = 1 := by
    have permitted := (Crew.allows_of_found found).trans (tells.caller begins).2
    exact (held side).of_running orderly (orderly.spanning (orderly.permitted permitted))
  cases event with
  | requested => exact absurd rfl (tells.unasked.1 _ _)
  | answered => exact absurd rfl (tells.unasked.2 _ _ _)
  | receiveBegan | processBegan => exact ⟨fun _ => rfl, fun _ => rfl, both rfl⟩
  | _ => exact ⟨fun _ => rfl, fun _ => rfl, trivial⟩

theorem Acts.brackets (orderly : before.Orderly) (acts : before.Acts now move after events) :
    before.Brackets events after := by
  cases acts with
  | enters _ entered => exact entered.brackets orderly
  | answers found proceeded | joins found proceeded => exact proceeded.brackets orderly found
  | works stepped =>
      obtain ⟨runner, found, steps⟩ := Crew.step_cases stepped
      exact .of_still (fun _ _ opened => opened.kept rfl fun _ _ there _ => there)
        fun _ held _ member => works_still orderly held found (steps.tells found member)
  | drops =>
      refine .of_still (fun _ _ opened => opened.kept before.release_state fun _ _ there _ => ?_)
        fun _ _ => List.forall_mem_nil _
      rw [release_callers, there]

theorem Orderly.run?_brackets (orderly : start.Orderly)
    (ran : start.run? moves = some (last, events)) : start.Brackets events last :=
  (follow?_induction Orderly Brackets (fun orderly stepped => orderly.step stepped)
    (fun _ => .refl _)
    (fun orderly stepped _ rest => ((orderly.step_acts stepped).brackets orderly).trans rest)
    orderly ran).2

/-! ### From a start to the next -/

theorem Enters.starts_eq_false
    (entered : (before.enroll call).Enters before.callers.length call after events)
    {event : Event M} (member : event ∈ events) : event.starts side = false := by
  cases entered with
  | refused | adopts => cases List.mem_singleton.mp member; rfl
  | departs _ departed =>
      have still : event.Still fun _ => 0 := departed.still member
      exact still.starts side
  | starts | stops =>
      rcases List.mem_cons.mp member with rfl | later
      · rfl
      · cases List.mem_singleton.mp later
        rfl

/-- A start of a side succeeds only while the accumulator is starting. -/
theorem Proceeds.starting_of_starts (orderly : before.Orderly)
    (found : before.callers[id]? = some caller)
    (proceeded : before.Proceeds now id caller after events) {event : Event M}
    (member : event ∈ events) (starts : event.starts side = true) : before.state = .starting := by
  obtain ⟨call, point⟩ := caller
  cases proceeded with
  | @asks _ _ result _ leads =>
      cases leads with
      | acquired | sinkStarted | sourceFailed => exact orderly.staged (stage?_of_found found rfl)
      | sinkStopped =>
          have still : (Event.answered id _ result : Event M).Still fun _ => 0 :=
            still_stopped .sink
          rcases List.mem_cons.mp member with rfl | later
          · exact nomatch (still.starts side).symm.trans starts
          · cases List.mem_singleton.mp later
            cases starts
  | fails failed => exact orderly.staged (stage?_of_found found failed.stage?_eq)
  | launches stood => cases stood; exact orderly.staged (stage?_of_found found rfl)
  | finishes _ told departed =>
      have still : event.Still fun _ => 0 := finishes_still told departed event member
      exact nomatch (still.starts side).symm.trans starts
  | joined =>
      have still : event.Still fun _ => 0 := collected_still member
      exact nomatch (still.starts side).symm.trans starts

theorem Acts.starting_of_starts (orderly : before.Orderly)
    (acts : before.Acts now move after events) {event : Event M} (member : event ∈ events)
    (starts : event.starts side = true) : before.state = .starting := by
  cases acts with
  | enters _ entered => exact nomatch (entered.starts_eq_false member).symm.trans starts
  | answers found proceeded | joins found proceeded =>
      exact proceeded.starting_of_starts orderly found member starts
  | works stepped =>
      obtain ⟨runner, found, steps⟩ := Crew.step_cases stepped
      cases event with
      | answered => exact absurd rfl ((steps.tells found member).unasked.2 _ _ _)
      | _ => cases starts
  | drops => cases member

/-- Without an accepted start nothing is started. -/
theorem Evolves.stays_unstarted (evolves : before.Evolves now move after events)
    (unstarted : ∀ name, .logged (.starting name) ∉ events) (idle : before.state ≠ .starting) :
    after.state ≠ .starting := by
  cases evolves with
  | carries carried =>
      cases carried with
      | passes _ _ life =>
          have same : after.state = before.state := congrArg Life.state life
          exact same ▸ idle
      | starts _ _ _ told =>
          have starting : .logged (.starting before.name) ∈ majors events := by simp [told]
          exact absurd (List.mem_filter.mp starting).1 (unstarted _)
      | fails _ _ life | launches _ _ _ life | stops _ _ _ life | finishes _ _ life =>
          exact fun starting => nomatch (congrArg Life.state life).symm.trans starting
  | works => exact idle
  | drops => exact before.release_state ▸ idle

theorem run?_unstarted (orderly : start.Orderly) (ran : start.run? moves = some (last, events))
    (unstarted : ∀ name, .logged (.starting name) ∉ events) (idle : start.state ≠ .starting)
    (side : Side) : side.starts events = 0 := by
  have followed := follow?_induction Orderly
    (fun start events _ => (∀ name, .logged (.starting name) ∉ events) →
      start.state ≠ .starting → side.starts events = 0)
    (fun orderly stepped => orderly.step stepped) (fun _ _ _ => rfl) ?_ orderly ran
  · exact followed.2 unstarted idle
  · intro now state move next seen last more orderly stepped _ rest unstarted idle
    have early := fun name inside => unstarted name (List.mem_append_left more inside)
    have late := fun name inside => unstarted name (List.mem_append_right seen inside)
    have still := (orderly.step_evolves stepped).stays_unstarted early idle
    have none : side.starts seen = 0 := List.countP_eq_zero.mpr fun event member starts =>
      idle ((orderly.step_acts stepped).starting_of_starts orderly member starts)
    rw [Side.starts, List.countP_append]
    exact Nat.add_eq_zero_iff.mpr ⟨none, rest late still⟩

theorem Carries.returned_eq {mover : Nat} (carried : before.Carries mover after events)
    {result : Except Failure Unit} (returned : .returned id result ∈ events) : id = mover := by
  cases carried with
  | passes _ places | starts _ places | fails _ places | launches _ _ places
  | stops _ _ places | finishes _ places => exact (places.returned returned).1

theorem Enters.unsuccessful
    (entered : (before.enroll .start).Enters before.callers.length .start after events) :
    .returned id (.ok ()) ∉ events := by
  intro returned
  cases entered with
  | refused | starts => simp at returned
  | adopts called => cases called
  | departs called => rcases called with same | ⟨same | same, _⟩ <;> cases same
  | stops called => rcases called with same | same <;> cases same

theorem Proceeds.running_of_started {point : CallPoint} (fits : Caller.Fits ⟨.start, point⟩)
    (proceeded : before.Proceeds now id ⟨.start, point⟩ after events)
    (returned : .returned id (.ok ()) ∈ events) : after.state = .running := by
  cases proceeded with
  | asks => simp at returned
  | fails _ told => rcases told with rfl | ⟨cause, rfl⟩ <;> simp at returned
  | launches => rfl
  | finishes stood => cases stood; rcases fits with same | same <;> cases same
  | joined stood => cases stood; cases fits

theorem Acts.running_of_started (fitting : before.Fitting)
    (acts : before.Acts now move after events) (called : after.calls[id]? = some .start)
    (returned : .returned id (.ok ()) ∈ events) : after.state = .running := by
  have calls := acts.gathers.calls
  cases acts with
  | @enters call _ _ _ entered =>
      obtain rfl := entered.carries.returned_eq returned
      obtain ⟨point, callers⟩ := entered.callers
      obtain rfl : call = .start := by simpa [Accumulator.calls, callers] using called
      exact absurd returned entered.unsuccessful
  | @answers mover caller _ _ _ found proceeded | @joins mover caller _ _ found proceeded =>
      obtain rfl := (proceeded.carries found).returned_eq returned
      obtain same | ⟨_, ⟨⟩, _⟩ := calls
      rw [same, Accumulator.calls, List.getElem?_map, found] at called
      obtain ⟨call, point⟩ := caller
      cases called
      exact proceeded.running_of_started (fitting _ _ found) returned
  | works stepped =>
      obtain ⟨runner, found, steps⟩ := Crew.step_cases stepped
      cases steps.tells found returned with
      | @calls await _ _ _ called => cases await <;> cases called
      | follows aftermath => cases aftermath
  | drops => cases returned

/-- From a start that has succeeded to the next start that is accepted each side is stopped
at most once, and exactly once if the accumulator is stopped. -/
theorem Orderly.run?_stops_once (orderly : start.Orderly) (running : start.state = .running)
    (ran : start.run? moves = some (last, events))
    (unstarted : ∀ name, .logged (.starting name) ∉ events) (side : Side) :
    side.stops events ≤ 1 ∧ (last.state = .stopped → side.stops events = 1) := by
  -- With nothing started on the way, the balance falls by one with each stop.
  have none := run?_unstarted orderly ran unstarted (by simp [running]) side
  obtain ⟨_, reached⟩ := orderly.run?_brackets ran (fun _ => 1) fun _ => .runs running
  have balance : side.balance events = -side.stops events := by simp [Side.balance, none]
  have range := (reached side).range
  constructor
  · omega
  · intro stopped
    have closed := (reached side).of_stopped (orderly.run? ran) stopped
    omega

/-- Whatever the collaborators answer and whichever calls overlap: at every point of a
history each side has been started at most once more than it was stopped, it is closed while
the accumulator is stopped and open while it runs, the source is only started while the sink
is open and a cycle only calls them while both are.  After a start that has succeeded each
side is stopped at most once before the next one is accepted, and exactly once as soon as the
accumulator is stopped. -/
theorem brackets_balance (name : String) (policy : Policy) (reporter : Reporter)
    {reached : Accumulator M}
    (ran : (make name policy reporter).run? moves = some (reached, events)) :
    (∀ early late : List (Event M), events = early ++ late → ∀ side : Side,
      side.balance early = 0 ∨ side.balance early = 1) ∧
    (reached.state = .stopped → ∀ side : Side, side.balance events = 0) ∧
    (reached.state = .running → ∀ side : Side, side.balance events = 1) ∧
    (∀ (early : List (Event M)) (event : Event M) (late : List (Event M)),
      events = early ++ event :: late →
      (∀ caller, event = .requested caller .startSource → Side.sink.balance early = 1) ∧
      (∀ worker, event.caller? = some worker → ∀ side : Side, side.balance early = 1)) ∧
    ∀ (now : Nat) (move : Move M) (started : Accumulator M) (seen : List (Event M))
      (caller : Nat) (more : List (Nat × Move M)) (last : Accumulator M)
      (after : List (Event M)),
      reached.step now move = some (started, seen) → started.calls[caller]? = some .start →
        .returned caller (.ok ()) ∈ seen → started.run? more = some (last, after) →
        (∀ name, .logged (.starting name) ∉ after) → ∀ side : Side,
          side.stops after ≤ 1 ∧ (last.state = .stopped → side.stops after = 1) := by
  have settled := run?_settled name policy reporter ran
  have orderly := settled.orderly
  obtain ⟨bracketed, opened⟩ := (orderly_make name policy reporter).run?_brackets ran
    (fun _ => 0) fun _ => .rests rfl
  simp only [Int.zero_add] at opened
  refine ⟨fun early late split side => ?_,
    fun stopped side => (opened side).of_stopped orderly stopped,
    fun running side => (opened side).of_running orderly running,
    fun early event late split => ?_, ?_⟩
  · rw [split, bracketed_append_iff] at bracketed
    simpa using bracketed.2.range side
  · rw [split, bracketed_append_iff] at bracketed
    have meets := bracketed.2.2.1
    simp only [Int.zero_add] at meets
    constructor
    · rintro caller rfl
      exact meets
    · intro worker begins
      cases event with
      | receiveBegan | processBegan => exact meets
      | _ => cases begins
  · intro now move started seen caller more last after stepped called returned continued unstarted
    have running :=
      (orderly.step_acts stepped).running_of_started settled.fitting called returned
    exact (orderly.step stepped).run?_stops_once running continued unstarted

/-- A start that is taken back, as the source fails to start, and the next one up to the start
of the source. -/
def takenBack : List (Nat × Move Nat) :=
  [(0, .begin .start), (0, .answer 0 (.ok ())), (0, .answer 0 (.ok ())),
    (1, .answer 0 (.error (.startup "refused"))), (2, .answer 0 (.error (.shutdown "stuck"))),
    (3, .begin .start), (3, .answer 1 (.ok ())), (3, .answer 1 (.ok ()))]

/-- A stop whose sink fails, overlapped by a shutdown. -/
def overlapped : List (Nat × Move Nat) :=
  [(5, .worker 0 .resume), (5, .worker 0 .resume), (6, .begin .stop), (7, .begin .shutdown),
    (8, .answer 2 (.error (.shutdown "stuck"))), (8, .answer 2 (.ok ())),
    (9, .worker 0 (.received (.returned none))), (9, .worker 0 .resume), (9, .worker 0 .resume),
    (9, .joined 3)]

def overlappedSeen : List (Event Nat) :=
  [.logged (.workerStarted "pair"), .receiveBegan 0 1 50, .logged (.stopping "pair"),
    .requested 2 .stopSink, .answered 2 .stopSink (.error (.shutdown "stuck")),
    .requested 2 .stopSource, .answered 2 .stopSource (.ok ()),
    .returned 2 (.error (.shutdown "sink: shutdown error: stuck")),
    .receiveEnded 0 1 (.returned none), .logged (.receiveTimedOut "pair" 1 0 50),
    .logged (.cycleComplete "pair" 1 0 0 .receiveTimedOut),
    .cycleEnded 0 (.ok ⟨1, 0, 0, .receiveTimedOut⟩), .logged (.workerExited "pair" 0),
    .finished 0, .returned 3 (.ok ())]

theorem brackets_balance_of_overlapped :
    ∃ (reached started last : Accumulator Nat) (events seen : List (Event Nat)),
      (make "pair" ⟨2, none, 50⟩ (.logging "pair")).run? takenBack = some (reached, events) ∧
      Side.sink.starts events = 2 ∧ Side.sink.balance events = 1 ∧
      Side.source.starts events = 0 ∧
      reached.step 4 (.answer 1 (.ok ())) = some (started, seen) ∧
      started.run? overlapped = some (last, overlappedSeen) ∧
      last.state = .stopped ∧ ∀ side : Side, side.stops overlappedSeen = 1 := by
  obtain ⟨reached, started, last, events, seen, ran, twice, once, never, stepped, called,
      returned, continued, stopped⟩ :
      ∃ (reached started last : Accumulator Nat) (events seen : List (Event Nat)),
        (make "pair" ⟨2, none, 50⟩ (.logging "pair")).run? takenBack = some (reached, events) ∧
        Side.sink.starts events = 2 ∧ Side.sink.balance events = 1 ∧
        Side.source.starts events = 0 ∧
        reached.step 4 (.answer 1 (.ok ())) = some (started, seen) ∧
        started.calls[1]? = some .start ∧ seen.getLast? = some (.returned 1 (.ok ())) ∧
        started.run? overlapped = some (last, overlappedSeen) ∧ last.state = .stopped :=
    ⟨_, _, _, _, _, rfl, rfl, rfl, rfl, rfl, rfl, rfl, rfl, rfl⟩
  obtain ⟨_, _, _, _, follows⟩ := brackets_balance _ _ _ ran
  have stops := follows 4 _ started seen 1 overlapped last overlappedSeen stepped called
    (List.mem_of_getLast? returned) continued (by simp [overlappedSeen])
  exact ⟨reached, started, last, events, seen, ran, twice, once, never, stepped, continued,
    stopped, fun side => (stops side).2 stopped⟩

end Accumulator

end Batching

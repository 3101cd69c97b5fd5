import Batching.Proofs.Course
import Batching.Proofs.CycleLock

namespace Batching

/-! The life of an accumulator around its crew.

A call of the owner is in the middle of a start, in the middle of a stop, or in neither.
`Accumulator.Carries` lists what can happen to the state, the active worker and the crew
while one call is carried from place to place; `step_evolves` shows that a move does that,
or resumes a worker, or drops the accumulator.
-/

variable {M : Type}

/-- The state that an accumulator is in while a caller waits there. -/
def CallPoint.stage? : CallPoint → Option RunState
  | .acquiring | .startingSink | .startingSource | .rollingBack _ => some .starting
  | .stoppingSink | .stoppingSource _ => some .stopping
  | .joining _ _ | .returned _ => none

theorem CallPoint.Leads.stage?_eq {point next : CallPoint} {answered asked : Request}
    {result : Except Failure Unit} (leads : point.Leads answered result next asked) :
    next.stage? = point.stage? := by
  cases leads <;> rfl

theorem CallPoint.Fails.stage?_eq {point : CallPoint} {answered : Request}
    {result : Except Failure Unit} {failure : Failure}
    (failed : point.Fails answered result failure) : point.stage? = some .starting := by
  cases failed <;> rfl

/-- The events of a life cycle other than an accepted start, an accepted stop and the
messages that a stop finds in the batch. -/
def Event.isMinor : Event M → Bool
  | .spawned _ | .requested _ _ | .answered _ _ _ | .returned _ _ => true
  | .logged (.started _ _) | .logged (.startFailed _ _) | .logged (.sinkRollbackFailed _ _)
  | .logged (.stopped _) | .logged (.workerCrashed _) => true
  | _ => false

/-- The events of the owner's calls. -/
def Event.isOfCall : Event M → Bool
  | .logged (.starting _) | .logged (.stopping _) | .logged (.clearedOnStop _ _) => true
  | event => event.isMinor

theorem Event.isOfCall_of_isMinor {event : Event M} (minor : event.isMinor = true) :
    event.isOfCall = true := by
  unfold isOfCall
  split
  · rfl
  · rfl
  · rfl
  · exact minor

/-- What decides which calls are accepted and what the workers may do. -/
structure Life (M : Type) where
  crew : Crew M
  state : RunState
  active : Option Nat
  dropped : Bool

namespace Accumulator

variable {accumulator entered before after : Accumulator M} {id : Nat} {events : List (Event M)}
  {stage : Option RunState}

def life (accumulator : Accumulator M) : Life M :=
  ⟨accumulator.crew, accumulator.state, accumulator.active, accumulator.dropped⟩

/-- The part of a start or of a stop that a caller is in. -/
def stage? (accumulator : Accumulator M) (id : Nat) : Option RunState :=
  accumulator.callers[id]?.bind fun caller => caller.point.stage?

def majors (events : List (Event M)) : List (Event M) :=
  events.filter fun event => !event.isMinor

/-- Caller `id` comes to a place of that stage, and to no stage if it returns.  All other
callers stay where they are. -/
structure Places (before : Accumulator M) (id : Nat) (stage : Option RunState)
    (after : Accumulator M) (events : List (Event M)) : Prop where
  stages : ∀ other, after.stage? other = if other = id then stage else before.stage? other
  returned : ∀ {caller : Nat} {result : Except Failure Unit},
    .returned caller result ∈ events → caller = id ∧ stage = none

/-- Everything that can happen to an accumulator while it carries caller `id` from one
place to the next. -/
inductive Carries (before : Accumulator M) (id : Nat) (after : Accumulator M)
    (events : List (Event M)) : Prop where
  | passes {stage : Option RunState} (staged : before.stage? id = stage)
      (places : before.Places id stage after events)
      (life : after.life = before.life) (told : majors events = [])
  | starts (was : before.state = .stopped)
      (places : before.Places id (some .starting) after events)
      (life : after.life = { before.life with state := .starting })
      (told : majors events = [.logged (.starting before.name)])
  | fails (staged : before.stage? id = some .starting)
      (places : before.Places id none after events)
      (life : after.life = { before.life with state := .stopped }) (told : majors events = [])
  | launches (now : Nat) (staged : before.stage? id = some .starting)
      (places : before.Places id none after events)
      (life : after.life =
        { before.life with
          crew := (before.crew.markStarted now).hire before.policy true
          state := .running
          active := some before.crew.runners.length })
      (told : majors events = [])
  | stops {worker : Nat} (was : before.state = .running) (active : before.active = some worker)
      (places : before.Places id (some .stopping) after events)
      (life : after.life =
        { before.life with
          crew := before.crew.withdraw worker
          state := .stopping
          active := none })
      (told : majors events = [.logged (.stopping before.name)])
  | finishes (staged : before.stage? id = some .stopping)
      (places : before.Places id none after events)
      (life : after.life = { before.life with crew := before.crew.cleared, state := .stopped })
      (told : majors events = before.clearing)

/-- Everything that a move can do to an accumulator. -/
inductive Evolves (before : Accumulator M) (now : Nat) :
    Move M → Accumulator M → List (Event M) → Prop where
  | carries {move : Move M} {id : Nat} {after : Accumulator M} {events : List (Event M)}
      (carried : before.Carries id after events) : Evolves before now move after events
  | works {id : Nat} {cue : Cue M} {crew : Crew M} {events : List (Event M)}
      (stepped : before.crew.step now id cue = some (crew, events)) :
      Evolves before now (.worker id cue) { before with crew } events
  | drops (idle : before.idle = true) : Evolves before now .drop before.release []

theorem Carries.isOfCall (carried : before.Carries id after events) {event : Event M}
    (member : event ∈ events) : event.isOfCall = true := by
  cases minor : event.isMinor with
  | true => exact Event.isOfCall_of_isMinor minor
  | false =>
      have major : event ∈ majors events := List.mem_filter.mpr ⟨member, by simp [minor]⟩
      cases carried with
      | passes _ _ _ told | fails _ _ _ told | launches _ _ _ _ told =>
          rw [told] at major
          cases major
      | starts _ _ _ told | stops _ _ _ _ told =>
          rw [told] at major
          cases List.mem_singleton.mp major
          rfl
      | finishes _ _ _ told =>
          rw [told, clearing] at major
          split at major
          · cases List.mem_singleton.mp major
            rfl
          · cases major

/-! ### Callers on their way -/

theorem stage?_moveTo (accumulator : Accumulator M) (id other : Nat) (point : CallPoint) :
    (accumulator.moveTo id point).stage? other =
      if other = id then accumulator.callers[id]?.bind fun _ => point.stage?
      else accumulator.stage? other :=
  bind_point_moveTo CallPoint.stage? accumulator id other point

theorem stage?_congr (callers : after.callers = before.callers) (other : Nat) :
    after.stage? other = before.stage? other := by
  rw [stage?, stage?, callers]

theorem Places.congr {more : List (Event M)} (places : before.Places id stage after events)
    (callers : before.callers = accumulator.callers)
    (returned : ∀ {caller : Nat} {result : Except Failure Unit},
      .returned caller result ∈ more → .returned caller result ∈ events) :
    accumulator.Places id stage after more where
  stages other := by
    rw [places.stages, stage?_congr callers]
  returned member := places.returned (returned member)

theorem moveTo_places {caller : Caller} (callers : entered.callers = accumulator.callers)
    (found : accumulator.callers[id]? = some caller) (point : CallPoint)
    (returned : ∀ {caller : Nat} {result : Except Failure Unit},
      .returned caller result ∈ events → caller = id ∧ point.stage? = none) :
    accumulator.Places id point.stage? (entered.moveTo id point) events where
  stages other := by simp [stage?_moveTo, callers, found, stage?_congr callers]
  returned := returned

/-- A caller is through with the life cycle: it returns, or waits for a worker. -/
structure Leaves (before : Accumulator M) (id : Nat) (after : Accumulator M)
    (events : List (Event M)) : Prop where
  places : before.Places id none after events
  life : after.life = before.life
  told : majors events = []

theorem leaves_moveTo {point : CallPoint} (callers : entered.callers = accumulator.callers)
    (life : entered.life = accumulator.life) (free : point.stage? = none)
    (told : majors events = [])
    (returned : ∀ {caller : Nat} {result : Except Failure Unit},
      .returned caller result ∈ events → caller = id) :
    accumulator.Leaves id (entered.moveTo id point) events where
  places :=
    { stages := fun other => by
        rw [stage?_moveTo, free, Option.bind_fun_none, stage?_congr callers]
      returned := fun member => ⟨returned member, rfl⟩ }
  life := life
  told := told

theorem majors_append (first rest : List (Event M)) :
    majors (first ++ rest) = majors first ++ majors rest :=
  List.filter_append ..

theorem joinNotices_logged {worker : Nat} {event : Event M}
    (member : event ∈ accumulator.joinNotices worker) :
    ∃ name, event = .logged (.workerCrashed name) := by
  unfold joinNotices at member
  split at member
  · split at member
    · exact ⟨accumulator.name, List.mem_singleton.mp member⟩
    · cases member
  · cases member

theorem joinNotices_minor {worker : Nat} {event : Event M}
    (member : event ∈ accumulator.joinNotices worker) : event.isMinor = true ∧
      ∀ caller result, event ≠ .returned caller result := by
  obtain ⟨name, rfl⟩ := joinNotices_logged member
  exact ⟨rfl, fun _ _ => nofun⟩

/-- The caller has waited for a worker and returns. -/
theorem leaves_collected (worker : Nat) (result : Except Failure Unit)
    (callers : entered.callers = accumulator.callers) (life : entered.life = accumulator.life) :
    accumulator.Leaves id (entered.moveTo id (.returned result))
      (accumulator.joinNotices worker ++ [.returned id result]) := by
  refine leaves_moveTo callers life rfl ?_ fun {caller returned} member => ?_
  · rw [majors_append]
    refine List.append_eq_nil_iff.mpr ⟨List.filter_eq_nil_iff.mpr fun event member => ?_, rfl⟩
    simp [(joinNotices_minor member).1]
  · rcases List.mem_append.mp member with early | last
    · exact absurd rfl ((joinNotices_minor early).2 caller returned)
    · cases List.mem_singleton.mp last
      rfl

theorem Departs.leaves {joins : Bool} {result : Except Failure Unit}
    (departed : accumulator.Departs id joins result after events) :
    accumulator.Leaves id after events := by
  cases departed with
  | returns => exact leaves_moveTo rfl rfl rfl rfl (by simp +contextual)
  | collects => exact leaves_collected _ _ rfl rfl
  | waits => exact leaves_moveTo rfl rfl rfl rfl (by simp)

/-! ### What each leg does -/

theorem stage?_eq_none_of_length (accumulator : Accumulator M) :
    accumulator.stage? accumulator.callers.length = none := by
  simp [stage?]

/-- How a new caller comes to its first place does not depend on where it is put down. -/
theorem Places.of_entered {caller : Caller}
    (places : entered.Places accumulator.callers.length stage after events)
    (callers : entered.callers = accumulator.callers ++ [caller]) :
    accumulator.Places accumulator.callers.length stage after events where
  stages other := by
    rw [places.stages]
    split
    · rfl
    · rename_i earlier
      simp only [stage?, callers, List.getElem?_append]
      split
      · rfl
      · rename_i beyond
        rw [List.getElem?_singleton, if_neg (by omega), List.getElem?_eq_none (by omega)]
  returned := places.returned

theorem Leaves.passes {caller : Caller}
    (leaves : entered.Leaves accumulator.callers.length after events)
    (callers : entered.callers = accumulator.callers ++ [caller])
    (life : entered.life = accumulator.life) :
    accumulator.Carries accumulator.callers.length after events :=
  .passes accumulator.stage?_eq_none_of_length (leaves.places.of_entered callers)
    (leaves.life.trans life) leaves.told

theorem Enters.carries {call : Call}
    (entered : (accumulator.enroll call).Enters accumulator.callers.length call after events) :
    accumulator.Carries accumulator.callers.length after events := by
  have found : (accumulator.enroll call).callers[accumulator.callers.length]? =
      some ⟨call, .acquiring⟩ := by simp [enroll]
  cases entered with
  | refused | adopts =>
      refine Leaves.passes (?_ : (accumulator.enroll call).Leaves _ _ _) rfl rfl
      exact leaves_moveTo rfl rfl rfl rfl (by simp +contextual)
  | departs _ departed => exact departed.leaves.passes rfl rfl
  | starts _ was =>
      refine .starts was
        (Places.of_entered (?_ : (accumulator.enroll call).Places _ _ _ _) rfl) rfl rfl
      exact moveTo_places (by rfl) found .acquiring (by simp)
  | stops _ was active =>
      refine .stops was active
        (Places.of_entered (?_ : (accumulator.enroll call).Places _ _ _ _) rfl) rfl rfl
      exact moveTo_places (by rfl) found .stoppingSink (by simp)

theorem majors_clearing (accumulator : Accumulator M) :
    majors accumulator.clearing = accumulator.clearing := by
  unfold clearing
  split <;> rfl

theorem clearing_unreturned {caller : Nat} {result : Except Failure Unit} :
    .returned caller result ∉ accumulator.clearing := by
  unfold clearing
  split <;> simp

/-- The stop ends with an empty batch, whether or not it says so. -/
theorem Leaves.finishes {result : Except Failure Unit} {noted : List (Event M)}
    (leaves : { accumulator with
      crew := accumulator.crew.cleared
      state := .stopped }.Leaves id after events)
    (staged : accumulator.stage? id = some .stopping)
    (told : noted = [] ∨ noted = [.logged (.stopped accumulator.name)]) :
    accumulator.Carries id after
      (.answered id .stopSource result :: (accumulator.clearing ++ (noted ++ events))) := by
  refine .finishes staged (leaves.places.congr rfl ?_) leaves.life ?_
  · intro caller outcome member
    rcases told with rfl | rfl <;> simpa [clearing_unreturned] using member
  · have minor : majors noted = [] := by rcases told with rfl | rfl <;> rfl
    change majors (accumulator.clearing ++ (noted ++ events)) = accumulator.clearing
    rw [majors_append, majors_append, majors_clearing, minor, leaves.told, List.append_nil,
      List.append_nil]

theorem Proceeds.carries {now : Nat} {caller : Caller}
    (found : accumulator.callers[id]? = some caller)
    (proceeded : accumulator.Proceeds now id caller after events) :
    accumulator.Carries id after events := by
  have staged : accumulator.stage? id = caller.point.stage? := by simp [stage?, found]
  cases proceeded with
  | asks leads =>
      have same := leads.stage?_eq
      exact .passes (staged.trans same.symm) (moveTo_places rfl found _ (by simp)) rfl rfl
  | fails failed told =>
      refine .fails (staged.trans failed.stage?_eq)
        (moveTo_places (by rfl) found (.returned _) ?_) rfl ?_
      · rcases told with rfl | ⟨cause, rfl⟩ <;> simp +contextual [CallPoint.stage?]
      · rcases told with rfl | ⟨cause, rfl⟩ <;> rfl
  | launches stood =>
      rw [stood] at staged
      refine .launches now staged (moveTo_places (by rfl) found (.returned _) ?_) rfl rfl
      simp +contextual [CallPoint.stage?]
  | finishes stood told departed =>
      rw [stood] at staged
      exact departed.leaves.finishes staged told
  | @joined worker result stood =>
      rw [stood] at staged
      have leaves : accumulator.Leaves id _ _ := leaves_collected worker result rfl rfl
      exact .passes staged leaves.places leaves.life leaves.told

theorem step_begin_carries {now : Nat} {call : Call}
    (manned : accumulator.state = .running → accumulator.dropped = false →
      accumulator.active ≠ none)
    (stepped : accumulator.step now (.begin call) = some (after, events)) :
    accumulator.Carries accumulator.callers.length after events := by
  cases step_acts manned stepped with
  | enters _ entered => exact entered.carries

/-- A move carries a caller, resumes a worker or drops the accumulator. -/
theorem step_evolves {now : Nat} {move : Move M}
    (manned : accumulator.state = .running → accumulator.dropped = false →
      accumulator.active ≠ none)
    (stepped : accumulator.step now move = some (after, events)) :
    accumulator.Evolves now move after events := by
  cases step_acts manned stepped with
  | enters _ entered => exact .carries entered.carries
  | answers found proceeded | joins found proceeded => exact .carries (proceeded.carries found)
  | works resumed => exact .works resumed
  | drops _ idle => exact .drops idle

end Accumulator

end Batching

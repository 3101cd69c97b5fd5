import Batching.Proofs.Brackets
import Batching.Proofs.RunStates

namespace Batching

/-! A call in the middle of a start or of a stop, and what the others do meanwhile.

The collaborators' answers alone take such a call further.  Nobody else comes in between: the
other calls are refused, find nothing to stop, or join, and the workers, none of whom has
permission, only finish what they have begun.
-/

variable {M : Type}

namespace Move

/-- What a move is to the crew: a worker goes on, or nothing happens. -/
def drill? : Move M → Option (DrillMove M)
  | .worker id cue => some (.resume id cue)
  | _ => none

/-- The move begins a call that takes the latest worker, if there is one. -/
def joins : Move M → Bool
  | .begin call => call.joins
  | _ => false

/-- The collaborator's answer to a caller. -/
def answer? (id : Nat) : Move M → Option (Except Failure Unit)
  | .answer caller result => if caller = id then some result else none
  | _ => none

theorem eq_answer {id : Nat} {move : Move M} {result : Except Failure Unit}
    (own : move.answer? id = some result) : move = .answer id result := by
  cases move with
  | answer caller given =>
      simp only [answer?] at own
      split at own
      · rename_i same
        cases own
        rw [same]
      · cases own
  | begin | joined | worker | drop => cases own

end Move

def answersTo (id : Nat) (moves : List (Nat × Move M)) : List (Except Failure Unit) :=
  moves.filterMap fun (_, move) => move.answer? id

/-- The moves of the workers. -/
def drills (moves : List (Nat × Move M)) : List (Nat × DrillMove M) :=
  moves.filterMap fun (now, move) => move.drill?.map fun drill => (now, drill)

/-- A call of a collaborator has begun or ended, a worker was hired, or the caller returned. -/
def Event.isDeed (id : Nat) : Event M → Bool
  | .requested _ _ | .answered _ _ _ | .spawned _ => true
  | .receiveBegan _ _ _ | .processBegan _ _ _ => true
  | .returned caller _ => caller == id
  | _ => false

namespace Event

@[simp]
theorem isDeed_requested (id caller : Nat) (request : Request) :
    (requested caller request : Event M).isDeed id = true := rfl

@[simp]
theorem isDeed_answered (id caller : Nat) (request : Request) (result : Except Failure Unit) :
    (answered caller request result : Event M).isDeed id = true := rfl

@[simp]
theorem isDeed_returned (id caller : Nat) (result : Except Failure Unit) :
    (returned caller result : Event M).isDeed id = (caller == id) := rfl

@[simp]
theorem isDeed_logged (id : Nat) (notice : Notice) :
    (logged notice : Event M).isDeed id = false := rfl

end Event

def deeds (id : Nat) (events : List (Event M)) : List (Event M) :=
  events.filter (Event.isDeed id)

@[simp]
theorem deeds_nil (id : Nat) : deeds id ([] : List (Event M)) = [] := rfl

@[simp]
theorem deeds_cons (id : Nat) (event : Event M) (rest : List (Event M)) :
    deeds id (event :: rest) =
      if event.isDeed id then event :: deeds id rest else deeds id rest :=
  List.filter_cons

theorem deeds_append (id : Nat) (first rest : List (Event M)) :
    deeds id (first ++ rest) = deeds id first ++ deeds id rest :=
  List.filter_append ..

theorem deeds_eq_nil_iff {id : Nat} {events : List (Event M)} :
    deeds id events = [] ↔ ∀ event ∈ events, event.isDeed id = false := by
  simp [deeds, List.filter_eq_nil_iff]

/-- Answers that take a caller from place to place, and what is seen of it. -/
inductive CallPoint.Travels (id : Nat) :
    CallPoint → List (Except Failure Unit) → CallPoint → List (Event M) → Prop where
  | stays {point : CallPoint} : Travels id point [] point []
  | leads {point next last : CallPoint} {answered asked : Request}
      {result : Except Failure Unit} {answers : List (Except Failure Unit)}
      {seen : List (Event M)} (leads : point.Leads answered result next asked)
      (rest : Travels id next answers last seen) :
      Travels id point (result :: answers) last
        (.answered id answered result :: .requested id asked :: seen)

/-- A worker without permission does nothing but finish. -/
theorem Crew.Tells.idle {crew next : Crew M} {worker : Nat} {runner : Runner M}
    {event : Event M} (tells : crew.Tells next worker runner event)
    (withdrawn : runner.allowed = false) (id : Nat) : event.isDeed id = false := by
  cases tells with
  | starts | exits | receives | processes | ends => rfl
  | calls permitted => cases withdrawn.symm.trans permitted
  | follows aftermath => cases event <;> first | rfl | cases aftermath

namespace Accumulator

variable {before after start last : Accumulator M} {now id : Nat} {move : Move M}
  {call : Call} {point next : CallPoint} {stage : RunState} {events : List (Event M)}
  {moves : List (Nat × Move M)}

/-- What becomes of an accumulator while a start or a stop waits: its workers go on, and others
may take the latest one. -/
structure Stays (before : Accumulator M) (moves : List (Nat × Move M)) (after : Accumulator M) :
    Prop where
  state : after.state = before.state
  active : after.active = before.active
  policy : after.policy = before.policy
  dropped : after.dropped = before.dropped
  latest : after.latest = if moves.any (·.2.joins) then none else before.latest
  crew : ∃ seen, before.crew.run? (drills moves) = some (after.crew, seen)

/-- What a caller in the middle of a start or a stop notices of a move of somebody else. -/
structure Bystands (before : Accumulator M) (id now : Nat) (move : Move M)
    (after : Accumulator M) (events : List (Event M)) : Prop where
  caller : after.callers[id]? = before.callers[id]?
  stays : before.Stays [(now, move)] after
  quiet : deeds id events = []

theorem Stays.refl (accumulator : Accumulator M) : accumulator.Stays [] accumulator :=
  ⟨rfl, rfl, rfl, rfl, rfl, [], rfl⟩

theorem Stays.trans {middle : Accumulator M} {first rest : List (Nat × Move M)}
    (head : before.Stays first middle) (tail : middle.Stays rest after) :
    before.Stays (first ++ rest) after where
  state := tail.state.trans head.state
  active := tail.active.trans head.active
  policy := tail.policy.trans head.policy
  dropped := tail.dropped.trans head.dropped
  latest := by
    rw [tail.latest, head.latest, List.any_append]
    cases first.any (·.2.joins) <;> cases rest.any (·.2.joins) <;> rfl
  crew := by
    obtain ⟨seen, ran⟩ := head.crew
    obtain ⟨more, continued⟩ := tail.crew
    refine ⟨seen ++ more, ?_⟩
    rw [drills, List.filterMap_append]
    exact follow?_append ran continued

/-- A move that touches neither the workers nor the latest of them. -/
theorem Stays.of_life (unjoined : move.joins = false) (unworked : move.drill? = none)
    (life : after.life = before.life) (policy : after.policy = before.policy)
    (latest : after.latest = before.latest) : before.Stays [(now, move)] after where
  state := congrArg Life.state life
  active := congrArg Life.active life
  policy := policy
  dropped := congrArg Life.dropped life
  latest := by simpa [unjoined] using latest
  crew := by
    have crew : after.crew = before.crew := congrArg Life.crew life
    have still : drills [(now, move)] = [] := by simp [drills, unworked]
    exact ⟨[], by rw [still, crew]; rfl⟩

theorem Departs.latest {placed : Accumulator M} {joins : Bool} {result : Except Failure Unit}
    (departed : placed.Departs id joins result after events) :
    after.latest = if joins then none else placed.latest := by
  cases departed with
  | returns free =>
      split
      · rename_i joined
        exact free joined
      · rfl
  | collects joined | waits joined => exact (if_pos joined).symm

theorem returned_quiet {other : Nat} {result : Except Failure Unit} (different : other ≠ id) :
    deeds id [(.returned other result : Event M)] = [] :=
  deeds_eq_nil_iff.mpr (List.forall_mem_singleton.mpr (beq_false_of_ne different))

theorem joinNotices_quiet (accumulator : Accumulator M) (worker id : Nat) :
    deeds id (accumulator.joinNotices worker) = [] := by
  rw [deeds_eq_nil_iff]
  intro event member
  obtain ⟨name, rfl⟩ := joinNotices_logged member
  rfl

theorem collected_quiet {placed : Accumulator M} {worker other : Nat}
    {result : Except Failure Unit} (different : other ≠ id) :
    deeds id (placed.joinNotices worker ++ [.returned other result]) = [] := by
  rw [deeds_append, joinNotices_quiet, returned_quiet different, List.append_nil]

theorem Departs.quiet {placed : Accumulator M} {other : Nat} {joins : Bool}
    {result : Except Failure Unit} (departed : placed.Departs other joins result after events)
    (different : other ≠ id) : deeds id events = [] := by
  cases departed with
  | returns => exact returned_quiet different
  | collects => exact collected_quiet different
  | waits => rfl

theorem Enters.bystands (found : (before.callers[id]?).isSome)
    (busy : before.state = .starting ∨ before.state = .stopping)
    (entered : (before.enroll call).Enters before.callers.length call after events) :
    before.Bystands id now (.begin call) after events := by
  obtain ⟨caller, there⟩ := Option.isSome_iff_exists.mp found
  have within := (List.getElem?_eq_some_iff.mp there).1
  have different : before.callers.length ≠ id := by omega
  have kept : after.callers[id]? = before.callers[id]? := by
    obtain ⟨point, callers⟩ := entered.callers
    rw [callers, List.getElem?_append_left within]
  have unstopped : (before.enroll call).state ≠ .stopped := by
    change before.state ≠ .stopped
    rcases busy with state | state <;> simp [state]
  have idle : (before.enroll call).state ≠ .running := by
    change before.state ≠ .running
    rcases busy with state | state <;> simp [state]
  cases entered with
  | @refused action called =>
      have free : call.joins = false := by
        rcases called with rfl | ⟨policy, rfl⟩ <;> rfl
      exact ⟨kept, .of_life free rfl rfl rfl rfl, returned_quiet different⟩
  | departs _ departed =>
      obtain ⟨life, policy, -⟩ := departed.life
      have crew : after.crew = before.crew := congrArg Life.crew life
      refine ⟨kept, ?_, departed.quiet different⟩
      exact
        { state := congrArg Life.state life
          active := congrArg Life.active life
          policy := policy
          dropped := congrArg Life.dropped life
          latest := by
            rw [departed.latest]
            simp [Move.joins, enroll]
          crew := ⟨[], by rw [crew]; rfl⟩ }
  | adopts _ was => exact absurd was unstopped
  | starts _ was => exact absurd was unstopped
  | stops _ was => exact absurd was idle

/-- Another caller can only have waited for its worker. -/
theorem Proceeds.bystands {other : Nat} {caller : Caller} (orderly : before.Orderly)
    (staged : before.stage? id = some stage) (different : other ≠ id)
    (found : before.callers[other]? = some caller) (unjoined : move.joins = false)
    (unworked : move.drill? = none)
    (proceeded : before.Proceeds now other caller after events) :
    before.Bystands id now move after events := by
  obtain ⟨call, point⟩ := caller
  have free : point.stage? = none := by
    have elsewhere := orderly.alone staged different
    rwa [stage?, found, Option.bind_some] at elsewhere
  cases proceeded with
  | asks leads => cases leads <;> cases free
  | fails failed => cases failed.stage?_eq.symm.trans free
  | launches stood => cases stood; cases free
  | finishes stood => cases stood; cases free
  | @joined _ result stood =>
      have kept : (before.moveTo other (.returned result)).callers[id]? = before.callers[id]? := by
        rw [callers_moveTo, if_neg (Ne.symm different)]
      exact ⟨kept, .of_life unjoined unworked rfl rfl rfl, collected_quiet different⟩

theorem Orderly.bystands (orderly : before.Orderly) (staged : before.stage? id = some stage)
    (other : move.answer? id = none) (stepped : before.step now move = some (after, events)) :
    before.Bystands id now move after events := by
  obtain ⟨⟨call, point⟩, found, there⟩ := Option.bind_eq_some_iff.mp staged
  have busy : before.state = .starting ∨ before.state = .stopping :=
    orderly.staged staged ▸ stage?_cases staged
  have idle : before.state ≠ .running := by rcases busy with state | state <;> simp [state]
  cases orderly.step_acts stepped with
  | enters _ entered => exact entered.bystands (by simp [found]) busy
  | answers held proceeded =>
      refine proceeded.bystands orderly staged (fun same => ?_) held rfl rfl
      simp [Move.answer?, same] at other
  | @joins mover _ _ _ held proceeded =>
      refine proceeded.bystands orderly staged ?_ held rfl rfl
      rintro rfl
      simp only [Accumulator.step, found, joinedCall] at stepped
      cases point with
      | joining => cases there
      | _ => cases stepped
  | @works worker cue crew _ resumed =>
      obtain ⟨runner, hired, steps⟩ := Crew.step_cases resumed
      have withdrawn : runner.allowed = false :=
        (Crew.allows_of_found hired).symm.trans (orderly.withdrawn (orderly.inactive idle) worker)
      have drilled : before.crew.run? (drills [(now, .worker worker cue)]) = some (crew, _) :=
        follow?_cons_iff.mpr ⟨_, _, [], resumed, rfl, rfl⟩
      refine ⟨rfl, ⟨rfl, rfl, rfl, rfl, rfl, _, drilled⟩, deeds_eq_nil_iff.mpr ?_⟩
      exact fun event member => (steps.tells hired member).idle withdrawn id
  | drops _ returned =>
      have gone := List.all_eq_true.mp returned _ (List.mem_of_getElem? found)
      cases point with
      | returned => cases there
      | _ => cases gone

/-- An answer that leads a caller on is always possible. -/
theorem step_leads {answered asked : Request} {result : Except Failure Unit}
    (found : before.callers[id]? = some ⟨call, point⟩)
    (leads : point.Leads answered result next asked) (now : Nat) :
    before.step now (.answer id result) =
      some (before.moveTo id next, [.answered id answered result, .requested id asked]) := by
  cases leads with
  | sinkStopped =>
      cases result <;> simp [step, found, Caller.request?, answerCall, ask]
  | acquired | sinkStarted | sourceFailed =>
      simp [step, found, Caller.request?, answerCall, ask]

/-- Answers take a caller along its course, whatever else happens. -/
theorem Settled.travels {seen : List (Event M)}
    (settled : start.Settled) (found : start.callers[id]? = some ⟨call, point⟩)
    (staged : point.stage? = some stage) (ran : start.run? moves = some (last, events))
    (travels : point.Travels id (answersTo id moves) next seen) :
    last.Settled ∧ last.callers[id]? = some ⟨call, next⟩ ∧ start.Stays moves last ∧
      deeds id events = seen := by
  induction moves generalizing start point events seen with
  | nil =>
      cases ran
      cases travels
      exact ⟨settled, found, .refl _, rfl⟩
  | cons first rest ih =>
      obtain ⟨now, move⟩ := first
      obtain ⟨middle, early, late, stepped, tail, rfl⟩ := follow?_cons_iff.mp ran
      have later := settled.step stepped
      cases own : move.answer? id with
      | none =>
          have others : answersTo id ((now, move) :: rest) = answersTo id rest := by
            simp [answersTo, own]
          have here : start.stage? id = some stage := by simp [stage?, found, staged]
          have bystands := settled.orderly.bystands here own stepped
          rw [others] at travels
          obtain ⟨after, there, stays, same⟩ :=
            ih later (bystands.caller.trans found) staged tail travels
          refine ⟨after, there, bystands.stays.trans stays, ?_⟩
          rw [deeds_append, bystands.quiet, same, List.nil_append]
      | some result =>
          obtain rfl := Move.eq_answer own
          have answers : answersTo id ((now, .answer id result) :: rest) =
              result :: answersTo id rest := by simp [answersTo, own]
          rw [answers] at travels
          cases travels with
          | @leads _ reached _ answered asked _ _ seen leads others =>
              have expected := stepped.symm.trans (step_leads found leads now)
              obtain ⟨rfl, rfl⟩ := Prod.mk.inj (Option.some.inj expected)
              have there : (start.moveTo id reached).callers[id]? = some ⟨call, reached⟩ := by
                simp [callers_moveTo, found]
              obtain ⟨after, ended, stays, same⟩ :=
                ih later there (leads.stage?_eq.trans staged) tail others
              have carried : start.Stays [(now, .answer id result)] (start.moveTo id reached) :=
                .of_life rfl rfl rfl rfl rfl
              refine ⟨after, ended, carried.trans stays, ?_⟩
              rw [deeds_append, same]
              rfl

end Accumulator

end Batching

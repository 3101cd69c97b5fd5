import Batching.Proofs.Lifecycle

namespace Batching

/-! Who may work.

A worker is allowed to work from the moment it is hired until a stop or a drop, and
never again.  `Accumulator.Orderly` ties the permission to the life cycle: only the active
worker of a running accumulator has it, so while nobody may work the batch, once it is
empty, stays empty.
-/

variable {M : Type}

namespace Crew

variable {crew next : Crew M} {id : Nat} {runner : Runner M} {events : List (Event M)}

def allows (crew : Crew M) (id : Nat) : Bool :=
  (crew.runner? id).any Runner.allowed

theorem allows_of_found (found : crew.runner? id = some runner) :
    crew.allows id = runner.allowed := by
  simp [allows, found]

theorem allows_stand (crew : Crew M) (id : Nat) (standing : Standing M) (other : Nat) :
    (crew.stand id standing).allows other = crew.allows other := by
  rw [allows, runner?_stand]
  split
  · rename_i same
    subst same
    rw [allows, Option.any_map]
  · rfl

theorem allows_withdraw (crew : Crew M) (id other : Nat) :
    (crew.withdraw id).allows other = if other = id then false else crew.allows other := by
  rw [allows, runner?_withdraw]
  split
  · cases crew.runner? id <;> rfl
  · rfl

theorem allows_hire (crew : Crew M) (policy : Policy) (repeats : Bool) (other : Nat) :
    (crew.hire policy repeats).allows other =
      if other = crew.runners.length then true else crew.allows other := by
  rw [allows, runner?_hire]
  split <;> rfl

theorem allows_markStarted (crew : Crew M) (now other : Nat) :
    (crew.markStarted now).allows other = crew.allows other := rfl

theorem stand_runners_length (crew : Crew M) (id : Nat) (standing : Standing M) :
    (crew.stand id standing).runners.length = crew.runners.length := by
  simp [stand]

/-- Resuming a runner changes its standing and nothing else about the runners. -/
theorem Steps.stands (steps : crew.Steps id runner next events) :
    ∃ standing pipeline lock, next = { crew with pipeline, lock }.stand id standing := by
  cases steps with
  | @asks standing _ _ _ _ => exact ⟨standing, crew.pipeline, crew.lock.request id, rfl⟩
  | @settles _ turn _ =>
      cases went : turn.progress with
      | awaits await =>
          exact ⟨.awaiting await, turn.pipeline, crew.lock, by rw [settle_of_awaits went]⟩
      | ended result =>
          obtain ⟨standing, told, settled, _⟩ :=
            settle_of_ended crew id runner went
          exact ⟨standing, turn.pipeline, crew.lock.release, by rw [settled]⟩
  | leaves => exact ⟨.exited, _, crew.lock.release, rfl⟩

theorem step_runners {now : Nat} {cue : Cue M}
    (stepped : crew.step now id cue = some (next, events)) :
    next.runners.length = crew.runners.length ∧ ∀ other, next.allows other = crew.allows other := by
  obtain ⟨runner, _, steps⟩ := step_cases stepped
  obtain ⟨standing, pipeline, lock, rfl⟩ := steps.stands
  exact ⟨stand_runners_length .., allows_stand _ id standing⟩

/-- Without permission a cycle goes on to no further call. -/
theorem Opens.ended_of_withdrawn {opening : List (Event M)} {turn : Turn M}
    (opens : crew.Opens id runner opening turn) (withdrawn : runner.allowed = false) :
    ∃ result, turn.progress = .ended result := by
  rcases opens.turn_cases with ⟨noted, cycle, continues⟩ | ⟨cycle, phase, cause, rfl⟩
  · cases continues with
    | calls permitted => simp [withdrawn] at permitted
    | completes => exact ⟨_, rfl⟩
  · exact ⟨_, rfl⟩

/-- Everything that is ever seen of a step from `crew` to `next`. -/
inductive Tells (crew next : Crew M) (id : Nat) (runner : Runner M) : Event M → Prop where
  | starts : Tells crew next id runner (.logged (.workerStarted crew.pipeline.name))
  | exits (stood : runner.standing = .leaving) (holds : crew.lock.holder = some id) :
      Tells crew next id runner (.logged (.workerExited crew.pipeline.name crew.pending))
  | receives {cycle : Nat} {outcome : Outcome (Option M)}
      (withdrawn : runner.allowed = false → next.pipeline.batch.toList = []) :
      Tells crew next id runner (.receiveEnded id cycle outcome)
  | processes {cycle : Nat} {message : M} {outcome : Outcome Unit} :
      Tells crew next id runner (.processEnded id cycle message outcome)
  | calls {await : Await M} {event : Event M} (permitted : runner.allowed = true)
      (waits : next.awaitOf? id = some await) (called : event = await.event id) :
      Tells crew next id runner event
  | ends {result : Except CycleFailure CycleReport} :
      Tells crew next id runner (.cycleEnded id result)
  | follows {event : Event M} (aftermath : event.isAftermath = true) :
      Tells crew next id runner event

theorem pipeline_settle (crew : Crew M) (id : Nat) (runner : Runner M) (turn : Turn M) :
    (crew.settle id runner turn).1.pipeline = turn.pipeline := by
  cases went : turn.progress with
  | awaits await =>
      rw [settle_of_awaits went]
      rfl
  | ended result =>
      obtain ⟨standing, told, settled, _⟩ := settle_of_ended crew id runner went
      rw [settled]
      rfl

theorem Opens.tells {opening : List (Event M)} {turn : Turn M} {event : Event M}
    (found : crew.runner? id = some runner) (opens : crew.Opens id runner opening turn)
    (member : event ∈ opening ++ (crew.settle id runner turn).2) :
    crew.Tells (crew.settle id runner turn).1 id runner event := by
  have withdrawn (removed : runner.allowed = false) :
      (crew.settle id runner turn).1.pipeline.batch.toList = [] := by
    obtain ⟨result, ended⟩ := opens.ended_of_withdrawn removed
    rw [pipeline_settle]
    exact opens.drained ended
  rcases opens.event_cases member with early | ⟨await, awaits, called⟩ | ⟨_, _, rfl⟩ | aftermath
  · cases opens with
    | begins => cases early
    | receives | receiveFails =>
        cases List.mem_singleton.mp early
        exact .receives withdrawn
    | processes | processFails =>
        cases List.mem_singleton.mp early
        exact .processes
  · refine .calls ?_ ?_ called
    · cases permission : runner.allowed with
      | true => rfl
      | false =>
          obtain ⟨result, ended⟩ := opens.ended_of_withdrawn permission
          exact nomatch awaits.symm.trans ended
    · rw [settle_of_awaits awaits]
      exact awaitOf?_stand_self (by exact found)
  · exact .ends
  · exact .follows aftermath

theorem leave_events (crew : Crew M) (id : Nat) :
    (crew.leave id).2 = crew.cleared.release.2 ++
      [.logged (.workerExited crew.pipeline.name crew.pending), .finished id] := rfl

theorem Steps.tells {event : Event M} (found : crew.runner? id = some runner)
    (steps : crew.Steps id runner next events) (member : event ∈ events) :
    crew.Tells next id runner event := by
  cases steps with
  | asks _ _ told =>
      rcases told with rfl | rfl
      · cases member
      · cases List.mem_singleton.mp member
        exact .starts
  | leaves stood holds =>
      rw [leave_events] at member
      rcases List.mem_append.mp member with granted | left
      · exact .follows (List.all_eq_true.mp (release_aftermath crew.cleared) event granted)
      · rcases List.mem_cons.mp left with rfl | last
        · exact .exits stood holds
        · cases List.mem_singleton.mp last
          exact .follows rfl
  | settles _ opens => exact opens.tells found member

/-- No call of the owner returns in the step of a worker. -/
theorem step_unreturned {now : Nat} {cue : Cue M} {caller : Nat} {result : Except Failure Unit}
    (stepped : crew.step now id cue = some (next, events)) : .returned caller result ∉ events := by
  intro returned
  obtain ⟨runner, found, steps⟩ := step_cases stepped
  cases steps.tells found returned with
  | @calls await _ _ _ called => cases await <;> cases called
  | follows aftermath => cases aftermath

theorem Steps.batch_of_withdrawn (steps : crew.Steps id runner next events)
    (withdrawn : runner.allowed = false) :
    next.pipeline.batch = crew.pipeline.batch ∨ next.pipeline.batch.toList = [] := by
  cases steps with
  | asks => exact .inl rfl
  | leaves => exact .inr rfl
  | settles _ opens =>
      obtain ⟨result, ended⟩ := opens.ended_of_withdrawn withdrawn
      obtain ⟨standing, told, settled, _⟩ :=
        settle_of_ended crew id runner ended
      rw [settled]
      exact .inr (opens.drained ended)

end Crew

namespace Accumulator

variable {accumulator before after : Accumulator M} {id : Nat} {events : List (Event M)}

structure Orderly (accumulator : Accumulator M) : Prop where
  crew : accumulator.crew.Orderly
  staged : ∀ {id : Nat} {stage : RunState},
    accumulator.stage? id = some stage → accumulator.state = stage
  single : ∀ {id other : Nat} {stage : RunState},
    accumulator.stage? id = some stage → accumulator.stage? other ≠ none → other = id
  manned : accumulator.state = .running → accumulator.dropped = false → accumulator.active ≠ none
  spanning : ∀ {worker : Nat}, accumulator.active = some worker → accumulator.state = .running
  permitted : ∀ {worker : Nat},
    accumulator.crew.allows worker = true → accumulator.active = some worker
  still : accumulator.state = .stopped ∨ accumulator.state = .starting →
    accumulator.crew.pipeline.batch.toList = []

theorem Orderly.withdrawn (orderly : accumulator.Orderly) (halted : accumulator.active = none)
    (worker : Nat) : accumulator.crew.allows worker = false := by
  cases permission : accumulator.crew.allows worker with
  | false => rfl
  | true => exact absurd (halted.symm.trans (orderly.permitted permission)) nofun

/-- The active worker is the only one whose permission there is to withdraw. -/
theorem Orderly.withdraw (orderly : accumulator.Orderly) {worker : Nat}
    (active : accumulator.active = some worker) (other : Nat) :
    (accumulator.crew.withdraw worker).allows other = false := by
  rw [Crew.allows_withdraw]
  split
  · rfl
  · rename_i different
    cases permission : accumulator.crew.allows other with
    | false => rfl
    | true =>
        have same := active.symm.trans (orderly.permitted permission)
        exact absurd (Option.some.inj same).symm different

theorem Orderly.inactive (orderly : accumulator.Orderly) (idle : accumulator.state ≠ .running) :
    accumulator.active = none := by
  cases active : accumulator.active with
  | none => rfl
  | some worker => exact absurd (orderly.spanning active) idle

theorem orderly_make (name : String) (policy : Policy) (reporter : Reporter) :
    (make name policy reporter : Accumulator M).Orderly where
  crew := Crew.orderly_make _ _ rfl
  staged found := by simp [make, stage?] at found
  single found := by simp [make, stage?] at found
  manned running := by simp [make] at running
  spanning active := by simp [make] at active
  permitted permission := by simp [make, Crew.make, Crew.allows, Crew.runner?] at permission
  still _ := rfl

theorem Carries.calls_kept (carried : before.Carries id after events) :
    after.crew.lock = before.crew.lock ∧
      ∀ other, after.crew.awaitOf? other = before.crew.awaitOf? other := by
  cases carried with
  | passes _ _ life | starts _ _ life | fails _ _ life | finishes _ _ life =>
      rw [show after.crew = _ from congrArg Life.crew life]
      exact ⟨rfl, fun _ => rfl⟩
  | launches now _ _ life =>
      rw [show after.crew = _ from congrArg Life.crew life]
      exact ⟨rfl, Crew.awaitOf?_hire (before.crew.markStarted now) before.policy true⟩
  | stops _ _ _ life =>
      rw [show after.crew = _ from congrArg Life.crew life]
      exact ⟨rfl, Crew.awaitOf?_withdraw before.crew _⟩

/-- A call leaves the workers as they are, hires one at the end of a start or withdraws the
active one. -/
theorem Carries.crew_cases (carried : before.Carries id after events) :
    (after.crew.runners = before.crew.runners ∧ after.active = before.active) ∨
      (∃ worker, after.crew = before.crew.withdraw worker ∧ after.active = none) ∨
      ∃ now, before.stage? id = some .starting ∧
        after.crew = (before.crew.markStarted now).hire before.policy true ∧
        after.active = some before.crew.runners.length := by
  cases carried with
  | passes _ _ life | starts _ _ life | fails _ _ life | finishes _ _ life =>
      have crew : after.crew = _ := congrArg Life.crew life
      exact .inl ⟨by rw [crew]; rfl, congrArg Life.active life⟩
  | launches now staged _ life =>
      exact .inr (.inr ⟨now, staged, congrArg Life.crew life, congrArg Life.active life⟩)
  | stops _ _ _ life =>
      exact .inr (.inl ⟨_, congrArg Life.crew life, congrArg Life.active life⟩)

theorem Carries.current? (carried : before.Carries id after events) :
    after.crew.current? = before.crew.current? :=
  Crew.current?_congr carried.calls_kept.1 carried.calls_kept.2

theorem release_active (accumulator : Accumulator M) : accumulator.release.active = none := by
  unfold release
  split
  · rfl
  · assumption

theorem release_state (accumulator : Accumulator M) :
    accumulator.release.state = accumulator.state := by
  unfold release
  split <;> rfl

theorem release_calls_kept (accumulator : Accumulator M) :
    accumulator.release.crew.lock = accumulator.crew.lock ∧
      ∀ other, accumulator.release.crew.awaitOf? other = accumulator.crew.awaitOf? other := by
  unfold release
  split
  · exact ⟨rfl, Crew.awaitOf?_withdraw accumulator.crew _⟩
  · exact ⟨rfl, fun _ => rfl⟩

theorem release_current? (accumulator : Accumulator M) :
    accumulator.release.crew.current? = accumulator.crew.current? :=
  Crew.current?_congr accumulator.release_calls_kept.1 accumulator.release_calls_kept.2

theorem release_pipeline (accumulator : Accumulator M) :
    accumulator.release.crew.pipeline = accumulator.crew.pipeline := by
  unfold release
  split <;> rfl

theorem stage?_cases {stage : RunState} (staged : accumulator.stage? id = some stage) :
    stage = .starting ∨ stage = .stopping := by
  obtain ⟨caller, _, found⟩ := Option.bind_eq_some_iff.mp staged
  cases point : caller.point <;> simp_all [CallPoint.stage?]

theorem Orderly.unstaged (orderly : accumulator.Orderly)
    (settled : accumulator.state = .stopped ∨ accumulator.state = .running) (other : Nat) :
    accumulator.stage? other = none := by
  cases staged : accumulator.stage? other with
  | none => rfl
  | some stage =>
      have state := orderly.staged staged
      rcases stage?_cases staged with rfl | rfl <;> simp [state] at settled

theorem Orderly.alone (orderly : accumulator.Orderly) {stage : RunState}
    (staged : accumulator.stage? id = some stage) {other : Nat} (different : other ≠ id) :
    accumulator.stage? other = none := by
  cases found : accumulator.stage? other with
  | none => rfl
  | some _ => exact absurd (orderly.single staged (by simp [found])) different

theorem Places.staged {stage : Option RunState} (places : before.Places id stage after events)
    (alone : ∀ other ≠ id, before.stage? other = none) {caller : Nat} {reached : RunState}
    (found : after.stage? caller = some reached) : caller = id ∧ stage = some reached := by
  rw [places.stages] at found
  by_cases same : caller = id
  · rw [if_pos same] at found
    exact ⟨same, found⟩
  · rw [if_neg same, alone caller same] at found
    cases found

theorem Places.single {stage : Option RunState} (places : before.Places id stage after events)
    (alone : ∀ other ≠ id, before.stage? other = none) {first other : Nat} {reached : RunState}
    (found : after.stage? first = some reached) (staged : after.stage? other ≠ none) :
    other = first := by
  obtain ⟨_, there⟩ := Option.ne_none_iff_exists'.mp staged
  rw [(places.staged alone there).1, (places.staged alone found).1]

theorem Orderly.congr (orderly : before.Orderly) (life : after.life = before.life)
    (stages : ∀ other, after.stage? other = before.stage? other) : after.Orderly := by
  have crew : after.crew = before.crew := congrArg Life.crew life
  have state : after.state = before.state := congrArg Life.state life
  have active : after.active = before.active := congrArg Life.active life
  have dropped : after.dropped = before.dropped := congrArg Life.dropped life
  constructor
  · rw [crew]
    exact orderly.crew
  · intro id stage found
    rw [state]
    exact orderly.staged ((stages id).symm.trans found)
  · intro id other stage found
    rw [stages]
    exact orderly.single ((stages id).symm.trans found)
  · rw [state, dropped, active]
    exact orderly.manned
  · rw [state, active]
    exact orderly.spanning
  · rw [crew, active]
    exact orderly.permitted
  · rw [crew, state]
    exact orderly.still

theorem Orderly.of_idle {stage : Option RunState} (places : before.Places id stage after events)
    (alone : ∀ other ≠ id, before.stage? other = none)
    (staged : ∀ reached, stage = some reached → after.state = reached)
    (crew : after.crew.Orderly) (idle : after.state ≠ .running) (inactive : after.active = none)
    (withdrawn : ∀ worker, after.crew.allows worker = false)
    (still : after.state ≠ .stopping → after.crew.pipeline.batch.toList = []) :
    after.Orderly where
  crew := crew
  staged found := staged _ (places.staged alone found).2
  single := places.single alone
  manned running := absurd running idle
  spanning active := by simp [inactive] at active
  permitted allowed := by simp [withdrawn] at allowed
  still settled := still (by rcases settled with state | state <;> simp [state])

theorem markStarted_orderly {crew : Crew M} (orderly : crew.Orderly) (now : Nat) :
    (crew.markStarted now).Orderly :=
  orderly.congr rfl (fun _ => rfl) (.inl rfl)

theorem cleared_orderly {crew : Crew M} (orderly : crew.Orderly) : crew.cleared.Orderly :=
  orderly.congr rfl (fun _ => rfl) (.inr rfl)

theorem Orderly.carries (orderly : before.Orderly) (carried : before.Carries id after events) :
    after.Orderly := by
  cases carried with
  | passes staged places life _ =>
      refine orderly.congr life fun other => ?_
      rw [places.stages]
      split
      · rename_i same
        rw [same, staged]
      · rfl
  | starts was places life _ =>
      have crew : after.crew = before.crew := congrArg Life.crew life
      have state : after.state = .starting := congrArg Life.state life
      have inactive := orderly.inactive (by simp [was])
      refine .of_idle places (fun other _ => orderly.unstaged (.inl was) other)
        (by simp [state]) (crew ▸ orderly.crew) (by simp [state])
        ((congrArg Life.active life).trans inactive) ?_ ?_
      · rw [crew]
        exact orderly.withdrawn inactive
      · rw [crew]
        exact fun _ => orderly.still (.inl was)
  | fails staged places life _ =>
      have crew : after.crew = before.crew := congrArg Life.crew life
      have state : after.state = .stopped := congrArg Life.state life
      have was := orderly.staged staged
      have inactive := orderly.inactive (by simp [was])
      refine .of_idle places (fun _ => orderly.alone staged) nofun (crew ▸ orderly.crew)
        (by simp [state]) ((congrArg Life.active life).trans inactive) ?_ ?_
      · rw [crew]
        exact orderly.withdrawn inactive
      · rw [crew]
        exact fun _ => orderly.still (.inr was)
  | launches now staged places life _ =>
      have crew : after.crew = (before.crew.markStarted now).hire before.policy true :=
        congrArg Life.crew life
      have state : after.state = .running := congrArg Life.state life
      have active : after.active = some before.crew.runners.length := congrArg Life.active life
      have was := orderly.staged staged
      have inactive := orderly.inactive (by simp [was])
      exact
        { crew := crew ▸ (markStarted_orderly orderly.crew now).hire before.policy true
          staged := fun found =>
            nomatch (places.staged (fun _ => orderly.alone staged) found).2
          single := places.single fun _ => orderly.alone staged
          manned := by simp [active]
          spanning := fun _ => state
          permitted := by
            intro worker allowed
            rw [crew, Crew.allows_hire] at allowed
            split at allowed
            · rename_i latest
              rw [active, latest]
              rfl
            · rw [Crew.allows_markStarted, orderly.withdrawn inactive] at allowed
              cases allowed
          still := by simp [state] }
  | @stops worker was active places life _ =>
      have crew : after.crew = before.crew.withdraw worker := congrArg Life.crew life
      have state : after.state = .stopping := congrArg Life.state life
      refine .of_idle places (fun other _ => orderly.unstaged (.inr was) other) (by simp [state])
        (crew ▸ orderly.crew.withdraw worker) (by simp [state]) (congrArg Life.active life) ?_ ?_
      · rw [crew]
        exact orderly.withdraw active
      · simp [state]
  | finishes staged places life _ =>
      have crew : after.crew = before.crew.cleared := congrArg Life.crew life
      have state : after.state = .stopped := congrArg Life.state life
      have inactive := orderly.inactive (by simp [orderly.staged staged])
      refine .of_idle places (fun _ => orderly.alone staged) nofun
        (crew ▸ cleared_orderly orderly.crew) (by simp [state])
        ((congrArg Life.active life).trans inactive) ?_ ?_
      · rw [crew]
        exact orderly.withdrawn inactive
      · rw [crew]
        exact fun _ => rfl

theorem Orderly.works {now : Nat} {cue : Cue M} {crew : Crew M} (orderly : before.Orderly)
    (stepped : before.crew.step now id cue = some (crew, events)) :
    ({ before with crew } : Accumulator M).Orderly where
  crew := orderly.crew.step stepped
  staged := orderly.staged
  single := orderly.single
  manned := orderly.manned
  spanning := orderly.spanning
  permitted {worker} allowed :=
    orderly.permitted (((Crew.step_runners stepped).2 worker).symm.trans allowed)
  still settled := by
    -- In these states nobody may work, so whoever is resumed fills nothing in.
    obtain ⟨runner, found, steps⟩ := Crew.step_cases stepped
    have inactive := orderly.inactive (by rcases settled with state | state <;> simp_all)
    have withdrawn : runner.allowed = false :=
      (Crew.allows_of_found found).symm.trans (orderly.withdrawn inactive id)
    rcases steps.batch_of_withdrawn withdrawn with same | empty
    · rw [same]
      exact orderly.still settled
    · exact empty

theorem Orderly.release (orderly : before.Orderly) : before.release.Orderly := by
  cases active : before.active with
  | none =>
      simp only [Accumulator.release, active]
      exact
        { crew := orderly.crew
          staged := orderly.staged
          single := orderly.single
          manned := nofun
          spanning := nofun
          permitted := fun allowed => active ▸ orderly.permitted allowed
          still := orderly.still }
  | some worker =>
      simp only [Accumulator.release, active]
      exact
        { crew := orderly.crew.withdraw worker
          staged := orderly.staged
          single := orderly.single
          manned := nofun
          spanning := nofun
          permitted := fun allowed => by
            rw [orderly.withdraw active] at allowed
            cases allowed
          still := orderly.still }

theorem Orderly.step_acts {now : Nat} {move : Move M} (orderly : before.Orderly)
    (stepped : before.step now move = some (after, events)) :
    before.Acts now move after events :=
  Accumulator.step_acts orderly.manned stepped

theorem Orderly.step_evolves {now : Nat} {move : Move M} (orderly : before.Orderly)
    (stepped : before.step now move = some (after, events)) :
    before.Evolves now move after events :=
  Accumulator.step_evolves orderly.manned stepped

/-- Whatever happens to an accumulator, it stays orderly. -/
theorem Orderly.step {now : Nat} {move : Move M} (orderly : before.Orderly)
    (stepped : before.step now move = some (after, events)) : after.Orderly := by
  cases orderly.step_evolves stepped with
  | carries carried => exact orderly.carries carried
  | works resumed => exact orderly.works resumed
  | drops => exact orderly.release

theorem Orderly.run? {start last : Accumulator M} {moves : List (Nat × Move M)}
    (orderly : start.Orderly) (ran : start.run? moves = some (last, events)) : last.Orderly :=
  (follow?_induction Orderly (fun _ _ _ => True) (fun orderly stepped => orderly.step stepped)
    (fun _ => trivial) (fun _ _ _ _ => trivial) orderly ran).1

theorem run?_orderly (name : String) (policy : Policy) (reporter : Reporter)
    {moves : List (Nat × Move M)}
    (ran : (make name policy reporter).run? moves = some (accumulator, events)) :
    accumulator.Orderly :=
  (orderly_make name policy reporter).run? ran

/-- What each move adds to a relation between the two ends of a history of an orderly
accumulator holds of the whole history. -/
theorem run?_induction {start last : Accumulator M} {moves : List (Nat × Move M)}
    (Relates : Accumulator M → List (Event M) → Accumulator M → Prop)
    (refl : ∀ {state}, Relates state [] state)
    (head : ∀ {now move state next seen last more}, state.Orderly →
      state.Evolves now move next seen → Relates next more last →
      Relates state (seen ++ more) last)
    (orderly : start.Orderly) (ran : start.run? moves = some (last, events)) :
    Relates start events last :=
  (follow?_induction Orderly Relates (fun orderly stepped => orderly.step stepped)
    (fun _ => refl)
    (fun orderly stepped _ rest => head orderly (orderly.step_evolves stepped) rest)
    orderly ran).2

end Accumulator

end Batching

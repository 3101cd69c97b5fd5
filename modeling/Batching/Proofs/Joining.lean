import Batching.Proofs.Permission

namespace Batching

/-! Waiting for a worker to be gone.

The latest worker is there to be joined until one caller has taken it.  That caller returns
when the worker is gone; a caller that finds it taken returns at once.  So whoever joins a
worker alone can rely on it, and whoever comes second cannot.
-/

variable {M : Type}

namespace CallPoint

/-- The worker that a caller waits for. -/
def worker? : CallPoint → Option Nat
  | .joining worker _ => some worker
  | _ => none

/-- A caller that joins has begun to once it is here. -/
def isLast : CallPoint → Bool
  | .joining _ _ | .returned _ => true
  | _ => false

theorem Leads.worker?_eq {point next : CallPoint} {answered asked : Request}
    {result : Except Failure Unit} (leads : point.Leads answered result next asked) :
    point.worker? = none ∧ next.worker? = none := by
  cases leads <;> exact ⟨rfl, rfl⟩

theorem Leads.isLast_eq {point next : CallPoint} {answered asked : Request}
    {result : Except Failure Unit} (leads : point.Leads answered result next asked) :
    next.isLast = false := by
  cases leads <;> rfl

theorem Fails.worker?_eq {point : CallPoint} {answered : Request}
    {result : Except Failure Unit} {failure : Failure}
    (failed : point.Fails answered result failure) : point.worker? = none := by
  cases failed <;> rfl

end CallPoint

theorem Caller.Fits.call_eq_start {caller : Caller} {answered : Request}
    {result : Except Failure Unit} {failure : Failure} (fits : caller.Fits)
    (failed : caller.point.Fails answered result failure) : caller.call = .start := by
  obtain ⟨call, point⟩ := caller
  cases failed <;> exact fits

namespace Crew

variable {crew next : Crew M} {id worker : Nat} {runner : Runner M} {events : List (Event M)}

def gone (crew : Crew M) (worker : Nat) : Bool :=
  (crew.runner? worker).all Runner.gone

theorem gone_stand_of_ne {standing : Standing M} (different : worker ≠ id) :
    (crew.stand id standing).gone worker = crew.gone worker := by
  simp [gone, runner?_stand, different]

theorem gone_congr (runners : next.runners = crew.runners) (worker : Nat) :
    next.gone worker = crew.gone worker := by
  rw [gone, runner?, runners, gone, runner?]

theorem gone_withdraw (crew : Crew M) (id worker : Nat) :
    (crew.withdraw id).gone worker = crew.gone worker := by
  rw [gone, runner?_withdraw]
  split
  · rename_i same
    subst same
    rw [gone, Option.all_map]
    rfl
  · rfl

theorem gone_hire (policy : Policy) (repeats : Bool) (within : worker < crew.runners.length) :
    (crew.hire policy repeats).gone worker = crew.gone worker := by
  simp [gone, runner?_hire, Nat.ne_of_lt within]

theorem gone_hire_last (crew : Crew M) (policy : Policy) (repeats : Bool) :
    (crew.hire policy repeats).gone crew.runners.length = false := by
  simp [gone, runner?_hire, Runner.gone]

theorem withdraw_runners_length (crew : Crew M) (id : Nat) :
    (crew.withdraw id).runners.length = crew.runners.length := by
  simp [withdraw]

theorem hire_runners_length (crew : Crew M) (policy : Policy) (repeats : Bool) :
    (crew.hire policy repeats).runners.length = crew.runners.length + 1 := by
  simp [hire]

theorem Opens.present {opening : List (Event M)} {turn : Turn M}
    (opens : crew.Opens id runner opening turn) : runner.gone = false := by
  cases opens with
  | begins stood | receives stood | receiveFails stood | processes stood | processFails stood =>
      rw [Runner.gone, stood]

/-- Only a runner that is not gone can be resumed. -/
theorem Steps.present (steps : crew.Steps id runner next events) : runner.gone = false := by
  cases steps with
  | asks idle => rcases idle with stood | stood <;> rw [Runner.gone, stood]
  | settles _ opens => exact opens.present
  | leaves stood => rw [Runner.gone, stood]

theorem gone_step {now : Nat} {cue : Cue M} (stepped : crew.step now id cue = some (next, events))
    (ended : crew.gone worker = true) : next.gone worker = true := by
  obtain ⟨runner, found, steps⟩ := step_cases stepped
  have different : worker ≠ id := by
    rintro rfl
    rw [gone, found, Option.all_some, steps.present] at ended
    cases ended
  obtain ⟨standing, pipeline, lock, rfl⟩ := steps.stands
  rw [gone_stand_of_ne different]
  exact ended

end Crew

namespace Accumulator

variable {placed before after entered : Accumulator M} {now id worker : Nat} {call : Call}
  {caller : Caller} {move : Move M} {events : List (Event M)}

theorem isGone_eq (accumulator : Accumulator M) (worker : Nat) :
    accumulator.isGone worker = accumulator.crew.gone worker := by
  unfold isGone Crew.gone
  cases accumulator.crew.runner? worker <;> rfl

def hired (accumulator : Accumulator M) : Nat :=
  accumulator.crew.runners.length

/-- The worker that caller `id` waits for. -/
def joins? (accumulator : Accumulator M) (id : Nat) : Option Nat :=
  accumulator.callers[id]?.bind fun caller => caller.point.worker?

/-- Caller `id` joins, or has joined. -/
def hasJoined (accumulator : Accumulator M) (id : Nat) : Bool :=
  accumulator.callers[id]?.any fun caller => caller.call.joins && caller.point.isLast

theorem joins?_moveTo (accumulator : Accumulator M) (id other : Nat) (point : CallPoint) :
    (accumulator.moveTo id point).joins? other =
      if other = id then accumulator.callers[id]?.bind fun _ => point.worker?
      else accumulator.joins? other :=
  bind_point_moveTo CallPoint.worker? accumulator id other point

/-- What becomes of the latest worker and of the callers that wait for one. -/
inductive Tends (before after : Accumulator M) : Prop where
  | keeps (latest : after.latest = before.latest) (hired : after.hired = before.hired)
      (joins : ∀ other, after.joins? other = before.joins? other)
  | collects {worker : Nat} (slot : before.latest = some worker)
      (gone : before.crew.gone worker = true) (latest : after.latest = none)
      (hired : after.hired = before.hired)
      (joins : ∀ other, after.joins? other = before.joins? other)
  | waits {worker id : Nat} (slot : before.latest = some worker) (latest : after.latest = none)
      (hired : after.hired = before.hired) (free : before.joins? id = none)
      (joins : ∀ other, after.joins? other =
        if other = id then some worker else before.joins? other)
  | returns {worker id : Nat} (waited : before.joins? id = some worker)
      (gone : before.crew.gone worker = true) (latest : after.latest = before.latest)
      (hired : after.hired = before.hired)
      (joins : ∀ other, after.joins? other = if other = id then none else before.joins? other)
  | launches (latest : after.latest = some before.hired) (hired : after.hired = before.hired + 1)
      (joins : ∀ other, after.joins? other = before.joins? other)

/-! ### What each leg does -/

theorem joins?_moveTo_free {point : CallPoint} (callers : entered.callers = before.callers)
    (free : before.joins? id = none) (unbound : point.worker? = none) (other : Nat) :
    (entered.moveTo id point).joins? other = before.joins? other := by
  rw [joins?_moveTo, unbound, Option.bind_fun_none]
  split
  · rename_i same
    rw [same, free]
  · rw [joins?, joins?, callers]

theorem Departs.tends {joins : Bool} {result : Except Failure Unit}
    (departed : placed.Departs id joins result after events)
    (found : placed.callers[id]? = some caller) (free : placed.joins? id = none) :
    placed.Tends after := by
  cases departed with
  | returns => exact .keeps rfl rfl (joins?_moveTo_free rfl free rfl)
  | collects _ slot gone =>
      exact .collects slot (isGone_eq placed _ ▸ gone) rfl rfl
        (joins?_moveTo_free (by rfl) free rfl)
  | waits _ slot =>
      refine .waits slot rfl rfl free fun other => ?_
      rw [joins?_moveTo, found]
      rfl

/-- The same change seen from an accumulator that has the same workers and the same callers
waiting for them. -/
theorem Tends.congr (tends : placed.Tends after) (latest : placed.latest = before.latest)
    (hired : placed.hired = before.hired)
    (gone : ∀ worker, placed.crew.gone worker = before.crew.gone worker)
    (joins : ∀ other, placed.joins? other = before.joins? other) : before.Tends after := by
  cases tends <;> simp only [latest, hired, gone, joins] at *
  · exact .keeps ‹_› ‹_› ‹_›
  · exact .collects ‹_› ‹_› ‹_› ‹_› ‹_›
  · exact .waits ‹_› ‹_› ‹_› ‹_› ‹_›
  · exact .returns ‹_› ‹_› ‹_› ‹_› ‹_›
  · exact .launches ‹_› ‹_› ‹_›

theorem joins?_eq_none_of_length (accumulator : Accumulator M) :
    accumulator.joins? accumulator.callers.length = none := by
  simp [joins?]

theorem joins?_enroll (accumulator : Accumulator M) (call : Call) (other : Nat) :
    (accumulator.enroll call).joins? other = accumulator.joins? other := by
  simp only [joins?, enroll, List.getElem?_append]
  split
  · rfl
  · rename_i beyond
    rw [List.getElem?_eq_none (Nat.le_of_not_lt beyond), List.getElem?_singleton]
    split <;> rfl

theorem Enters.tends
    (entered : (before.enroll call).Enters before.callers.length call after events) :
    before.Tends after := by
  have free : (before.enroll call).joins? before.callers.length = none :=
    (joins?_enroll ..).trans before.joins?_eq_none_of_length
  have tends : (before.enroll call).Tends after := by
    cases entered with
    | refused | adopts | starts => exact .keeps rfl rfl (joins?_moveTo_free (by rfl) free rfl)
    | departs _ departed => exact departed.tends (enroll_found before call) free
    | stops =>
        exact .keeps rfl (Crew.withdraw_runners_length before.crew _)
          (joins?_moveTo_free (by rfl) free rfl)
  exact tends.congr rfl rfl (fun _ => rfl) (joins?_enroll before call)

theorem Proceeds.tends (found : before.callers[id]? = some caller)
    (proceeded : before.Proceeds now id caller after events) : before.Tends after := by
  have place : before.joins? id = caller.point.worker? := by rw [joins?, found]; rfl
  cases proceeded with
  | asks leads =>
      obtain ⟨left, reached⟩ := leads.worker?_eq
      exact .keeps rfl rfl (joins?_moveTo_free rfl (place.trans left) reached)
  | fails failed =>
      exact .keeps rfl rfl (joins?_moveTo_free (by rfl) (place.trans failed.worker?_eq) rfl)
  | launches stood =>
      rw [stood] at place
      exact .launches rfl (Crew.hire_runners_length (before.crew.markStarted now) ..)
        (joins?_moveTo_free (by rfl) place rfl)
  | finishes stood _ departed =>
      rw [stood] at place
      exact (departed.tends found place).congr rfl rfl (fun _ => rfl) (fun _ => rfl)
  | joined stood gone =>
      rw [stood] at place
      refine .returns place (isGone_eq before _ ▸ gone) rfl rfl fun other => ?_
      rw [joins?_moveTo, found]
      rfl

theorem release_hired (accumulator : Accumulator M) :
    accumulator.release.hired = accumulator.hired := by
  unfold release
  split
  · exact Crew.withdraw_runners_length accumulator.crew _
  · rfl

theorem release_gone (accumulator : Accumulator M) (worker : Nat) :
    accumulator.release.crew.gone worker = accumulator.crew.gone worker := by
  unfold release
  split
  · exact Crew.gone_withdraw accumulator.crew _ worker
  · rfl

theorem Acts.tends (acts : before.Acts now move after events) : before.Tends after := by
  cases acts with
  | enters _ entered => exact entered.tends
  | answers found proceeded | joins found proceeded => exact proceeded.tends found
  | works stepped => exact .keeps rfl (Crew.step_runners stepped).1 fun _ => rfl
  | drops =>
      refine .keeps ?_ before.release_hired fun other => ?_
      · unfold release
        split <;> rfl
      · rw [joins?, release_callers, joins?]

theorem Tends.hired_le (tends : before.Tends after) : before.hired ≤ after.hired := by
  cases tends with
  | keeps _ same | collects _ _ _ same | waits _ _ same | returns _ _ _ same =>
      exact Nat.le_of_eq same.symm
  | launches _ more => omega

theorem Tends.hired_eq (tends : before.Tends after) (free : after.latest = none) :
    after.hired = before.hired := by
  cases tends with
  | keeps _ same | collects _ _ _ same | waits _ _ same | returns _ _ _ same => exact same
  | launches slot => exact nomatch slot.symm.trans free

/-- A caller stops waiting only for a worker that is gone. -/
theorem Tends.joins_on (tends : before.Tends after) (waits : before.joins? id = some worker) :
    after.joins? id = some worker ∨ before.crew.gone worker = true := by
  cases tends with
  | keeps _ _ joins | collects _ _ _ _ joins | launches _ _ joins =>
      exact .inl ((joins id).trans waits)
  | @waits _ other _ _ _ free joins =>
      have different : id ≠ other := by
        rintro rfl
        exact nomatch free.symm.trans waits
      exact .inl (by rw [joins, if_neg different, waits])
  | @returns _ other waited ended _ _ joins =>
      by_cases same : id = other
      · subst id
        cases waited.symm.trans waits
        exact .inr ended
      · exact .inl (by rw [joins, if_neg same, waits])

/-- A caller begins to wait only for the latest worker, which it takes. -/
theorem Tends.joins_back (tends : before.Tends after) (waits : after.joins? id = some worker) :
    before.joins? id = some worker ∨ before.latest = some worker ∧ after.latest = none := by
  cases tends with
  | keeps _ _ joins | collects _ _ _ _ joins | launches _ _ joins =>
      exact .inl ((joins id).symm.trans waits)
  | waits slot free _ _ joins =>
      rw [joins] at waits
      split at waits
      · cases waits
        exact .inr ⟨slot, free⟩
      · exact .inl waits
  | returns _ _ _ _ joins =>
      rw [joins] at waits
      split at waits
      · cases waits
      · exact .inl waits

theorem Tends.latest_back (tends : before.Tends after) (slot : after.latest = some worker) :
    before.latest = some worker ∧ after.hired = before.hired ∨
      worker = before.hired ∧ after.hired = before.hired + 1 := by
  cases tends with
  | keeps latest hired | returns _ _ latest hired => exact .inl ⟨latest.symm.trans slot, hired⟩
  | collects _ _ free | waits _ free => exact nomatch free.symm.trans slot
  | launches latest hired =>
      cases latest.symm.trans slot
      exact .inr ⟨rfl, hired⟩

/-- The latest worker is taken by a caller that waits for it, if it is still there. -/
theorem Tends.taken (tends : before.Tends after) (slot : before.latest = some worker)
    (free : after.latest = none) :
    before.crew.gone worker = true ∨ ∃ id, after.joins? id = some worker := by
  cases tends with
  | keeps latest | returns _ _ latest => exact nomatch (latest.symm.trans free).symm.trans slot
  | collects latest ended =>
      cases latest.symm.trans slot
      exact .inl ended
  | @waits _ id latest _ _ _ joins =>
      cases latest.symm.trans slot
      exact .inr ⟨id, by rw [joins, if_pos rfl]⟩
  | launches latest => exact nomatch latest.symm.trans free

theorem Evolves.gone (evolves : before.Evolves now move after events)
    (within : worker < before.hired) (ended : before.crew.gone worker = true) :
    after.crew.gone worker = true := by
  cases evolves with
  | carries carried =>
      rcases carried.crew_cases with ⟨runners, _⟩ | ⟨other, crew, _⟩ | ⟨now, _, crew, _⟩
      · exact (Crew.gone_congr runners worker).trans ended
      · rw [crew]
        exact (Crew.gone_withdraw ..).trans ended
      · rw [crew]
        exact (Crew.gone_hire _ _ (by exact within)).trans ended
  | works stepped => exact Crew.gone_step stepped ended
  | drops => exact (before.release_gone worker).trans ended

/-! ### Who may be joined -/

/-- The latest worker is there to be joined until a caller has taken it, and no longer. -/
structure Tended (accumulator : Accumulator M) : Prop where
  known : ∀ {id worker : Nat}, accumulator.joins? id = some worker → worker < accumulator.hired
  latest : ∀ {worker : Nat}, accumulator.latest = some worker → worker + 1 = accumulator.hired
  alone : ∀ {worker : Nat}, accumulator.latest = some worker →
    ∀ id, accumulator.joins? id ≠ some worker
  taken : ∀ {worker : Nat}, accumulator.latest = none → worker + 1 = accumulator.hired →
    accumulator.crew.gone worker = true ∨ ∃ id, accumulator.joins? id = some worker

theorem tended_make (name : String) (policy : Policy) (reporter : Reporter) :
    (make name policy reporter : Accumulator M).Tended where
  known joined := by simp [joins?, make] at joined
  latest slot := by simp [make] at slot
  alone slot := by simp [make] at slot
  taken _ count := by simp [hired, make, Crew.make] at count

theorem Tended.step (tended : before.Tended) (tends : before.Tends after)
    (gone : ∀ worker < before.hired, before.crew.gone worker = true →
      after.crew.gone worker = true) : after.Tended where
  known {id worker} waits := by
    have more := tends.hired_le
    rcases tends.joins_back waits with earlier | ⟨slot, _⟩
    · have within := tended.known earlier
      omega
    · have count := tended.latest slot
      omega
  latest slot := by
    rcases tends.latest_back slot with ⟨earlier, hired⟩ | ⟨rfl, hired⟩
    · exact hired ▸ tended.latest earlier
    · exact hired.symm
  alone {worker} slot id waits := by
    rcases tends.joins_back waits with joined | ⟨_, free⟩
    · rcases tends.latest_back slot with ⟨earlier, _⟩ | ⟨rfl, _⟩
      · exact tended.alone earlier id joined
      · exact absurd (tended.known joined) (Nat.lt_irrefl _)
    · exact nomatch free.symm.trans slot
  taken {worker} free count := by
    rw [tends.hired_eq free] at count
    have stays := gone worker (by omega)
    cases latest : before.latest with
    | none =>
        rcases tended.taken latest count with ended | ⟨id, joined⟩
        · exact .inl (stays ended)
        · rcases tends.joins_on joined with waits | ended
          · exact .inr ⟨id, waits⟩
          · exact .inl (stays ended)
    | some other =>
        have same := tended.latest latest
        obtain rfl : other = worker := by omega
        rcases tends.taken latest free with ended | waits
        · exact .inl (stays ended)
        · exact .inr waits

/-- Everything that holds of the callers and the workers between two moves. -/
structure Settled (accumulator : Accumulator M) : Prop where
  orderly : accumulator.Orderly
  fitting : accumulator.Fitting
  tended : accumulator.Tended

theorem settled_make (name : String) (policy : Policy) (reporter : Reporter) :
    (make name policy reporter : Accumulator M).Settled where
  orderly := orderly_make name policy reporter
  fitting _ _ there := by simp [make] at there
  tended := tended_make name policy reporter

theorem Settled.step (settled : before.Settled)
    (stepped : before.step now move = some (after, events)) : after.Settled :=
  have acts := settled.orderly.step_acts stepped
  { orderly := settled.orderly.step stepped
    fitting := acts.fitting settled.fitting
    tended := settled.tended.step acts.tends fun _ within ended =>
      (settled.orderly.step_evolves stepped).gone within ended }

theorem Settled.run? {moves : List (Nat × Move M)} (settled : before.Settled)
    (ran : before.run? moves = some (after, events)) : after.Settled :=
  (follow?_induction Settled (fun _ _ _ => True) (fun settled stepped => settled.step stepped)
    (fun _ => trivial) (fun _ _ _ _ => trivial) settled ran).1

theorem run?_settled (name : String) (policy : Policy) (reporter : Reporter)
    {moves : List (Nat × Move M)}
    (ran : (make name policy reporter).run? moves = some (after, events)) : after.Settled :=
  (settled_make name policy reporter).run? ran

/-! ### Joining a worker -/

/-- In the step from `before` to `after` caller `id` begins to join: on its own, or when the
stop of its shutdown is over. -/
def JoinBegins (before after : Accumulator M) (id : Nat) : Prop :=
  before.hasJoined id = false ∧ after.hasJoined id = true

theorem hasJoined_moveTo (accumulator : Accumulator M) (id other : Nat) (point : CallPoint) :
    (accumulator.moveTo id point).hasJoined other =
      if other = id then
        accumulator.callers[id]?.any fun caller => caller.call.joins && point.isLast
      else accumulator.hasJoined other := by
  rw [hasJoined, callers_moveTo]
  split
  · cases accumulator.callers[id]? <;> rfl
  · rfl

theorem hasJoined_enroll (accumulator : Accumulator M) (call : Call) (other : Nat) :
    (accumulator.enroll call).hasJoined other = accumulator.hasJoined other := by
  simp only [hasJoined, enroll, List.getElem?_append]
  split
  · rfl
  · rename_i beyond
    rw [List.getElem?_eq_none (Nat.le_of_not_lt beyond), List.getElem?_singleton]
    split <;> simp [CallPoint.isLast]

/-- Caller `id` departs from `placed`, which has the workers of `before`, and joins. -/
structure Approaches (before placed after : Accumulator M) (id : Nat) : Prop where
  latest : placed.latest = before.latest
  runners : placed.crew.runners = before.crew.runners
  departs : ∃ caller result events, placed.callers[id]? = some caller ∧
    placed.Departs id true result after events

theorem JoinBegins.of_moveTo {mover : Nat} {point : CallPoint}
    (begins : before.JoinBegins (placed.moveTo mover point) id)
    (same : ∀ other, placed.hasJoined other = before.hasJoined other)
    (found : placed.callers[mover]? = some caller) :
    id = mover ∧ caller.call.joins = true ∧ point.isLast = true := by
  obtain ⟨unjoined, joined⟩ := begins
  rw [hasJoined_moveTo] at joined
  split at joined
  · rename_i moved
    rw [found, Option.any_some, Bool.and_eq_true] at joined
    exact ⟨moved, joined⟩
  · rw [same, unjoined] at joined
    cases joined

theorem JoinBegins.approaches {mover : Nat} {joins : Bool} {result : Except Failure Unit}
    (begins : before.JoinBegins after id)
    (same : ∀ other, placed.hasJoined other = before.hasJoined other)
    (latest : placed.latest = before.latest)
    (runners : placed.crew.runners = before.crew.runners)
    (found : placed.callers[mover]? = some caller)
    (joining : caller.call.joins = true → joins = true)
    (departed : placed.Departs mover joins result after events) :
    before.Approaches placed after id := by
  have moved : id = mover ∧ caller.call.joins = true := by
    cases departed with
    | returns | collects | waits =>
        obtain ⟨moved, joined, _⟩ := begins.of_moveTo (by exact same) (by exact found)
        exact ⟨moved, joined⟩
  obtain ⟨rfl, joined⟩ := moved
  exact ⟨latest, runners, caller, result, events, found, joining joined ▸ departed⟩

theorem Enters.join_begins
    (entered : (before.enroll call).Enters before.callers.length call after events)
    (begins : before.JoinBegins after id) : ∃ placed, before.Approaches placed after id := by
  have found := enroll_found before call
  have same := hasJoined_enroll before call
  cases entered with
  | refused called =>
      obtain ⟨_, joins, _⟩ := begins.of_moveTo same found
      rcases called with rfl | ⟨policy, rfl⟩ <;> cases joins
  | adopts called | starts called =>
      obtain ⟨_, joins, _⟩ := begins.of_moveTo (by exact same) (by exact found)
      rw [called] at joins
      cases joins
  | stops =>
      obtain ⟨_, _, last⟩ := begins.of_moveTo (by exact same) (by exact found)
      cases last
  | departs _ departed =>
      exact ⟨_, begins.approaches same rfl rfl found (fun joins => joins) departed⟩

theorem Proceeds.join_begins {mover : Nat} (fits : caller.Fits)
    (found : before.callers[mover]? = some caller)
    (proceeded : before.Proceeds now mover caller after events)
    (begins : before.JoinBegins after id) : ∃ placed, before.Approaches placed after id := by
  cases proceeded with
  | asks leads =>
      obtain ⟨_, _, last⟩ := begins.of_moveTo (fun _ => rfl) found
      exact nomatch leads.isLast_eq.symm.trans last
  | fails failed =>
      obtain ⟨_, joins, _⟩ := begins.of_moveTo (fun _ => rfl) (by exact found)
      rw [fits.call_eq_start failed] at joins
      cases joins
  | launches stood =>
      obtain ⟨_, joins, _⟩ := begins.of_moveTo (fun _ => rfl) (by exact found)
      rw [Caller.Fits, stood] at fits
      rw [fits] at joins
      cases joins
  | finishes stood _ departed =>
      have shuts : caller.call.joins = true → decide (caller.call = .shutdown) = true := by
        intro joins
        rw [Caller.Fits, stood] at fits
        rcases fits with stop | shutdown
        · rw [stop] at joins
          cases joins
        · exact decide_eq_true shutdown
      refine ⟨{ before with crew := before.crew.cleared, state := .stopped }, ?_⟩
      exact begins.approaches (fun _ => rfl) rfl rfl found shuts departed
  | joined stood =>
      obtain ⟨rfl, joins, _⟩ := begins.of_moveTo (fun _ => rfl) found
      have joined : before.hasJoined id = true := by
        rw [hasJoined, found, Option.any_some, joins, stood]
        rfl
      exact nomatch begins.1.symm.trans joined

theorem Acts.join_begins (fitting : before.Fitting) (acts : before.Acts now move after events)
    (begins : before.JoinBegins after id) : ∃ placed, before.Approaches placed after id := by
  cases acts with
  | enters _ entered => exact entered.join_begins begins
  | answers found proceeded | joins found proceeded =>
      exact proceeded.join_begins (fitting _ _ found) found begins
  | works => exact nomatch begins.1.symm.trans begins.2
  | drops =>
      obtain ⟨unjoined, joined⟩ := begins
      unfold release at joined
      split at joined <;> exact nomatch unjoined.symm.trans joined

/-- Whoever begins to join finds the latest worker taken and returns, finds it gone, or
waits for it. -/
theorem Approaches.cases (approached : before.Approaches placed after id) :
    after.crew.runners = before.crew.runners ∧
      (before.latest = none ∧ (∃ result, after.result? id = some result) ∨
        ∃ worker, before.latest = some worker ∧
          (before.crew.gone worker = true ∨ after.joins? id = some worker)) := by
  obtain ⟨latest, runners, caller, result, events, found, departed⟩ := approached
  have gone := Crew.gone_congr runners
  cases departed with
  | returns free =>
      refine ⟨runners, .inl ⟨latest.symm.trans (free rfl), result, ?_⟩⟩
      rw [result?, callers_moveTo, if_pos rfl, found]
      rfl
  | collects _ slot ended =>
      refine ⟨runners, .inr ⟨_, latest.symm.trans slot, .inl ?_⟩⟩
      rw [← gone, ← isGone_eq, ended]
  | waits _ slot =>
      refine ⟨runners, .inr ⟨_, latest.symm.trans slot, .inr ?_⟩⟩
      rw [joins?_moveTo, if_pos rfl, found]
      rfl

/-! ### Returning from a join -/

/-- Caller `id` waits for the worker, or has nothing left to wait for. -/
def Attends (accumulator : Accumulator M) (id worker : Nat) : Prop :=
  accumulator.joins? id = some worker ∨ accumulator.crew.gone worker = true

theorem Attends.step (attends : before.Attends id worker) (tends : before.Tends after)
    (gone : before.crew.gone worker = true → after.crew.gone worker = true) :
    after.Attends id worker := by
  rcases attends with waits | ended
  · rcases tends.joins_on waits with still | ended
    · exact .inl still
    · exact .inr (gone ended)
  · exact .inr (gone ended)

theorem run?_attends {start last : Accumulator M} {moves : List (Nat × Move M)}
    (settled : start.Settled) (ran : start.run? moves = some (last, events))
    (within : worker < start.hired) (attends : start.Attends id worker) :
    last.Attends id worker := by
  have followed := follow?_induction Settled
    (fun start _ last => worker < start.hired → start.Attends id worker →
      last.Attends id worker)
    (fun settled stepped => settled.step stepped) (fun _ _ attends => attends) ?_ settled ran
  · exact followed.2 within attends
  · intro now state move next seen last more settled stepped _ rest within attends
    have tends := (settled.orderly.step_acts stepped).tends
    refine rest (Nat.lt_of_lt_of_le within tends.hired_le) (attends.step tends fun ended => ?_)
    exact (settled.orderly.step_evolves stepped).gone within ended

theorem joins?_of_result? {result : Except Failure Unit}
    (returned : before.result? id = some result) : before.joins? id = none := by
  obtain ⟨caller, found, given⟩ := Option.bind_eq_some_iff.mp returned
  rw [joins?, found]
  obtain ⟨call, point⟩ := caller
  cases point <;> first | rfl | cases given

theorem Approaches.attends (approached : before.Approaches placed after id)
    (settled : before.Settled) (latest : worker + 1 = before.hired)
    (alone : before.crew.gone worker = true ∨ ∀ other, before.joins? other ≠ some worker) :
    after.Attends id worker := by
  obtain ⟨runners, found⟩ := approached.cases
  have same := Crew.gone_congr runners worker
  rcases found with ⟨taken, _, _⟩ | ⟨other, slot, here⟩
  · -- Whoever took the latest worker is still waiting for it, or it is gone.
    rcases settled.tended.taken taken latest with ended | ⟨other, joined⟩
    · exact .inr (same.trans ended)
    · rcases alone with ended | free
      · exact .inr (same.trans ended)
      · exact absurd joined (free other)
  · have count := settled.tended.latest slot
    obtain rfl : other = worker := by omega
    rcases here with ended | joined
    · exact .inr (same.trans ended)
    · exact .inl joined

/-- A join that returns has waited for the worker that was the latest when it began, unless
that worker was still there and another caller had taken it. -/
theorem join_waits_iff (name : String) (policy : Policy) (reporter : Reporter)
    {earlier : List (Nat × Move M)} {reached joining : Accumulator M} {seen : List (Event M)}
    (ran : (make name policy reporter).run? earlier = some (reached, seen))
    (stepped : reached.step now move = some (joining, events))
    (begins : reached.JoinBegins joining id) (latest : worker + 1 = reached.hired) :
    (∀ (more : List (Nat × Move M)) (last : Accumulator M) (later : List (Event M))
        (result : Except Failure Unit), joining.run? more = some (last, later) →
        last.result? id = some result → last.isGone worker = true) ↔
      reached.isGone worker = true ∨ ∀ other, reached.joins? other ≠ some worker := by
  have settled := run?_settled name policy reporter ran
  have acts := settled.orderly.step_acts stepped
  obtain ⟨placed, approached⟩ := acts.join_begins settled.fitting begins
  simp only [isGone_eq]
  constructor
  · intro waits
    obtain ⟨runners, ⟨taken, result, returned⟩ | ⟨other, slot, _⟩⟩ := approached.cases
    · have ended := waits [] joining [] result rfl returned
      exact .inl ((Crew.gone_congr runners worker).symm.trans ended)
    · have count := settled.tended.latest slot
      obtain rfl : other = worker := by omega
      exact .inr (settled.tended.alone slot)
  · intro alone more last later result followed returned
    have within : worker < joining.hired := by
      have more := acts.tends.hired_le
      omega
    rcases run?_attends (settled.step stepped) followed within
      (approached.attends settled latest alone) with waiting | ended
    · exact nomatch (joins?_of_result? returned).symm.trans waiting
    · exact ended

/-- The first half of a shutdown while the worker waits for the source. -/
def stoppedWhileReceiving : List (Nat × Move Nat) :=
  [(0, .begin .start), (0, .answer 0 (.ok ())), (0, .answer 0 (.ok ())), (0, .answer 0 (.ok ())),
    (0, .worker 0 .resume), (0, .worker 0 .resume), (5, .begin .shutdown), (5, .answer 1 (.ok ()))]

/-- The worker has its answer and leaves, and whoever waits for it goes on. -/
def leftAndJoined : List (Nat × Move Nat) :=
  [(9, .worker 0 (.received (.returned none))), (9, .worker 0 .resume), (9, .worker 0 .resume),
    (9, .joined 1)]

theorem join_waits_of_shutdown :
    ∃ (reached joining last : Accumulator Nat) (seen events later : List (Event Nat)),
      (make "pair" ⟨2, none, 50⟩ (.logging "pair")).run? stoppedWhileReceiving =
        some (reached, seen) ∧
      reached.step 6 (.answer 1 (.ok ())) = some (joining, events) ∧
      joining.isGone 0 = false ∧ joining.run? leftAndJoined = some (last, later) ∧
      last.result? 1 = some (.ok ()) ∧ last.isGone 0 = true := by
  obtain ⟨reached, joining, last, seen, events, later, ran, stepped, begins, latest, alone,
      present, followed, returned⟩ :
      ∃ (reached joining last : Accumulator Nat) (seen events later : List (Event Nat)),
        (make "pair" ⟨2, none, 50⟩ (.logging "pair")).run? stoppedWhileReceiving =
          some (reached, seen) ∧
        reached.step 6 (.answer 1 (.ok ())) = some (joining, events) ∧
        reached.JoinBegins joining 1 ∧ 0 + 1 = reached.hired ∧
        (∀ other, reached.joins? other ≠ some 0) ∧ joining.isGone 0 = false ∧
        joining.run? leftAndJoined = some (last, later) ∧ last.result? 1 = some (.ok ()) := by
    refine ⟨_, _, _, _, _, _, rfl, rfl, ⟨rfl, rfl⟩, rfl, fun other => ?_, rfl, rfl, rfl⟩
    rcases other with _ | _ | _ <;> exact nofun
  have waits := (join_waits_iff _ _ _ ran stepped begins latest).mpr (.inr alone)
  exact ⟨reached, joining, last, seen, events, later, ran, stepped, present, followed, returned,
    waits leftAndJoined last later _ followed returned⟩

/-- A second shutdown does not wait for the worker that the first one waits for. -/
theorem second_join_returns_early :
    ¬ ∀ (name : String) (policy : Policy) (reporter : Reporter) (earlier : List (Nat × Move Nat))
        (reached : Accumulator Nat) (seen : List (Event Nat)) (now : Nat) (move : Move Nat)
        (joining : Accumulator Nat) (events : List (Event Nat)) (id worker : Nat)
        (more : List (Nat × Move Nat)) (last : Accumulator Nat) (later : List (Event Nat))
        (result : Except Failure Unit),
      (make name policy reporter).run? earlier = some (reached, seen) →
        reached.step now move = some (joining, events) →
        reached.JoinBegins joining id → worker + 1 = reached.hired →
        joining.run? more = some (last, later) → last.result? id = some result →
        last.isGone worker = true := by
  intro waits
  have gone := waits "pair" ⟨2, none, 50⟩ (.logging "pair")
    (stoppedWhileReceiving ++ [(5, .answer 1 (.ok ()))]) _ _ 6 (.begin .shutdown) _ _ 2 0 [] _ _ _
    rfl rfl ⟨rfl, rfl⟩ rfl rfl rfl
  exact absurd gone (by decide)

end Accumulator

end Batching

import Batching.Crew
import Batching.Proofs.Stretch

namespace Batching

/-! The cycle lock and the batch.

Only the runner that holds the lock waits for a collaborator in a cycle, and while no
cycle is in progress the batch is empty.  A crew that satisfies both is orderly;
`Orderly.step` shows that whatever a runner does keeps the crew so.
-/

variable {M : Type}

def Standing.await? : Standing M → Option (Await M)
  | .awaiting await => some await
  | _ => none

/-- The events that follow the end of a cycle. -/
def Event.isAftermath : Event M → Bool
  | .granted _ | .reported _ | .finished _ => true
  | .logged notice => notice.isOfCycle
  | _ => false

namespace Crew

variable {crew next : Crew M} {now id : Nat} {runner : Runner M} {cue : Cue M}

def awaitOf? (crew : Crew M) (id : Nat) : Option (Await M) :=
  (crew.runner? id).bind fun runner => runner.standing.await?

/-- The cycle in progress: its runner and the call that it waits for. -/
def current? (crew : Crew M) : Option (Nat × Await M) :=
  crew.lock.holder.bind fun id => (crew.awaitOf? id).map fun await => (id, await)

/-- How a stretch of a cycle opens: what is seen of the answer that it begins with, and
the turn that the cycle takes. -/
inductive Opens (crew : Crew M) (id : Nat) (runner : Runner M) :
    List (Event M) → Turn M → Prop where
  | begins {turn : Turn M}
      (stood : runner.standing = .queued) (holds : crew.lock.holder = some id)
      (continues :
        { crew.pipeline with counters := crew.pipeline.counters.nextCycle }.Continues
          runner.allowed (crew.pipeline.counters.cycles + 1) turn) :
      Opens crew id runner [] turn
  | receives {cycle index deadline timeout : Nat} {answer : Option M} {turn : Turn M}
      (stood : runner.standing = .awaiting (.receive cycle index deadline timeout))
      (continues :
        (crew.pipeline.noteReceived runner.allowed answer).Continues runner.allowed cycle turn) :
      Opens crew id runner [.receiveEnded id cycle (.returned answer)] turn
  | receiveFails {cycle index deadline timeout : Nat} {outcome : Outcome (Option M)}
      {cause : Failure}
      (stood : runner.standing = .awaiting (.receive cycle index deadline timeout))
      (failed : outcome.contain = .error cause) :
      Opens crew id runner [.receiveEnded id cycle outcome]
        (crew.pipeline.abandon cycle .fill cause)
  | processes {cycle received dispatched : Nat} {reason : FillExit} {message : M} {turn : Turn M}
      (stood : runner.standing = .awaiting (.process cycle received reason dispatched message))
      (continues : crew.pipeline.noteProcessed.Continues runner.allowed cycle turn) :
      Opens crew id runner [.processEnded id cycle message (.returned ())] turn
  | processFails {cycle received dispatched : Nat} {reason : FillExit} {message : M}
      {outcome : Outcome Unit} {cause : Failure}
      (stood : runner.standing = .awaiting (.process cycle received reason dispatched message))
      (failed : outcome.contain = .error cause) :
      Opens crew id runner [.processEnded id cycle message outcome]
        (crew.pipeline.abandon cycle .drain cause)

/-- Everything that resuming a runner can do. -/
inductive Steps (crew : Crew M) (id : Nat) (runner : Runner M) :
    Crew M → List (Event M) → Prop where
  | asks {standing : Standing M} {events : List (Event M)}
      (idle : runner.standing = .fresh ∨ runner.standing = .pausing)
      (waits : standing = .queued ∨ standing = .leaving ∧ runner.allowed = false)
      (told : events = [] ∨ events = [.logged (.workerStarted crew.pipeline.name)]) :
      Steps crew id runner ((crew.request id).stand id standing) events
  | settles (opening : List (Event M)) {turn : Turn M} (opens : crew.Opens id runner opening turn) :
      Steps crew id runner (crew.settle id runner turn).1
        (opening ++ (crew.settle id runner turn).2)
  | leaves (stood : runner.standing = .leaving) (holds : crew.lock.holder = some id) :
      Steps crew id runner (crew.leave id).1 (crew.leave id).2

/-- The stretch of a cycle that a cue sets off: what is seen of the answer that it begins
with, and the turn that the cycle takes. -/
inductive Takes (crew : Crew M) (now id : Nat) (runner : Runner M) :
    Cue M → List (Event M) → Turn M → Prop where
  | begins (stood : runner.standing = .queued) (holds : crew.lock.holder = some id) :
      Takes crew now id runner .resume []
        (crew.pipeline.beginCycle runner.policy runner.allowed now)
  | receives {cycle index deadline timeout : Nat} {outcome : Outcome (Option M)}
      (stood : runner.standing = .awaiting (.receive cycle index deadline timeout)) :
      Takes crew now id runner (.received outcome) [.receiveEnded id cycle outcome]
        (crew.pipeline.received runner.policy runner.allowed now cycle index deadline timeout
          outcome)
  | processes {cycle received dispatched : Nat} {reason : FillExit} {message : M}
      {outcome : Outcome Unit}
      (stood : runner.standing = .awaiting (.process cycle received reason dispatched message)) :
      Takes crew now id runner (.processed outcome) [.processEnded id cycle message outcome]
        (crew.pipeline.processed runner.allowed cycle received reason dispatched outcome)

/-- Everything that resuming a runner with a cue can do. -/
inductive Resumes (crew : Crew M) (now id : Nat) (runner : Runner M) (cue : Cue M) :
    Crew M → List (Event M) → Prop where
  | asks {standing : Standing M} {events : List (Event M)}
      (idle : runner.standing = .fresh ∨ runner.standing = .pausing)
      (waits : standing = .queued ∨ standing = .leaving ∧ runner.allowed = false)
      (told : events = [] ∨ events = [.logged (.workerStarted crew.pipeline.name)]) :
      Resumes crew now id runner cue ((crew.request id).stand id standing) events
  | takes {opening : List (Event M)} {turn : Turn M}
      (taken : crew.Takes now id runner cue opening turn) :
      Resumes crew now id runner cue (crew.settle id runner turn).1
        (opening ++ (crew.settle id runner turn).2)
  | leaves (stood : runner.standing = .leaving) (holds : crew.lock.holder = some id) :
      Resumes crew now id runner cue (crew.leave id).1 (crew.leave id).2

theorem goOn_resumes (idle : runner.standing = .fresh ∨ runner.standing = .pausing)
    {events : List (Event M)}
    (told : events = [] ∨ events = [.logged (.workerStarted crew.pipeline.name)]) :
    crew.Resumes now id runner cue (crew.goOn id runner) events := by
  refine .asks idle ?_ told
  cases permission : runner.allowed <;> simp

theorem step_resumes {events : List (Event M)}
    (stepped : crew.step now id cue = some (next, events)) :
    ∃ runner, crew.runner? id = some runner ∧ crew.Resumes now id runner cue next events := by
  unfold step at stepped
  cases found : crew.runner? id with
  | none => simp [found] at stepped
  | some runner =>
      refine ⟨runner, rfl, ?_⟩
      rw [found] at stepped
      cases stood : runner.standing with
      | fresh =>
          cases cue <;> simp only [stood, reduceCtorEq] at stepped
          split at stepped
          · cases stepped
            exact goOn_resumes (.inl stood) (.inr rfl)
          · cases stepped
            exact .asks (.inl stood) (.inl rfl) (.inl rfl)
      | queued =>
          cases cue <;> simp only [stood, reduceCtorEq] at stepped
          split at stepped
          · rename_i holds
            cases stepped
            exact .takes (.begins stood holds)
          · cases stepped
      | awaiting await =>
          cases await with
          | receive cycle index deadline timeout =>
              cases cue <;> simp only [stood, reduceCtorEq] at stepped
              cases stepped
              exact .takes (.receives stood)
          | process cycle received reason dispatched message =>
              cases cue <;> simp only [stood, reduceCtorEq] at stepped
              cases stepped
              exact .takes (.processes stood)
      | pausing =>
          cases cue <;> simp only [stood, reduceCtorEq] at stepped
          cases stepped
          exact goOn_resumes (.inr stood) (.inl rfl)
      | leaving =>
          cases cue <;> simp only [stood, reduceCtorEq] at stepped
          split at stepped
          · rename_i holds
            cases stepped
            exact .leaves stood holds
          · cases stepped
      | exited => cases cue <;> simp [stood] at stepped
      | crashed => cases cue <;> simp [stood] at stepped

theorem Takes.opens {opening : List (Event M)} {turn : Turn M}
    (taken : crew.Takes now id runner cue opening turn) : crew.Opens id runner opening turn := by
  cases taken with
  | begins stood holds => exact .begins stood holds (Pipeline.beginCycle_continues ..)
  | @receives cycle index deadline timeout outcome stood =>
      rcases crew.pipeline.received_cases runner.policy runner.allowed now cycle index
        deadline timeout outcome with ⟨cause, failed, given⟩ | ⟨answer, rfl, continues⟩
      · rw [given]
        exact .receiveFails stood failed
      · exact .receives stood continues
  | @processes cycle received dispatched reason message outcome stood =>
      rcases crew.pipeline.processed_cases runner.allowed cycle received reason
        dispatched outcome with ⟨cause, failed, given⟩ | ⟨rfl, continues⟩
      · rw [given]
        exact .processFails stood failed
      · exact .processes stood continues

theorem Resumes.steps {events : List (Event M)}
    (resumes : crew.Resumes now id runner cue next events) : crew.Steps id runner next events := by
  cases resumes with
  | asks idle waits told => exact .asks idle waits told
  | takes taken => exact .settles _ taken.opens
  | leaves stood holds => exact .leaves stood holds

theorem step_cases {events : List (Event M)}
    (stepped : crew.step now id cue = some (next, events)) :
    ∃ runner, crew.runner? id = some runner ∧ crew.Steps id runner next events := by
  obtain ⟨runner, found, resumes⟩ := step_resumes stepped
  exact ⟨runner, found, resumes.steps⟩

/-! ### Where a step leaves the runners -/

theorem runner?_stand (crew : Crew M) (id : Nat) (standing : Standing M) (other : Nat) :
    (crew.stand id standing).runner? other =
      if other = id then (crew.runner? id).map fun runner => { runner with standing }
      else crew.runner? other := by
  split
  · subst other
    exact List.getElem?_modify_eq ..
  · rename_i different
    exact List.getElem?_modify_ne _ _ (Ne.symm different)

theorem runner?_withdraw (crew : Crew M) (id other : Nat) :
    (crew.withdraw id).runner? other =
      if other = id then (crew.runner? id).map fun runner => { runner with allowed := false }
      else crew.runner? other := by
  split
  · subst other
    exact List.getElem?_modify_eq ..
  · rename_i different
    exact List.getElem?_modify_ne _ _ (Ne.symm different)

theorem runner?_hire (crew : Crew M) (policy : Policy) (repeats : Bool) (other : Nat) :
    (crew.hire policy repeats).runner? other =
      if other = crew.runners.length then some { policy, repeats } else crew.runner? other := by
  split
  · subst other
    exact List.getElem?_concat_length
  · rename_i different
    by_cases within : other < crew.runners.length
    · exact List.getElem?_append_left within
    · rw [runner?, runner?, List.getElem?_eq_none (Nat.le_of_not_lt within)]
      refine List.getElem?_eq_none ?_
      simp [hire]
      omega

theorem awaitOf?_eq_none_of_stood (found : crew.runner? id = some runner)
    (stood : runner.standing.await? = none) : crew.awaitOf? id = none := by
  simp [awaitOf?, found, stood]

theorem awaitOf?_eq_some_of_stood {await : Await M} (found : crew.runner? id = some runner)
    (stood : runner.standing = .awaiting await) : crew.awaitOf? id = some await := by
  simp [awaitOf?, found, stood, Standing.await?]

theorem awaitOf?_stand_self {standing : Standing M} (found : crew.runner? id = some runner) :
    (crew.stand id standing).awaitOf? id = standing.await? := by
  simp [awaitOf?, runner?_stand, found]

theorem awaitOf?_stand_of_ne {standing : Standing M} {other : Nat} (different : other ≠ id) :
    (crew.stand id standing).awaitOf? other = crew.awaitOf? other := by
  simp [awaitOf?, runner?_stand, different]

theorem awaitOf?_stand_eq_none {standing : Standing M} {other : Nat}
    (alone : ∀ other ≠ id, crew.awaitOf? other = none) (free : standing.await? = none) :
    (crew.stand id standing).awaitOf? other = none := by
  by_cases same : other = id
  · subst other
    cases found : crew.runner? id with
    | none => simp [awaitOf?, runner?_stand, found]
    | some runner => rw [awaitOf?_stand_self found, free]
  · rw [awaitOf?_stand_of_ne same, alone other same]

theorem current?_eq_none_of_alone (alone : ∀ other, crew.awaitOf? other = none) :
    crew.current? = none := by
  cases held : crew.lock.holder <;> simp [current?, held, alone]

theorem current?_eq_some_iff {await : Await M} :
    crew.current? = some (id, await) ↔
      crew.lock.holder = some id ∧ crew.awaitOf? id = some await := by
  cases held : crew.lock.holder with
  | none => simp [current?, held]
  | some holder =>
      simp only [current?, held, Option.bind_some, Option.map_eq_some_iff, Prod.mk.injEq,
        Option.some.injEq]
      constructor
      · rintro ⟨call, called, rfl, rfl⟩
        exact ⟨rfl, called⟩
      · rintro ⟨rfl, called⟩
        exact ⟨await, called, rfl, rfl⟩

theorem current?_congr (lock : next.lock = crew.lock)
    (awaits : ∀ other, next.awaitOf? other = crew.awaitOf? other) :
    next.current? = crew.current? := by
  simp [current?, lock, awaits]

theorem settle_of_awaits {turn : Turn M} {await : Await M}
    (awaits : turn.progress = .awaits await) :
    crew.settle id runner turn =
      ({ crew with pipeline := turn.pipeline }.stand id (.awaiting await),
        turn.notices.map Event.logged ++ [await.event id]) := by
  simp [settle, awaits]

theorem release_aftermath (crew : Crew M) : crew.release.2.all Event.isAftermath = true := by
  cases given : crew.lock.release.holder <;> simp [release, given, Event.isAftermath]

/-- What becomes of a runner whose cycle has ended, and what is told of it.  Only the
reporter can end a runner that repeats cycles. -/
inductive Concludes (crew : Crew M) (id : Nat) (runner : Runner M) :
    Except CycleFailure CycleReport → Standing M → List (Event M) → Prop where
  | exits {result : Except CycleFailure CycleReport} (single : runner.repeats = false) :
      Concludes crew id runner result .exited [.finished id]
  | pauses {report : CycleReport} (repeats : runner.repeats = true) :
      Concludes crew id runner (.ok report) .pausing []
  | reports {failure : CycleFailure} (repeats : runner.repeats = true)
      (spares : crew.reporter.panics failure = false) :
      Concludes crew id runner (.error failure) .pausing
        (.reported failure :: (crew.reporter.notices failure).map Event.logged)
  | crashes {failure : CycleFailure} (repeats : runner.repeats = true)
      (panics : crew.reporter.panics failure = true) :
      Concludes crew id runner (.error failure) .crashed
        (.reported failure :: (crew.reporter.notices failure).map Event.logged ++ [.finished id])

theorem settle_concludes (crew : Crew M) (id : Nat) (runner : Runner M) {turn : Turn M}
    {result : Except CycleFailure CycleReport} (ended : turn.progress = .ended result) :
    ∃ standing told, crew.Concludes id runner result standing told ∧
      crew.settle id runner turn =
        ({ crew with pipeline := turn.pipeline, lock := crew.lock.release }.stand id standing,
          turn.notices.map Event.logged ++ .cycleEnded id result :: (crew.release.2 ++ told)) := by
  cases repeated : runner.repeats with
  | false =>
      refine ⟨.exited, _, .exits repeated, ?_⟩
      simp only [settle, ended, conclude, repeated]
      rfl
  | true =>
      cases result with
      | ok report =>
          refine ⟨.pausing, _, .pauses repeated, ?_⟩
          simp only [settle, ended, conclude, repeated]
          rfl
      | error failure =>
          cases panics : crew.reporter.panics failure with
          | true =>
              refine ⟨.crashed, _, .crashes repeated panics, ?_⟩
              simp only [settle, ended, conclude, repeated, release, report, panics, if_true]
              rfl
          | false =>
              refine ⟨.pausing, _, .reports repeated panics, ?_⟩
              simp only [settle, ended, conclude, repeated, release, report, panics, if_true]
              rfl

theorem Concludes.rests {result : Except CycleFailure CycleReport} {standing : Standing M}
    {told : List (Event M)} (concludes : crew.Concludes id runner result standing told) :
    standing.await? = none := by
  cases concludes <;> rfl

theorem notices_aftermath (reporter : Reporter) (failure : CycleFailure) :
    ((reporter.notices failure).map (Event.logged (M := M))).all Event.isAftermath = true := by
  cases reporter <;> simp [Reporter.notices, Event.isAftermath, Notice.isOfCycle]

theorem Concludes.aftermath {result : Except CycleFailure CycleReport} {standing : Standing M}
    {told : List (Event M)} (concludes : crew.Concludes id runner result standing told) :
    told.all Event.isAftermath = true := by
  cases concludes with
  | exits | pauses => rfl
  | @reports failure =>
      rw [List.all_cons, notices_aftermath]
      rfl
  | @crashes failure =>
      rw [List.all_append, List.all_cons, notices_aftermath]
      rfl

/-- A cycle that has ended gives the lock up, and its runner waits for no call. -/
theorem settle_of_ended (crew : Crew M) (id : Nat) (runner : Runner M) {turn : Turn M}
    {result : Except CycleFailure CycleReport} (ended : turn.progress = .ended result) :
    ∃ standing told,
      crew.settle id runner turn =
        ({ crew with pipeline := turn.pipeline, lock := crew.lock.release }.stand id standing,
          turn.notices.map Event.logged ++ .cycleEnded id result :: told) ∧
      standing.await? = none ∧ told.all Event.isAftermath = true := by
  obtain ⟨standing, told, concludes, settled⟩ := settle_concludes crew id runner ended
  refine ⟨standing, crew.release.2 ++ told, settled, concludes.rests, ?_⟩
  rw [List.all_append, release_aftermath, concludes.aftermath]
  rfl

/-! ### Orderly crews -/

structure Orderly (crew : Crew M) : Prop where
  exclusive : ∀ {id : Nat} {await : Await M},
    crew.awaitOf? id = some await → crew.lock.holder = some id
  drained : crew.current? = none → crew.pipeline.batch.toList = []

theorem Orderly.current? (orderly : crew.Orderly) {await : Await M}
    (waits : crew.awaitOf? id = some await) : crew.current? = some (id, await) :=
  current?_eq_some_iff.mpr ⟨orderly.exclusive waits, waits⟩

theorem Orderly.alone (orderly : crew.Orderly) (holds : crew.lock.holder = some id)
    {other : Nat} (different : other ≠ id) : crew.awaitOf? other = none := by
  cases waits : crew.awaitOf? other with
  | none => rfl
  | some await =>
      have held := orderly.exclusive waits
      rw [holds, Option.some.injEq] at held
      exact absurd held.symm different

theorem current?_eq_none_of_stood (found : crew.runner? id = some runner)
    (holds : crew.lock.holder = some id) (stood : runner.standing.await? = none) :
    crew.current? = none := by
  have rests := awaitOf?_eq_none_of_stood found stood
  simp [Crew.current?, holds, rests]

/-- What does not touch the lock and the calls keeps a crew orderly if it leaves the batch
as it is or empty. -/
theorem Orderly.congr (orderly : crew.Orderly) (lock : next.lock = crew.lock)
    (awaits : ∀ other, next.awaitOf? other = crew.awaitOf? other)
    (batch : next.pipeline.batch = crew.pipeline.batch ∨ next.pipeline.batch.toList = []) :
    next.Orderly where
  exclusive waits := by
    rw [awaits] at waits
    rw [lock, orderly.exclusive waits]
  drained ended := by
    rw [current?_congr lock awaits] at ended
    rcases batch with same | drained
    · rw [same, orderly.drained ended]
    · exact drained

theorem Orderly.of_alone (alone : ∀ other, crew.awaitOf? other = none)
    (drained : crew.pipeline.batch.toList = []) : crew.Orderly where
  exclusive waits := by simp [alone] at waits
  drained _ := drained

theorem Orderly.of_settle_awaits {turn : Turn M} {await : Await M} (orderly : crew.Orderly)
    (found : crew.runner? id = some runner) (holds : crew.lock.holder = some id)
    (awaits : turn.progress = .awaits await) :
    (crew.settle id runner turn).1.Orderly ∧
      (crew.settle id runner turn).1.current? = some (id, await) := by
  rw [settle_of_awaits awaits]
  let after := { crew with pipeline := turn.pipeline }.stand id (.awaiting await)
  have called : after.awaitOf? id = some await := awaitOf?_stand_self found
  have current : after.current? = some (id, await) := current?_eq_some_iff.mpr ⟨holds, called⟩
  refine ⟨⟨?_, fun ended => absurd (current.symm.trans ended) (by simp)⟩, current⟩
  intro other call waits
  by_cases same : other = id
  · subst other
    exact holds
  · rw [awaitOf?_stand_of_ne same] at waits
    have none := orderly.alone holds same
    rw [show crew.awaitOf? other = some call from waits] at none
    cases none

theorem Orderly.of_settle_ended {turn : Turn M} {result : Except CycleFailure CycleReport}
    (orderly : crew.Orderly) (runner : Runner M) (holds : crew.lock.holder = some id)
    (ended : turn.progress = .ended result) (drained : turn.pipeline.batch.toList = []) :
    (crew.settle id runner turn).1.Orderly ∧ (crew.settle id runner turn).1.current? = none := by
  obtain ⟨standing, told, settled, free, -⟩ := settle_of_ended crew id runner ended
  rw [settled]
  have alone : ∀ other, ({ crew with
      pipeline := turn.pipeline, lock := crew.lock.release }.stand id standing).awaitOf? other =
        none :=
    fun other => awaitOf?_stand_eq_none (fun other different => orderly.alone holds different) free
  exact ⟨.of_alone alone drained, current?_eq_none_of_alone alone⟩

theorem Opens.holds {opening : List (Event M)} {turn : Turn M} (orderly : crew.Orderly)
    (found : crew.runner? id = some runner) (opens : crew.Opens id runner opening turn) :
    crew.lock.holder = some id := by
  cases opens with
  | begins _ holds _ => exact holds
  | receives stood _ => exact orderly.exclusive (awaitOf?_eq_some_of_stood found stood)
  | receiveFails stood _ => exact orderly.exclusive (awaitOf?_eq_some_of_stood found stood)
  | processes stood _ => exact orderly.exclusive (awaitOf?_eq_some_of_stood found stood)
  | processFails stood _ => exact orderly.exclusive (awaitOf?_eq_some_of_stood found stood)

/-- A stretch goes on from some pipeline in which its answer was noted, or gives its cycle
up. -/
theorem Opens.turn_cases {opening : List (Event M)} {turn : Turn M}
    (opens : crew.Opens id runner opening turn) :
    (∃ (noted : Pipeline M) (cycle : Nat), noted.Continues runner.allowed cycle turn) ∨
      ∃ cycle phase cause, turn = crew.pipeline.abandon cycle phase cause := by
  cases opens with
  | begins _ _ continues => exact .inl ⟨_, _, continues⟩
  | receives _ continues => exact .inl ⟨_, _, continues⟩
  | processes _ continues => exact .inl ⟨_, _, continues⟩
  | receiveFails | processFails => exact .inr ⟨_, _, _, rfl⟩

theorem Opens.drained {opening : List (Event M)} {turn : Turn M}
    {result : Except CycleFailure CycleReport} (opens : crew.Opens id runner opening turn)
    (ended : turn.progress = .ended result) : turn.pipeline.batch.toList = [] := by
  rcases opens.turn_cases with ⟨noted, cycle, continues⟩ | ⟨cycle, phase, cause, rfl⟩
  · cases continues with
    | calls => cases ended
    | completes => rfl
  · rfl

theorem Opens.told {opening : List (Event M)} {turn : Turn M}
    (opens : crew.Opens id runner opening turn) :
    ∀ notice ∈ turn.notices, notice.isOfCycle = true := by
  rcases opens.turn_cases with ⟨noted, cycle, continues⟩ | ⟨cycle, phase, cause, rfl⟩
  · cases continues with
    | calls _ _ _ told => exact told
    | completes _ _ told => exact told
  · exact crew.pipeline.abandon_notices_isOfCycle cycle phase cause

/-- What is seen of a stretch: the answer that it begins with, the call that it goes on to
or the end of its cycle, and events that follow from these. -/
theorem Opens.event_cases {opening : List (Event M)} {turn : Turn M}
    (opens : crew.Opens id runner opening turn) {event : Event M}
    (member : event ∈ opening ++ (crew.settle id runner turn).2) :
    event ∈ opening ∨
      (∃ await, turn.progress = .awaits await ∧ event = await.event id) ∨
      (∃ result, turn.progress = .ended result ∧ event = .cycleEnded id result) ∨
      event.isAftermath = true := by
  have notice {event : Event M} (noted : event ∈ turn.notices.map Event.logged) :
      event.isAftermath = true := by
    obtain ⟨notice, told, rfl⟩ := List.mem_map.mp noted
    exact opens.told notice told
  rcases List.mem_append.mp member with early | late
  · exact .inl early
  · cases went : turn.progress with
    | awaits await =>
        rw [settle_of_awaits went] at late
        rcases List.mem_append.mp late with noted | called
        · exact .inr (.inr (.inr (notice noted)))
        · exact .inr (.inl ⟨await, rfl, List.mem_singleton.mp called⟩)
    | ended result =>
        obtain ⟨standing, told, settled, _, aftermath⟩ := settle_of_ended crew id runner went
        rw [settled] at late
        rcases List.mem_append.mp late with noted | rest
        · exact .inr (.inr (.inr (notice noted)))
        · rcases List.mem_cons.mp rest with same | after
          · exact .inr (.inr (.inl ⟨result, rfl, same⟩))
          · exact .inr (.inr (.inr (List.all_eq_true.mp aftermath event after)))

theorem rested_of_idle (idle : runner.standing = .fresh ∨ runner.standing = .pausing) :
    runner.standing.await? = none := by
  rcases idle with stood | stood <;> rw [stood] <;> rfl

theorem rests_of_waits {standing : Standing M} {withdrawn : Prop}
    (waits : standing = .queued ∨ standing = .leaving ∧ withdrawn) : standing.await? = none := by
  rcases waits with rfl | ⟨rfl, _⟩ <;> rfl

theorem awaitOf?_request_stand {standing : Standing M} {other : Nat}
    (found : crew.runner? id = some runner) (rested : runner.standing.await? = none)
    (rests : standing.await? = none) :
    ((crew.request id).stand id standing).awaitOf? other = crew.awaitOf? other := by
  by_cases same : other = id
  · subst other
    have there : (crew.request id).runner? id = some runner := found
    rw [awaitOf?_stand_self there, rests,
      awaitOf?_eq_none_of_stood found rested]
  · rw [awaitOf?_stand_of_ne same]
    rfl

theorem request_holder_of_held {holder : Nat} (held : crew.lock.holder = some holder) :
    (crew.request id).lock.holder = some holder := by
  simp [request, FairLock.request, held]

theorem current?_request_stand {standing : Standing M} (orderly : crew.Orderly)
    (found : crew.runner? id = some runner) (rested : runner.standing.await? = none)
    (rests : standing.await? = none) :
    ((crew.request id).stand id standing).current? = crew.current? := by
  cases held : crew.lock.holder with
  | some holder =>
      have kept : ((crew.request id).stand id standing).lock.holder = some holder :=
        request_holder_of_held held
      simp [current?, kept, held, awaitOf?_request_stand found rested rests]
  | none =>
      have alone : ∀ other, crew.awaitOf? other = none := by
        intro other
        cases waits : crew.awaitOf? other with
        | none => rfl
        | some await => exact absurd (orderly.exclusive waits) (by simp [held])
      rw [current?_eq_none_of_alone alone]
      apply current?_eq_none_of_alone
      intro other
      rw [awaitOf?_request_stand found rested rests, alone]

theorem Orderly.of_asks {standing : Standing M} (orderly : crew.Orderly)
    (found : crew.runner? id = some runner) (rested : runner.standing.await? = none)
    (rests : standing.await? = none) : ((crew.request id).stand id standing).Orderly where
  exclusive waits := by
    rw [awaitOf?_request_stand found rested rests] at waits
    exact request_holder_of_held (orderly.exclusive waits)
  drained ended := by
    rw [current?_request_stand orderly found rested rests] at ended
    exact orderly.drained ended

theorem Orderly.of_leaves (orderly : crew.Orderly) (holds : crew.lock.holder = some id) :
    (crew.leave id).1.Orderly ∧ (crew.leave id).1.current? = none := by
  have alone : ∀ other, (crew.leave id).1.awaitOf? other = none :=
    fun other => awaitOf?_stand_eq_none (fun other different => orderly.alone holds different) rfl
  exact ⟨.of_alone alone rfl, current?_eq_none_of_alone alone⟩

theorem Orderly.of_settles {opening : List (Event M)} {turn : Turn M} (orderly : crew.Orderly)
    (found : crew.runner? id = some runner) (opens : crew.Opens id runner opening turn) :
    (crew.settle id runner turn).1.Orderly := by
  have holds := opens.holds orderly found
  cases went : turn.progress with
  | awaits await => exact (orderly.of_settle_awaits found holds went).1
  | ended result => exact (orderly.of_settle_ended runner holds went (opens.drained went)).1

/-- Whatever a runner does, the crew stays orderly. -/
theorem Orderly.step {events : List (Event M)}
    (orderly : crew.Orderly) (stepped : crew.step now id cue = some (next, events)) :
    next.Orderly := by
  obtain ⟨runner, found, steps⟩ := step_cases stepped
  cases steps with
  | asks idle waits _ => exact orderly.of_asks found (rested_of_idle idle) (rests_of_waits waits)
  | settles _ opens => exact orderly.of_settles found opens
  | leaves _ holds => exact (orderly.of_leaves holds).1

/-! ### What happens to a crew from outside -/

theorem orderly_make (pipeline : Pipeline M) (reporter : Reporter)
    (drained : pipeline.batch.toList = []) : ({ pipeline, reporter } : Crew M).Orderly :=
  .of_alone (fun _ => rfl) drained

theorem awaitOf?_hire (crew : Crew M) (policy : Policy) (repeats : Bool) (other : Nat) :
    (crew.hire policy repeats).awaitOf? other = crew.awaitOf? other := by
  rw [awaitOf?, runner?_hire]
  split
  · rename_i last
    rw [awaitOf?, runner?, List.getElem?_eq_none (Nat.le_of_eq last.symm)]
    rfl
  · rfl

theorem awaitOf?_withdraw (crew : Crew M) (id other : Nat) :
    (crew.withdraw id).awaitOf? other = crew.awaitOf? other := by
  rw [awaitOf?, runner?_withdraw]
  split
  · rename_i same
    subst same
    rw [awaitOf?, Option.bind_map]
    rfl
  · rfl

theorem Orderly.hire (orderly : crew.Orderly) (policy : Policy) (repeats : Bool) :
    (crew.hire policy repeats).Orderly :=
  orderly.congr rfl (awaitOf?_hire crew policy repeats) (.inl rfl)

theorem Orderly.withdraw (orderly : crew.Orderly) (id : Nat) : (crew.withdraw id).Orderly :=
  orderly.congr rfl (awaitOf?_withdraw crew id) (.inl rfl)

end Crew

end Batching

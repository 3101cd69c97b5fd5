import Batching.Proofs.Reports

namespace Batching

/-! What a failure does to everything else.

A cycle that fails is reported once, and its worker goes on.  Only a reporter that panics
ends a worker, and then the lock, the counters and the state are as after any other cycle, so
the next start takes the numbers up where they were left.
-/

variable {M : Type}

namespace Crew

variable {crew next : Crew M} {now id number : Nat} {runner : Runner M} {cue : Cue M}
  {past events : List (Event M)}

theorem Counted.underway_eq (counted : crew.Counted past)
    (underway : crew.underway? = some number) : number = crew.pipeline.counters.cycles := by
  have numbered := counted.numbered
  rw [underway] at numbered
  cases cycles : crew.pipeline.counters.cycles with
  | zero => simp [cycles] at numbered
  | succ earlier =>
      rw [cycles, List.range'_1_concat] at numbered
      have last := (List.append_inj' numbered rfl).2
      simp at last
      omega

/-! ### A reporter that panics -/

theorem Concludes.crashed {failure : CycleFailure} {standing : Standing M}
    {told : List (Event M)} (concludes : crew.Concludes id runner (.error failure) standing told)
    (repeats : runner.repeats = true) (panics : crew.reporter.panics failure = true) :
    standing = .crashed := by
  cases concludes with
  | exits single => cases repeats.symm.trans single
  | reports _ spares => cases panics.symm.trans spares
  | crashes => rfl

/-- The runner whose failure the reporter panics on is lost; the others stay as they are. -/
theorem Lasting.crash {reporter : Reporter} (lasting : crew.Lasting reporter)
    (orderly : crew.Orderly) (stepped : crew.step now id cue = some (next, events))
    {failure : CycleFailure} (told : failure ∈ handled events)
    (panics : reporter.panics failure = true) :
    next.standing? id = some .crashed ∧
      ∀ other ≠ id, next.runner? other = crew.runner? other := by
  obtain ⟨runner, found, steps⟩ := step_cases stepped
  cases steps with
  | asks _ _ silent => rcases silent with rfl | rfl <;> cases told
  | leaves =>
      rw [leave_events, handled_append, (release_told crew.cleared).1] at told
      cases told
  | @settles opening turn opens =>
      have repeats := (lasting.lasts found).repeats
      obtain ⟨number, _, concerns, _⟩ := opens.concerns orderly found
      rw [handled_append, opens.opening_told.1, (crew.settle_told id repeats concerns).1,
        List.nil_append, Option.mem_toList] at told
      have ended := Turn.failure?_eq_some_iff.mp told
      obtain ⟨standing, _, concludes, settled⟩ := settle_concludes crew id runner ended
      rw [settled, concludes.crashed repeats (lasting.told ▸ panics)]
      refine ⟨standing?_stand_self (by exact found) .crashed, fun other different => ?_⟩
      rw [runner?_stand, if_neg different]
      rfl

/-! ### The line moves -/

/-- Whoever is at the front of the line can go on. -/
theorem Lined.goes_on (lined : crew.Lined) (holds : crew.lock.holder = some id) (now : Nat) :
    ∃ cue, (crew.step now id cue).isSome = true := by
  cases found : crew.runner? id with
  | none =>
      have lines := (lined.member id).mp (order_of_holder holds ▸ List.mem_cons_self)
      simp [Crew.lines, standing?, found] at lines
  | some runner =>
      have lines := lined.inLine_of_holds found holds
      cases stood : runner.standing with
      | queued | leaving =>
          refine ⟨.resume, ?_⟩
          simp [Crew.step, found, stood, holds]
      | awaiting await =>
          cases await with
          | receive =>
              refine ⟨.received (.returned none), ?_⟩
              simp [Crew.step, found, stood]
          | process =>
              refine ⟨.processed (.returned ()), ?_⟩
              simp [Crew.step, found, stood]
      | fresh | pausing | exited | crashed => simp [stood, Standing.inLine] at lines

theorem order_released (lined : crew.Lined) (holds : crew.lock.holder = some id) :
    crew.lock.order = id :: crew.lock.release.order := by
  rw [FairLock.order_release lined.wellFormed, order_of_holder holds]
  rfl

/-- Without permission whoever is at the front is there for one step only. -/
theorem Lined.passes_on (lined : crew.Lined) (holds : crew.lock.holder = some id)
    (withdrawn : crew.allows id = false)
    (stepped : crew.step now id cue = some (next, events)) :
    crew.lock.order = id :: next.lock.order := by
  obtain ⟨runner, found, steps⟩ := step_cases stepped
  cases steps with
  | asks idle => cases (lined.inLine_of_holds found holds).symm.trans (out_of_idle idle)
  | leaves => exact order_released lined holds
  | settles _ opens =>
      rw [allows_of_found found] at withdrawn
      obtain ⟨result, ended⟩ := opens.ended_of_withdrawn withdrawn
      obtain ⟨standing, told, _, settled⟩ := settle_concludes crew id runner ended
      rw [settled]
      exact order_released lined holds

/-- The turn stays with the one who has it, or the cycle of the one who had it is over. -/
def TurnGoesOn (crew next : Crew M) : Prop :=
  next.turn? = crew.turn? ∨ next.current? = none ∧ ∀ other number,
    crew.turn? = some (other, number) → number ≤ next.pipeline.counters.cycles

theorem Lined.turn_asks {standing : Standing M} (lined : crew.Lined) (orderly : crew.Orderly)
    (found : crew.runner? id = some runner)
    (idle : runner.standing = .fresh ∨ runner.standing = .pausing)
    (rests : standing.await? = none) :
    crew.TurnGoesOn ((crew.request id).stand id standing) := by
  cases held : crew.lock.holder with
  | none =>
      have kept := current?_request_stand orderly found (rested_of_idle idle) rests
      refine .inr ⟨kept.trans (by simp [current?, held]), fun other number turn => ?_⟩
      simp [turn?, held] at turn
  | some holder =>
      have different : holder ≠ id := by
        rintro rfl
        cases (lined.inLine_of_holds found held).symm.trans (out_of_idle idle)
      have still : ((crew.request id).stand id standing).lock.holder = some holder :=
        request_holder_of_held held
      have stands : ((crew.request id).stand id standing).standing? holder =
          crew.standing? holder := standing?_stand_of_ne different
      left
      simp only [turn?, still, held, Option.bind_some, stands]
      rfl

theorem Orderly.turn_leaves (orderly : crew.Orderly) (found : crew.runner? id = some runner)
    (stood : runner.standing = .leaving) (holds : crew.lock.holder = some id) :
    crew.TurnGoesOn (crew.leave id).1 := by
  refine .inr ⟨(orderly.of_leaves holds).2, fun other number turn => ?_⟩
  obtain ⟨front, standing, there, numbered⟩ := turn?_eq_some_iff.mp turn
  cases front.symm.trans holds
  rw [standing?_of_found found, stood] at there
  cases there
  cases numbered

theorem Counted.turn_settles {opening : List (Event M)} {turn : Turn M}
    (counted : crew.Counted past) (orderly : crew.Orderly)
    (found : crew.runner? id = some runner) (opens : crew.Opens id runner opening turn) :
    crew.pipeline.counters.cycles ≤ (crew.settle id runner turn).1.pipeline.counters.cycles ∧
      crew.TurnGoesOn (crew.settle id runner turn).1 := by
  obtain ⟨number, here, concerns, _, which⟩ := opens.concerns orderly found
  have holds := opens.holds orderly found
  rw [TurnGoesOn, pipeline_settle]
  constructor
  · rcases which with ⟨_, _, cycles⟩ | ⟨_, cycles⟩ <;> omega
  cases went : turn.progress with
  | awaits await =>
      left
      rw [turn?_of_current (orderly.of_settle_awaits found holds went).2, here]
      cases concerns with
      | awaits same => cases went; rw [same]
      | completes | fails => cases went
  | ended result =>
      right
      refine ⟨(orderly.of_settle_ended runner holds went (opens.drained went)).2, ?_⟩
      intro other taken turn
      cases here.symm.trans turn
      rcases which with ⟨_, next, cycles⟩ | ⟨same, cycles⟩
      · omega
      · have last := counted.underway_eq same
        omega

theorem Lined.turn_step (lined : crew.Lined) (orderly : crew.Orderly)
    (counted : crew.Counted past) (stepped : crew.step now id cue = some (next, events)) :
    crew.pipeline.counters.cycles ≤ next.pipeline.counters.cycles ∧ crew.TurnGoesOn next := by
  obtain ⟨runner, found, steps⟩ := step_cases stepped
  cases steps with
  | asks idle waits =>
      exact ⟨Nat.le_refl _, lined.turn_asks orderly found idle (rests_of_waits waits)⟩
  | leaves stood holds => exact ⟨Nat.le_refl _, orderly.turn_leaves found stood holds⟩
  | settles _ opens => exact counted.turn_settles orderly found opens

end Crew

namespace Accumulator

variable {accumulator before after start last reached : Accumulator M}
  {now id worker number : Nat} {move : Move M} {events past : List (Event M)}
  {moves : List (Nat × Move M)} {reporter : Reporter}

/-- The turn that `id` had with that number has not passed, or every later number is larger. -/
def Passed (accumulator : Accumulator M) (id number : Nat) : Prop :=
  accumulator.crew.turn? = some (id, number) ∨
    number ≤ accumulator.crew.pipeline.counters.cycles ∧
      ∀ other following, accumulator.crew.turn? = some (other, following) → number < following

theorem Passed.step (passed : before.Passed id number) (sound : before.Sound reporter)
    (counted : before.crew.Counted past) (stepped : before.step now move = some (after, events)) :
    after.Passed id number := by
  have kept (keeps : before.crew.Keeps after.crew) : after.Passed id number := by
    rw [Passed, keeps.turn?, keeps.cycles]
    exact passed
  cases sound.settled.orderly.step_evolves stepped with
  | carries carried => exact kept carried.keeps
  | drops => exact kept before.release_keeps
  | @works worker cue crew _ resumed =>
      obtain ⟨more, same | ⟨rests, earlier⟩⟩ :=
        sound.lined.turn_step sound.settled.orderly.crew counted resumed
      · rcases passed with turn | ⟨within, ahead⟩
        · exact .inl (same.trans turn)
        · refine .inr ⟨Nat.le_trans within more, fun other following turn => ?_⟩
          exact ahead other following (same.symm.trans turn)
      · have within : number ≤ crew.pipeline.counters.cycles := by
          rcases passed with turn | ⟨within, _⟩
          · exact earlier id number turn
          · exact Nat.le_trans within more
        refine .inr ⟨within, fun other following turn => ?_⟩
        have numbered := Crew.turn?_of_rest rests turn
        omega

theorem Passed.run? (passed : start.Passed id number) (sound : start.Sound reporter)
    (counted : start.crew.Counted past) (ran : start.run? moves = some (last, events)) :
    last.Passed id number := by
  refine (follow?_carries past
    (fun past accumulator => accumulator.Passed id number ∧ accumulator.Sound reporter ∧
      accumulator.crew.Counted past)
    (fun _ ⟨passed, sound, counted⟩ stepped => ?_) ⟨passed, sound, counted⟩ ran).1
  exact ⟨passed.step sound counted stepped, sound.step stepped, sound.counted_step counted stepped⟩

theorem Sound.numbers (sound : before.Sound reporter)
    (stepped : before.step now move = some (after, events)) :
    after.stats.counters.cycles = before.stats.counters.cycles ∨
      ∃ id cue, move = .worker id cue ∧
        after.stats.counters.cycles = before.stats.counters.cycles + 1 ∧
        before.crew.turn? = some (id, after.stats.counters.cycles) := by
  cases sound.settled.orderly.step_evolves stepped with
  | carries carried => exact .inl carried.keeps.cycles
  | drops => exact .inl before.release_keeps.cycles
  | @works id cue crew _ resumed =>
      obtain ⟨runner, found, steps⟩ := Crew.step_cases resumed
      cases steps with
      | asks | leaves => exact .inl rfl
      | @settles _ turn opens =>
          obtain ⟨number, here, _, _, which⟩ := opens.concerns sound.settled.orderly.crew found
          simp only [stats, Crew.pipeline_settle]
          rcases which with ⟨_, next, cycles⟩ | ⟨_, cycles⟩
          · exact .inr ⟨id, cue, rfl, cycles, by rw [here, next, cycles]⟩
          · exact .inl cycles

/-- Unless its reporter panics, the active worker of a running accumulator is there. -/
theorem Sound.alive (sound : accumulator.Sound reporter)
    (spares : ∀ failure, reporter.panics failure = false) (running : accumulator.state = .running)
    (kept : accumulator.dropped = false) :
    ∃ worker, accumulator.active = some worker ∧ accumulator.crew.gone worker = false := by
  obtain ⟨worker, active⟩ :=
    Option.ne_none_iff_exists'.mp (sound.settled.orderly.manned running kept)
  refine ⟨worker, active, ?_⟩
  have allowed := sound.attended.worker active
  cases found : accumulator.crew.runner? worker with
  | none => simp [Crew.allows, found] at allowed
  | some runner =>
      rw [Crew.allows_of_found found] at allowed
      obtain ⟨_, left, crashed⟩ := sound.lasting.lasts found
      rw [Crew.gone, found, Option.all_some, Runner.gone]
      split
      · rename_i stood
        cases allowed.symm.trans (left (.inr stood))
      · rename_i stood
        obtain ⟨failure, panics⟩ := crashed stood
        cases panics.symm.trans (spares failure)
      · rfl

theorem Sound.crash (sound : before.Sound reporter)
    (stepped : before.step now move = some (after, events)) {failure : CycleFailure}
    (told : failure ∈ handled events) (panics : reporter.panics failure = true) :
    ∃ id cue, move = .worker id cue ∧ after = { before with crew := after.crew } ∧
      after.crew.gone id = true ∧ id ∉ after.crew.lock.order ∧
      ∀ other ≠ id, after.crew.runner? other = before.crew.runner? other := by
  have lined := (sound.step stepped).lined
  cases sound.settled.orderly.step_evolves stepped with
  | carries carried => simp [carried.told.1] at told
  | drops => cases told
  | @works id cue crew _ resumed =>
      obtain ⟨lost, others⟩ :=
        sound.lasting.crash sound.settled.orderly.crew resumed told panics
      refine ⟨id, cue, rfl, rfl, ?_, fun member => ?_, others⟩
      · obtain ⟨runner, found, stood⟩ := Option.map_eq_some_iff.mp lost
        simp [Crew.gone, found, Runner.gone, stood]
      · have lines := (lined.member id).mp member
        rw [Crew.lines, lost] at lines
        cases lines

/-! ### The next start -/

theorem modify_last {α : Type} (entries : List α) (entry : α) (f : α → α) :
    (entries ++ [entry]).modify entries.length f = entries ++ [f entry] := by
  simp [List.modify_eq_take_drop]

theorem start_succeeds (stopped : accumulator.state = .stopped)
    (kept : accumulator.dropped = false) (first second third fourth : Nat) :
    ∃ seen, accumulator.run?
        [(first, .begin .start), (second, .answer accumulator.callers.length (.ok ())),
          (third, .answer accumulator.callers.length (.ok ())),
          (fourth, .answer accumulator.callers.length (.ok ()))] =
      some ({ accumulator with
          crew := (accumulator.crew.markStarted fourth).hire accumulator.policy true
          state := .running
          active := some accumulator.hired
          latest := some accumulator.hired
          callers := accumulator.callers ++ [⟨.start, .returned (.ok ())⟩] }, seen) := by
  simp [run?, follow?, step, kept, beginCall, beginStart, stopped, ask, moveTo, answerCall,
    Caller.request?, launch, giveBack, modify_last, Crew.markStarted, hired]

def OnlyWorkers (moves : List (Nat × Move M)) : Prop :=
  ∀ entry ∈ moves, ∃ now id cue, entry = (now, .worker id cue)

/-- Worker `worker` has the lock and is about to begin its cycle. -/
structure Ready (accumulator : Accumulator M) (worker : Nat) : Prop where
  running : accumulator.state = .running
  active : accumulator.active = some worker
  holds : accumulator.crew.lock.holder = some worker
  stood : accumulator.crew.standing? worker = some .queued

theorem Sound.turn_comes (sound : start.Sound reporter) (active : start.active = some worker)
    (stood : start.crew.standing? worker = some .queued) {ahead behind : List Nat}
    (order : start.crew.lock.order = ahead ++ worker :: behind) (now : Nat) :
    ∃ moves last seen, start.run? moves = some (last, seen) ∧ OnlyWorkers moves ∧
      last.Ready worker := by
  -- Whoever stands before the active worker has no permission left, so one step of each takes
  -- the line on.
  induction ahead generalizing start with
  | nil =>
      refine ⟨[], start, [], rfl, nofun, ?_⟩
      exact ⟨sound.settled.orderly.spanning active, active,
        Crew.holder_of_order sound.lined order, stood⟩
  | cons first rest ih =>
      have holds := Crew.holder_of_order sound.lined order
      have different : worker ≠ first := by
        have distinct := sound.lined.distinct
        rw [order] at distinct
        rintro rfl
        simp at distinct
      have withdrawn : start.crew.allows first = false := by
        cases permission : start.crew.allows first with
        | false => rfl
        | true =>
            have same := active.symm.trans (sound.settled.orderly.permitted permission)
            exact absurd (Option.some.inj same) different
      obtain ⟨cue, possible⟩ := sound.lined.goes_on holds now
      obtain ⟨⟨crew, events⟩, resumed⟩ := Option.isSome_iff_exists.mp possible
      have stepped := start.step_worker resumed
      have passed := sound.lined.passes_on holds withdrawn resumed
      have waits : crew.standing? worker = some .queued := by
        obtain ⟨runner, found, steps⟩ := Crew.step_cases resumed
        obtain ⟨standing, pipeline, lock, rfl⟩ := steps.stands
        rw [Crew.standing?_stand_of_ne different]
        exact stood
      have remaining : crew.lock.order = rest ++ worker :: behind := by
        rw [order, List.cons_append] at passed
        exact (List.cons.inj passed).2.symm
      obtain ⟨moves, last, seen, ran, workers, ready⟩ :=
        ih (sound.step stepped) active waits remaining
      refine ⟨(now, .worker first cue) :: moves, last, events ++ seen, ?_, ?_, ready⟩
      · exact follow?_cons_iff.mpr ⟨_, _, _, stepped, ran, rfl⟩
      · exact List.forall_mem_cons.mpr ⟨⟨now, first, cue, rfl⟩, workers⟩

theorem Sound.comes_round (sound : start.Sound reporter) {runner : Runner M}
    (active : start.active = some worker) (found : start.crew.runner? worker = some runner)
    (idle : runner.standing = .fresh ∨ runner.standing = .pausing) (now : Nat) :
    ∃ moves last seen, start.run? moves = some (last, seen) ∧ OnlyWorkers moves ∧
      last.Ready worker := by
  have allowed : runner.allowed = true :=
    (Crew.allows_of_found found).symm.trans (sound.attended.worker active)
  have repeats := (sound.lasting.lasts found).repeats
  have asks : start.crew.goOn worker runner = (start.crew.request worker).stand worker .queued := by
    simp [Crew.goOn, allowed]
  obtain ⟨told, resumed⟩ : ∃ told, start.crew.step now worker .resume =
      some ((start.crew.request worker).stand worker .queued, told) := by
    rcases idle with stood | stood <;> simp [Crew.step, found, stood, repeats, asks]
  have stepped := start.step_worker resumed
  have waits : (Standing.queued : Standing M).inLine = true := rfl
  obtain ⟨_, order⟩ := sound.lined.joins found (Crew.out_of_idle idle) waits
  have asking : (start.crew.request worker).runner? worker = some runner := found
  have stood := Crew.standing?_stand_self asking .queued
  obtain ⟨moves, last, seen, ran, workers, ready⟩ :=
    (sound.step stepped).turn_comes active stood order now
  refine ⟨(now, .worker worker .resume) :: moves, last, told ++ seen, ?_, ?_, ready⟩
  · exact follow?_cons_iff.mpr ⟨_, _, _, stepped, ran, rfl⟩
  · exact List.forall_mem_cons.mpr ⟨⟨now, worker, .resume, rfl⟩, workers⟩

theorem Ready.begins (ready : accumulator.Ready worker) (now : Nat) :
    ∃ next seen, accumulator.step now (.worker worker .resume) = some (next, seen) ∧
      next.stats.counters.cycles = accumulator.stats.counters.cycles + 1 := by
  obtain ⟨runner, found, stood⟩ := Option.map_eq_some_iff.mp ready.stood
  have resumed : accumulator.crew.step now worker .resume =
      some (accumulator.crew.settle worker runner
        (accumulator.crew.pipeline.beginCycle runner.policy runner.allowed now)) := by
    simp [Crew.step, found, stood, ready.holds]
  have numbered := (Pipeline.beginCycle_continues accumulator.crew.pipeline runner.policy
    runner.allowed now).cycles
  rw [← Crew.pipeline_settle accumulator.crew worker runner] at numbered
  exact ⟨_, _, accumulator.step_worker resumed, numbered⟩

theorem Sound.restarts (sound : accumulator.Sound reporter)
    (stopped : accumulator.state = .stopped) (kept : accumulator.dropped = false)
    (first second third fourth : Nat) :
    ∃ moves ready seen, accumulator.run?
        ([(first, .begin .start), (second, .answer accumulator.callers.length (.ok ())),
          (third, .answer accumulator.callers.length (.ok ())),
          (fourth, .answer accumulator.callers.length (.ok ()))] ++ moves) = some (ready, seen) ∧
      OnlyWorkers moves ∧ ready.Ready accumulator.hired := by
  obtain ⟨seen, started⟩ := start_succeeds stopped kept first second third fourth
  have found : ((accumulator.crew.markStarted fourth).hire accumulator.policy true).runner?
      accumulator.hired = some { policy := accumulator.policy, repeats := true } := by
    rw [Crew.runner?_hire]
    exact if_pos rfl
  obtain ⟨moves, ready, more, ran, workers, reached⟩ :=
    (sound.run? started).comes_round rfl found (.inl rfl) fourth
  exact ⟨moves, ready, seen ++ more, follow?_append started ran, workers, reached⟩

/-! ### Failures are isolated -/

/-- The ends of the cycles so far, as the events and the counters tell them. -/
structure Told (accumulator : Accumulator M) (events : List (Event M)) : Prop where
  numbered : closings events ++ accumulator.crew.underway?.toList =
    List.range' 1 accumulator.stats.counters.cycles
  ascending : ((handled events).map CycleFailure.cycle).Pairwise (· < ·)
  failed : accumulator.stats.counters.failedCycles = (handled events).length

theorem told_of_counted (counted : accumulator.crew.Counted events) : accumulator.Told events where
  numbered := counted.numbered
  ascending := by
    have sorted : (closings events ++ accumulator.crew.underway?.toList).Pairwise (· < ·) := by
      rw [counted.numbered]
      exact List.pairwise_lt_range'
    exact (List.pairwise_append.mp sorted).1.sublist (handled_cycles_sublist events)
  failed := counted.failed

/-- Whatever the source and the sink do, and whenever the owner calls: each cycle has the next
number, in the order in which the cycles come to the lock, and ends in one of two ways, told
to be complete or reported as a failure.  The active worker goes on after each failure that
the reporter takes.  A reporter that panics ends the worker that told it and nothing else:
after the next start the new worker gets the lock, and its cycle has the next number. -/
theorem failures_isolated (name : String) (policy : Policy) (reporter : Reporter)
    (ran : (make name policy reporter).run? moves = some (reached, events)) :
    reached.Told events ∧
    (∀ now move next seen, reached.step now move = some (next, seen) →
      next.stats.counters.cycles = reached.stats.counters.cycles ∨
        ∃ id cue, move = .worker id cue ∧
          next.stats.counters.cycles = reached.stats.counters.cycles + 1 ∧
          reached.crew.turn? = some (id, next.stats.counters.cycles)) ∧
    (∀ more last seen id number other following, reached.run? more = some (last, seen) →
      reached.crew.turn? = some (id, number) → last.crew.turn? = some (other, following) →
        (other = id ∧ following = number) ∨ number < following) ∧
    ((∀ failure, reporter.panics failure = false) →
      reached.state = .running → reached.dropped = false →
        ∃ worker, reached.active = some worker ∧ reached.crew.gone worker = false) ∧
    (∀ now move next seen failure, reached.step now move = some (next, seen) →
      failure ∈ handled seen → reporter.panics failure = true →
        ∃ id cue, move = .worker id cue ∧ next = { reached with crew := next.crew } ∧
          next.crew.gone id = true ∧ id ∉ next.crew.lock.order ∧
          ∀ other ≠ id, next.crew.runner? other = reached.crew.runner? other) ∧
    (reached.state = .stopped → reached.dropped = false → ∀ first second third fourth,
      ∃ more ready seen, reached.run?
          ([(first, .begin .start), (second, .answer reached.callers.length (.ok ())),
            (third, .answer reached.callers.length (.ok ())),
            (fourth, .answer reached.callers.length (.ok ()))] ++ more) = some (ready, seen) ∧
        OnlyWorkers more ∧ ready.Ready reached.hired ∧
        ∀ now, ∃ next shown,
          ready.step now (.worker reached.hired .resume) = some (next, shown) ∧
            next.stats.counters.cycles = ready.stats.counters.cycles + 1) := by
  have start := sound_make (M := M) name policy reporter
  have sound := start.run? ran
  have nothing : (make name policy reporter : Accumulator M).crew.Counted [] := ⟨rfl, rfl⟩
  have counted : reached.crew.Counted events := start.counted_run nothing ran
  refine ⟨told_of_counted counted, ?_, ?_, ?_, ?_, ?_⟩
  · intro now move next seen stepped
    exact sound.numbers stepped
  · intro more last seen id number other following continued here there
    have passed : reached.Passed id number := .inl here
    rcases passed.run? sound counted continued with turn | ⟨_, later⟩
    · cases turn.symm.trans there
      exact .inl ⟨rfl, rfl⟩
    · exact .inr (later other following there)
  · intro spares running kept
    exact sound.alive spares running kept
  · intro now move next seen failure stepped told panics
    exact sound.crash stepped told panics
  · intro stopped kept first second third fourth
    obtain ⟨more, ready, seen, restarted, workers, comes⟩ :=
      sound.restarts stopped kept first second third fourth
    exact ⟨more, ready, seen, restarted, workers, comes, comes.begins⟩

/-- The source fails in cycle 1 and the sink panics in cycle 2, of which the reporter will not
hear; then a stop. -/
def crashedSpan : List (Nat × Move Nat) :=
  [(0, .begin .start), (0, .answer 0 (.ok ())), (0, .answer 0 (.ok ())), (0, .answer 0 (.ok ())),
    (0, .worker 0 .resume), (0, .worker 0 .resume),
    (5, .worker 0 (.received (.failed (.receive "lost")))),
    (5, .worker 0 .resume), (5, .worker 0 .resume),
    (6, .worker 0 (.received (.returned (some 7)))), (55, .worker 0 (.received (.returned none))),
    (56, .worker 0 (.processed (.panicked .other))),
    (60, .begin .stop), (61, .answer 1 (.ok ())), (62, .answer 1 (.ok ()))]

theorem failures_isolated_of_crash :
    ∃ reached events,
      (make "pair" ⟨2, none, 50⟩ (.observer fun failure => failure.cycle == 2)).run? crashedSpan =
        some (reached, events) ∧
      reached.crew.gone 0 = true ∧ (handled events).map CycleFailure.cycle = [1, 2] ∧
      reached.stats.counters.failedCycles = 2 ∧
      ∃ more ready seen next shown,
        reached.run?
            ([(70, .begin .start), (70, .answer 2 (.ok ())), (71, .answer 2 (.ok ())),
              (72, .answer 2 (.ok ()))] ++ more) = some (ready, seen) ∧
          ready.step 80 (.worker 1 .resume) = some (next, shown) ∧
          next.stats.counters.cycles = ready.stats.counters.cycles + 1 := by
  obtain ⟨reached, events, ran, gone, numbers, stopped, kept, callers, hired⟩ :
      ∃ reached events,
        (make "pair" ⟨2, none, 50⟩ (.observer fun failure => failure.cycle == 2)).run? crashedSpan =
          some (reached, events) ∧
        reached.crew.gone 0 = true ∧ (handled events).map CycleFailure.cycle = [1, 2] ∧
        reached.state = .stopped ∧ reached.dropped = false ∧ reached.callers.length = 2 ∧
        reached.hired = 1 :=
    ⟨_, _, rfl, rfl, rfl, rfl, rfl, rfl, rfl⟩
  obtain ⟨⟨_, _, failed⟩, _, _, _, _, restarts⟩ := failures_isolated _ _ _ ran
  obtain ⟨more, ready, seen, restarted, _, _, begins⟩ := restarts stopped kept 70 70 71 72
  rw [callers] at restarted
  rw [hired] at begins
  obtain ⟨next, shown, stepped, counted⟩ := begins 80
  refine ⟨reached, events, ran, gone, numbers, ?_, more, ready, seen, next, shown, restarted,
    stepped, counted⟩
  rw [failed, ← List.length_map, numbers]
  rfl

end Accumulator

end Batching

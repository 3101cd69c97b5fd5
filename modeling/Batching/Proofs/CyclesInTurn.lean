import Mathlib.Data.List.TakeDrop
import Batching.Proofs.Crowd

namespace Batching.Simulation

/-! Cycles issued together and cycles issued in turn.

A cycle that is begun among others comes to its end, and leaves what it would have left alone,
with the lock in the hands of the next in line.  Those who have not run when it ends are either
all of the others, because no time has passed, or none of them, because the clock moves on only
when all of them have asked for the lock.  So from one end to the next nothing tells a cycle
that was issued together with others from one that was issued after them.
-/

variable {M : Type}

/-! ### Runs of a machine -/

section

variable {σ τ : Type} {machine : Machine σ τ} {done : σ → Bool} {limit : Option Nat}
  {state last : σ} {task : τ} {agenda : Agenda τ}

/-- A run that comes to its end, task by task and jump by jump. -/
inductive Machine.Runs (machine : Machine σ τ) (done : σ → Bool) (limit : Option Nat) :
    σ → σ → Prop where
  | stops {state : σ} (finished : done state = true) : Runs machine done limit state state
  | works {state last : σ} {task : τ} {agenda : Agenda τ} (going : done state = false)
      (taken : (machine.agenda state).take? = some (task, agenda))
      (rest : Runs machine done limit (machine.perform (machine.setAgenda state agenda) task)
        last) :
      Runs machine done limit state last
  | jumps {state last : σ} {agenda : Agenda τ} (going : done state = false)
      (idle : (machine.agenda state).take? = none)
      (jumped : (machine.agenda state).jump? (machine.isOwned state) limit = some agenda)
      (rest : Runs machine done limit (machine.setAgenda state agenda) last) :
      Runs machine done limit state last

theorem Machine.Runs.enough (runs : machine.Runs done limit state last) :
    done last = true ∧
      ∃ fuel, ∀ more, machine.run done limit (fuel + more) state = last := by
  induction runs with
  | stops finished =>
      refine ⟨finished, 0, fun more => ?_⟩
      cases more with
      | zero => rfl
      | succ more => rw [Nat.zero_add, Machine.run, if_pos finished]
  | works going taken _ ih =>
      obtain ⟨finished, fuel, enough⟩ := ih
      refine ⟨finished, fuel + 1, fun more => ?_⟩
      rw [Nat.add_right_comm, Machine.run, if_neg (ne_true_of_eq_false going)]
      simp only [taken]
      exact enough more
  | jumps going idle jumped _ ih =>
      obtain ⟨finished, fuel, enough⟩ := ih
      refine ⟨finished, fuel + 1, fun more => ?_⟩
      rw [Nat.add_right_comm, Machine.run, if_neg (ne_true_of_eq_false going)]
      simp only [idle, jumped]
      exact enough more

end

namespace World

variable {world : World M} {first queued fresh : Nat} {policy : Policy} {member : Runner M}
  {before : List (Runner M)}

/-! ### A whole cycle -/

section

variable {task : Task M} {delay time : Nat} {done : World M → Bool} {last : World M}

/-- The time has come, and nothing is on the agenda. -/
def reached (world : World M) (time : Nat) : World M :=
  { world with agenda := { now := time } }

theorem Busy.reached (busy : world.Busy before member task) (time : Nat) :
    (world.reached time).Busy before member task :=
  ⟨busy.toAlone.elsewhere rfl busy.scripted, rfl, busy.waits⟩

theorem Busy.unfinished (busy : world.Busy before member task) (agenda : Agenda (Task M)) :
    (among ⟨first, policy, queued, fresh⟩ { world with agenda }).accumulator.isGone before.length =
      false := by
  have alone : ({ world with agenda } : World M).Alone before member :=
    busy.toAlone.elsewhere rfl busy.scripted
  have there : (among ⟨first, policy, queued, fresh⟩ { world with agenda }).accumulator.crew.runner?
      before.length = some member := alone.holds.there
  have waits := busy.waits
  simp only [Accumulator.isGone, there, Runner.gone]
  generalize member.standing = place at waits
  cases waits <;> rfl

theorem Busy.unowned (busy : world.Busy before member task) (other : World M) :
    other.isOwned task = false := by
  have waits := busy.waits
  generalize member.standing = place at waits
  cases waits <;> rfl

theorem modify_at {α : Type} (front rest : List α) (entry : α) (f : α → α) :
    (front ++ entry :: rest).modify front.length f = front ++ f entry :: rest := by
  simp [List.modify_eq_take_drop]

theorem extras_succ (policy : Policy) (queued fresh : Nat) :
    (extras policy queued (fresh + 1) : List (Runner M)) =
      List.replicate queued (extra policy .queued) ++
        extra policy .fresh :: List.replicate fresh (extra policy .fresh) := by
  rw [extras, List.replicate_succ]

theorem modify_extras (members : List (Runner M)) (queued fresh : Nat) :
    (members ++ extras policy queued (fresh + 1)).modify (members.length + queued)
        (fun member => { member with standing := .queued }) =
      members ++ extras policy (queued + 1) fresh := by
  have place : (members ++ List.replicate queued (extra policy .queued)).length =
    members.length + queued := by simp
  rw [extras_succ, ← List.append_assoc, ← place, modify_at, extras, List.replicate_succ']
  simp [extra]

theorem getElem?_at {α : Type} (front rest : List α) (entry : α) :
    (front ++ entry :: rest)[front.length]? = some entry := by
  simp

theorem extras_fresh (members : List (Runner M)) (queued fresh : Nat) :
    (members ++ extras policy queued (fresh + 1))[members.length + queued]? =
      some (extra policy .fresh) := by
  have place : (members ++ List.replicate queued (extra policy .queued)).length =
    members.length + queued := by simp
  rw [extras_succ, ← List.append_assoc, ← place, getElem?_at]

theorem extras_queued (members : List (Runner M)) (queued fresh : Nat) :
    (members ++ extras policy (queued + 1) fresh)[members.length + queued]? =
      some (extra policy .queued) := by
  have place : (members ++ List.replicate queued (extra policy .queued)).length =
    members.length + queued := by simp
  rw [extras, List.replicate_succ', List.append_assoc, ← List.append_assoc, ← place]
  exact getElem?_at ..

theorem foldl_request_succ (lock : FairLock) (first queued : Nat) :
    (List.range' first (queued + 1)).foldl FairLock.request lock =
      ((List.range' first queued).foldl FairLock.request lock).request (first + queued) := by
  rw [List.range'_1_concat, List.foldl_append]
  rfl

/-- A runner that has not run yet asks for the lock. -/
theorem move_fresh [BEq M] (count : world.accumulator.crew.runners.length = first)
    (agenda : Agenda (Task M)) :
    move { world.among ⟨first, policy, queued, fresh + 1⟩ with agenda }
        (.life (.worker (first + queued) .resume)) =
      { world.among ⟨first, policy, queued + 1, fresh⟩ with agenda } := by
  subst count
  have found : (world.outlet.accumulator.crew.runners ++ extras policy queued (fresh + 1))[
      world.outlet.accumulator.crew.runners.length + queued]? = some (extra policy .fresh) :=
    extras_fresh ..
  have joined : (world.outlet.accumulator.crew.runners ++ extras policy queued (fresh + 1)).modify
      (world.outlet.accumulator.crew.runners.length + queued)
        (fun member => { member with standing := .queued }) =
      world.outlet.accumulator.crew.runners ++ extras policy (queued + 1) fresh :=
    modify_extras ..
  have requested := foldl_request_succ world.outlet.accumulator.crew.lock
    world.outlet.accumulator.crew.runners.length queued
  simp only [move, Outlet.step, Outlet.advance, Accumulator.step, Crew.step, among, Crowd.line,
    Crowd.runners, Crowd.tasks, Crew.runner?, accumulator, found, extra, Bool.false_eq_true,
    if_false, Outlet.followAll, Crew.request, Crew.stand, joined, List.foldl_nil]
  rw [requested]

/-- A runner that has not run yet joins those that wait for the lock. -/
theorem perform_fresh [BEq M] {holder : Nat} (count : world.accumulator.crew.runners.length = first)
    (held : world.accumulator.crew.lock.holder = some holder) (earlier : holder < first) :
    perform { world.among ⟨first, policy, queued, fresh + 1⟩ with
        agenda := (world.among ⟨first, policy, queued + 1, fresh⟩).agenda }
          (.resume (first + queued)) =
      world.among ⟨first, policy, queued + 1, fresh⟩ := by
  rw [perform, moveRunner, move_fresh count]
  have found : (world.among ⟨first, policy, queued + 1, fresh⟩).accumulator.crew.runner?
      (first + queued) = some (extra policy .queued) :=
    count ▸ extras_queued ..
  have other : (world.among ⟨first, policy, queued + 1, fresh⟩).accumulator.crew.lock.holder =
      some holder := by
    have held : world.outlet.accumulator.crew.lock.holder = some holder := held
    simp only [accumulator, among, Crowd.line, foldl_request held, held]
  have different : holder ≠ first + queued := by omega
  have waits : (world.among ⟨first, policy, queued + 1, fresh⟩).accumulator.crew.canResume
      (first + queued) = false := by
    simp [Crew.canResume, found, extra, other, different]
  change carryOn (world.among ⟨first, policy, queued + 1, fresh⟩) _ = _
  simp only [carryOn, found, extra, waits, Bool.false_eq_true, if_false]

theorem among_among (first : Nat) (policy : Policy) (queued fresh : Nat) (world : World M) :
    (world.among ⟨first, policy, 1, 0⟩).among ⟨first + 1, policy, queued, fresh⟩ =
      world.among ⟨first, policy, queued + 1, fresh⟩ := by
  have place : first + 1 + queued = first + (queued + 1) := by omega
  have line : (List.range' (first + 1) queued).foldl FairLock.request
        ((List.range' first 1).foldl FairLock.request world.outlet.accumulator.crew.lock) =
      (List.range' first (queued + 1)).foldl FairLock.request
        world.outlet.accumulator.crew.lock := by
    rw [List.range'_succ]
    rfl
  simp only [among, Crowd.line, Crowd.runners, Crowd.tasks, place, List.range'_zero, List.map_nil,
    List.append_nil, List.append_assoc, extras, List.replicate_succ, List.replicate_zero,
    List.cons_append, List.nil_append, line]

/-- The first task of the agenda is performed. -/
theorem runs_task {σ τ : Type} {machine : Machine σ τ} {done : σ → Bool} {limit : Option Nat}
    {state last : σ} {task : τ} (agenda : Agenda τ) (going : done state = false)
    (first : machine.agenda state = agenda.goFirst [task])
    (rest : machine.Runs done limit (machine.perform (machine.setAgenda state agenda) task) last) :
    machine.Runs done limit state last :=
  .works going (first ▸ rfl) rest

/-- The task is performed at once. -/
theorem runs_now [BEq M] {others : Crowd}
    (going : done ((world.after 0 task).among others) = false)
    (rest : machine.Runs done none ((world.among others).perform task) last) :
    machine.Runs done none ((world.after 0 task).among others) last :=
  runs_task (world.among others).agenda going rfl rest

/-- While time has to pass, the others that have not run yet join those that wait. -/
theorem runs_queue [BEq M] {holder : Nat} (empty : world.agenda.ready = [])
    (count : world.accumulator.crew.runners.length = first)
    (held : world.accumulator.crew.lock.holder = some holder) (earlier : holder < first)
    (going : ∀ queued fresh, done (world.among ⟨first, policy, queued, fresh⟩) = false)
    (rest : machine.Runs done none (world.among ⟨first, policy, queued + fresh, 0⟩) last) :
    machine.Runs done none (world.among ⟨first, policy, queued, fresh⟩) last := by
  induction fresh generalizing queued with
  | zero => exact rest
  | succ fresh ih =>
      have front : (world.among ⟨first, policy, queued, fresh + 1⟩).agenda =
          (world.among ⟨first, policy, queued + 1, fresh⟩).agenda.goFirst
            [.resume (first + queued)] := by
        simp [among, Crowd.tasks, empty, Agenda.goFirst, List.range'_succ, Nat.add_assoc]
      refine runs_task _ (going ..) front ?_
      have performed : perform { world.among ⟨first, policy, queued, fresh + 1⟩ with
          agenda := (world.among ⟨first, policy, queued + 1, fresh⟩).agenda }
            (.resume (first + queued)) = world.among ⟨first, policy, queued + 1, fresh⟩ :=
        perform_fresh count held earlier
      have later : queued + 1 + fresh = queued + (fresh + 1) := by omega
      have goes := ih (later ▸ rest)
      rw [← performed] at goes
      exact goes

/-- Time passes until the task is due. -/
theorem runs_jump [BEq M] {due : Nat} (calm : world.agenda = { now := world.now })
    (unowned : ∀ other : World M, other.isOwned task = false) (later : world.now ≤ due)
    (going : done (among ⟨first, policy, queued, 0⟩
      { world with agenda := world.agenda.setTimer due task }) = false)
    (rest : machine.Runs done none
      (((world.reached due).after 0 task).among ⟨first, policy, queued, 0⟩) last) :
    machine.Runs done none (among ⟨first, policy, queued, 0⟩
      { world with agenda := world.agenda.setTimer due task }) last := by
  have timed : (among ⟨first, policy, queued, 0⟩
      { world with agenda := world.agenda.setTimer due task }).agenda =
        { now := world.now, timers := [(due, task)] } := by
    simp [among, Crowd.tasks, calm, Agenda.setTimer, Agenda.place]
  have time : max world.now due = due := Nat.max_eq_right later
  refine .jumps going ?_ (?_ : _ = some { now := due, ready := [task] }) ?_
  · change (among ⟨first, policy, queued, 0⟩
      { world with agenda := world.agenda.setTimer due task }).agenda.take? = none
    rw [timed]
    rfl
  · change (among ⟨first, policy, queued, 0⟩
      { world with agenda := world.agenda.setTimer due task }).agenda.jump? _ none = _
    rw [timed]
    simp [Agenda.jump?, machine, unowned, List.span_eq_takeWhile_dropWhile, time]
  · exact rest

/-- The task of a cycle is performed when its time has come; by then, if time has to pass,
everybody else waits for the lock. -/
theorem Busy.runs_after [BEq M] (busy : world.Busy before member task)
    (unfinished : ∀ other : World M, other.accumulator.isGone before.length = false →
      done other = false)
    (shape : queued = 0 ∨ fresh = 0)
    (rest : ∀ waiting unseen, waiting + unseen = queued + fresh → waiting = 0 ∨ unseen = 0 →
      machine.Runs done none
        (((world.reached (world.now + delay)).among
          ⟨before.length + 1, policy, waiting, unseen⟩).perform task) last) :
    machine.Runs done none
      ((world.after delay task).among ⟨before.length + 1, policy, queued, fresh⟩) last := by
  have going (agenda : Agenda (Task M)) (queued fresh : Nat) :
      done (among ⟨before.length + 1, policy, queued, fresh⟩ { world with agenda }) = false :=
    unfinished _ (busy.unfinished agenda)
  rcases Nat.eq_zero_or_pos delay with rfl | positive
  · refine runs_now (going ..) ?_
    have same : world.reached (world.now + 0) = world := by
      rw [World.reached, Nat.add_zero, ← busy.calm]
    exact same ▸ rest queued fresh rfl shape
  · have timed : world.after delay task =
        { world with agenda := world.agenda.setTimer (world.now + delay) task } := by
      simp only [after, Agenda.after, if_neg (Nat.ne_of_gt positive)]
      rfl
    rw [timed]
    have held : world.accumulator.crew.lock.holder = some before.length :=
      congrArg FairLock.holder busy.lock
    have count : world.accumulator.crew.runners.length = before.length + 1 :=
      (congrArg List.length busy.runners).trans (by simp)
    refine runs_queue ?_ count held (Nat.lt_succ_self _) (going _) ?_
    · simp [busy.calm, Agenda.setTimer]
    · refine runs_jump busy.calm busy.unowned (Nat.le_add_right ..) (going _ _ _) ?_
      exact runs_now (going ..) (rest (queued + fresh) 0 rfl (.inr rfl))

/-- Whoever else is there, and whatever ends the run: it goes on from `world` to `last`, where
the lock has been handed on. -/
def LeadsTo [BEq M] (runner : Nat) (world last : World M) : Prop :=
  ∀ done policy queued fresh after,
    (∀ other : World M, other.accumulator.isGone runner = false → done other = false) →
    queued = 0 ∨ fresh = 0 →
    (∀ waiting unseen, waiting + unseen = queued + fresh → waiting = 0 ∨ unseen = 0 →
      machine.Runs done none (last.among ⟨runner + 1, policy, waiting, unseen⟩).wake after) →
    machine.Runs done none (world.among ⟨runner + 1, policy, queued, fresh⟩) after

/-- A cycle comes to its end, and to the same end whoever else is there. -/
theorem Busy.ends [BEq M] {world : World M} {before : List (Runner M)} {member : Runner M}
    {task : Task M} (busy : world.Busy before member task) (delay : Nat) :
    ∃ (last : World M) (time : Nat) (result : Except CycleFailure CycleReport),
      last.Idle (before.length + 1) ∧
      last.accumulator.policy = world.accumulator.policy ∧
      last.journal.runs = (before.length, time, result) :: world.journal.runs ∧
      LeadsTo before.length (world.after delay task) last := by
  -- by the rank of the task: it leads to one of a lower rank, or to the end
  cases (busy.reached (world.now + delay)).performs with
  | @goesOn next other pause following goes keeps less same =>
      obtain ⟨last, time, result, idle, policies, runs, leads⟩ := goes.ends pause
      refine ⟨last, time, result, idle, policies.trans keeps.policy,
        runs.trans (congrArg _ keeps.runs), ?_⟩
      intro done policy queued fresh after unfinished shape rest
      refine busy.runs_after unfinished shape fun waiting unseen count narrow => ?_
      rw [same]
      exact leads done policy waiting unseen after unfinished narrow (count ▸ rest)
  | @ends last result idle policies runs same =>
      refine ⟨last, _, result, idle, policies, runs, ?_⟩
      intro done policy queued fresh after unfinished shape rest
      refine busy.runs_after unfinished shape fun waiting unseen count narrow => ?_
      rw [same]
      exact rest waiting unseen count narrow
termination_by world.rank before.length task
decreasing_by exact less

end

/-! ### Cycles together and in turn -/

/-- So many single cycles, issued together, come to their ends and leave this world. -/
def RunsTogether [BEq M] (world : World M) (count : Nat) (last : World M) : Prop :=
  last.cyclesOver (world.nextRuns count) = true ∧
    ∃ fuel, ∀ more, machine.run (fun later => later.cyclesOver (world.nextRuns count)) none
      (fuel + more) (world.issueCycles count) = last

/-- So many single cycles, each issued when the one before has ended, leave this world. -/
def RunsInTurn [BEq M] : Nat → World M → World M → Prop
  | 0, world, last => last = world
  | count + 1, world, last => ∃ next, world.RunsTogether 1 next ∧ RunsInTurn count next last

section

variable {last : World M} {done : World M → Bool} {count : Nat}

theorem foldl_hireRun (world : World M) (runs : List Nat) :
    runs.foldl (fun world _ => world.hireRun) world =
      world.setCrew { world.accumulator.crew with
        runners := world.accumulator.crew.runners ++
          List.replicate runs.length (extra world.accumulator.policy .fresh) } := by
  induction runs generalizing world with
  | nil => simp [setCrew, accumulator]
  | cons run rest ih =>
      rw [List.foldl_cons, ih]
      simp [hireRun, setCrew, accumulator, Crew.hire, extra, List.replicate_succ]

theorem Idle.nextRuns (idle : world.Idle first) (count : Nat) :
    world.nextRuns count = List.range' first count := by
  rw [World.nextRuns, List.range'_eq_map_range, idle.count]

theorem Idle.issueCycles (idle : world.Idle first) (count : Nat) :
    world.issueCycles count = world.among ⟨first, world.accumulator.policy, 0, count⟩ := by
  have empty : world.agenda.ready = [] := congrArg Agenda.ready idle.calm
  rw [World.issueCycles, foldl_hireRun, idle.nextRuns, List.length_range', among]
  simp [setCrew, accumulator, Agenda.goFirst, Crowd.line, Crowd.runners, Crowd.tasks, extras,
    empty]

/-- The next runner has taken the lock. -/
theorem Idle.begun (idle : world.Idle first) (policy : Policy) :
    (world.among ⟨first, policy, 1, 0⟩).Busy world.accumulator.crew.runners
      (extra policy .queued) (.resume first) where
  runners := rfl
  gone := idle.gone
  single := rfl
  lock := by
    have free : world.outlet.accumulator.crew.lock = {} := idle.free
    rw [idle.count]
    simp [among, Crowd.line, accumulator, free, FairLock.request]
  uncalled := idle.uncalled
  scripted := idle.scripted
  calm := by
    have calm : world.agenda = { now := world.agenda.now } := idle.calm
    rw [among, calm]
    rfl
  waits := idle.count ▸ .turn

theorem Idle.wake_fresh (idle : world.Idle first) (place : Nat) (policy : Policy) (fresh : Nat) :
    (world.among ⟨place, policy, 0, fresh⟩).wake = world.among ⟨place, policy, 0, fresh⟩ := by
  have free : (world.among ⟨place, policy, 0, fresh⟩).accumulator.crew.lock = {} := idle.free
  rw [wake, free]
  rfl

theorem among_zero (world : World M) (first : Nat) (policy : Policy) :
    world.among ⟨first, policy, 0, 0⟩ = world := by
  simp [among, Crowd.line, Crowd.runners, Crowd.tasks, extras]

theorem Idle.wake_alone (idle : world.Idle first) (place : Nat) (policy : Policy) :
    (world.among ⟨place, policy, 0, 0⟩).wake = world := by
  rw [idle.wake_fresh, among_zero]

theorem Idle.holds_begun (idle : world.Idle first) (policy : Policy) (queued fresh : Nat) :
    (world.among ⟨first, policy, queued + 1, fresh⟩).Holds first (extra policy .queued) := by
  have holds : ((world.among ⟨first, policy, 1, 0⟩).among ⟨first + 1, policy, queued, fresh⟩).Holds
      world.accumulator.crew.runners.length (extra policy .queued) :=
    (idle.begun policy).toAlone.holds
  rwa [idle.count, among_among] at holds

/-- The first of those that wait for the lock has it and goes on. -/
theorem Idle.wake_queued (idle : world.Idle first) (policy : Policy) (queued : Nat) :
    (world.among ⟨first, policy, queued + 1, 0⟩).wake =
      ((world.among ⟨first, policy, 1, 0⟩).after 0 (.resume first)).among
        ⟨first + 1, policy, queued, 0⟩ := by
  have empty : world.agenda.ready = [] := congrArg Agenda.ready idle.calm
  rw [← after_among, among_among, wake, (idle.holds_begun policy queued 0).lock]
  simp [enqueue, after, Agenda.after, Agenda.enqueue, Agenda.goFirst, among, Crowd.tasks, empty]

/-- The first of those that have not run yet takes the lock and goes on. -/
theorem Idle.perform_fresh [BEq M] (idle : world.Idle first) (policy : Policy) (fresh : Nat) :
    perform { world.among ⟨first, policy, 0, fresh + 1⟩ with
      agenda := (world.among ⟨first, policy, 1, fresh⟩).agenda } (.resume first) =
      ((world.among ⟨first, policy, 1, 0⟩).after 0 (.resume first)).among
        ⟨first + 1, policy, 0, fresh⟩ := by
  have holds := idle.holds_begun policy 0 fresh
  have there := holds.there
  have goes : (world.among ⟨first, policy, 1, fresh⟩).accumulator.crew.canResume first = true := by
    simp [Crew.canResume, there, extra, holds.lock]
  have moved : move { world.among ⟨first, policy, 0, fresh + 1⟩ with
        agenda := (world.among ⟨first, policy, 1, fresh⟩).agenda }
          (.life (.worker first .resume)) = world.among ⟨first, policy, 1, fresh⟩ :=
    move_fresh idle.count _
  rw [← after_among, among_among, perform, moveRunner, moved]
  simp only [carryOn, there, extra, goes, if_true]
  rfl

theorem Idle.isGone (idle : world.Idle first) (id : Nat) : world.accumulator.isGone id = true := by
  unfold Accumulator.isGone
  cases found : world.accumulator.crew.runner? id with
  | none => rfl
  | some member => exact idle.gone member (List.mem_of_getElem? found)

/-- The first of the others begins its cycle, whether they wait for the lock or have not run. -/
theorem Idle.starts [BEq M] (idle : world.Idle first) (policy : Policy)
    (shape : queued = 0 ∨ fresh = 0) (sum : queued + fresh = count + 1)
    (unfinished : ∀ other : World M, other.accumulator.isGone first = false → done other = false)
    (rest : ∀ waiting unseen, waiting + unseen = count → waiting = 0 ∨ unseen = 0 →
      machine.Runs done none (((world.among ⟨first, policy, 1, 0⟩).after 0 (.resume first)).among
        ⟨first + 1, policy, waiting, unseen⟩) last) :
    machine.Runs done none (world.among ⟨first, policy, queued, fresh⟩).wake last := by
  rcases shape with rfl | rfl
  · obtain rfl : fresh = count + 1 := by omega
    rw [idle.wake_fresh]
    have empty : world.agenda.ready = [] := congrArg Agenda.ready idle.calm
    have going : done (world.among ⟨first, policy, 0, count + 1⟩) = false := by
      refine unfinished _ ?_
      have found : (world.among ⟨first, policy, 0, count + 1⟩).accumulator.crew.runner? first =
          some (extra policy .fresh) :=
        idle.count ▸ extras_fresh world.accumulator.crew.runners 0 count
      simp [Accumulator.isGone, found, extra, Runner.gone]
    have front : (world.among ⟨first, policy, 0, count + 1⟩).agenda =
        (world.among ⟨first, policy, 1, count⟩).agenda.goFirst [.resume first] := by
      simp [among, Crowd.tasks, empty, Agenda.goFirst, List.range'_succ]
    refine runs_task _ going front ?_
    have goes := rest 0 count (Nat.zero_add _) (.inl rfl)
    rw [← idle.perform_fresh] at goes
    exact goes
  · obtain rfl : queued = count + 1 := by omega
    rw [idle.wake_queued]
    exact rest count 0 rfl (.inr rfl)

theorem RunsTogether.of_runs [BEq M] (idle : world.Idle first)
    (runs : machine.Runs (fun later => later.cyclesOver (world.nextRuns count)) none
      (world.among ⟨first, world.accumulator.policy, 0, count⟩).wake last) :
    world.RunsTogether count last := by
  rw [idle.wake_fresh, ← idle.issueCycles] at runs
  exact runs.enough

theorem Idle.runs_one [BEq M] (idle : world.Idle first)
    (leads : LeadsTo first
      ((world.among ⟨first, world.accumulator.policy, 1, 0⟩).after 0 (.resume first)) last)
    (calm : last.Idle (first + 1)) : world.RunsTogether 1 last := by
  have unfinished (other : World M) (there : other.accumulator.isGone first = false) :
      other.cyclesOver (world.nextRuns 1) = false := by
    simp [cyclesOver, idle.nextRuns, there]
  refine .of_runs idle (idle.starts _ (.inl rfl) rfl unfinished fun waiting unseen sum narrow => ?_)
  refine leads _ _ waiting unseen _ unfinished narrow fun queued fresh sum _ => ?_
  obtain ⟨rfl, rfl⟩ : queued = 0 ∧ fresh = 0 := by omega
  rw [calm.wake_alone]
  exact .stops (List.all_eq_true.mpr fun id _ => calm.isGone id)

/-- Cycles issued together come to the same end as cycles issued in turn. -/
theorem Idle.cycles [BEq M] (idle : world.Idle first) (count : Nat) :
    ∃ last, RunsInTurn count world last ∧
      last.journal.runs.map Prod.fst =
        (List.range' first count).reverse ++ world.journal.runs.map Prod.fst ∧
      ∀ done queued fresh, queued + fresh = count → queued = 0 ∨ fresh = 0 →
        (∀ id, first ≤ id → id < first + count →
          ∀ other : World M, other.accumulator.isGone id = false → done other = false) →
        (∀ (other : World M) (place : Nat), other.Idle place → done other = true) →
        machine.Runs done none
          (world.among ⟨first, world.accumulator.policy, queued, fresh⟩).wake last := by
  -- Cycle by cycle.  At each end the others all wait for the lock or have all not run yet,
  -- which is the situation that the next cycle begins in.
  induction count generalizing world first with
  | zero =>
      refine ⟨world, rfl, by simp, ?_⟩
      intro done queued fresh sum _ _ finished
      obtain ⟨rfl, rfl⟩ : queued = 0 ∧ fresh = 0 := by omega
      rw [idle.wake_alone]
      exact .stops (finished world first idle)
  | succ count ih =>
      have begun := (idle.begun world.accumulator.policy).ends 0
      rw [idle.count] at begun
      obtain ⟨next, time, result, calm, policy, runs, leads⟩ := begun
      obtain ⟨last, turns, numbers, all⟩ := ih calm
      refine ⟨last, ⟨next, idle.runs_one leads calm, turns⟩, ?_, ?_⟩
      · rw [numbers, runs, List.range'_succ]
        simp [among]
      · intro done queued fresh sum shape unfinished finished
        -- the run is not over while the first cycle goes on
        have here := unfinished _ (Nat.le_refl _) (Nat.lt_add_of_pos_right (Nat.succ_pos _))
        refine idle.starts _ shape sum here fun waiting unseen count narrow => ?_
        refine leads done _ waiting unseen last here narrow fun queued fresh sum shape => ?_
        have kept : next.accumulator.policy = world.accumulator.policy := policy
        rw [← kept]
        refine all done queued fresh (sum.trans count) shape (fun id lower upper => ?_) finished
        exact unfinished id (by omega) (by omega)

/-- Once it is done a run with more fuel is the same. -/
theorem run_of_done {σ τ : Type} (machine : Machine σ τ) {done : σ → Bool} {limit : Option Nat}
    {fuel : Nat} {state : σ} (finished : done (machine.run done limit fuel state) = true)
    (more : Nat) :
    machine.run done limit (fuel + more) state = machine.run done limit fuel state := by
  induction fuel generalizing state with
  | zero =>
      cases more with
      | zero => rfl
      | succ more =>
          have here : done state = true := finished
          rw [Nat.zero_add]
          exact if_pos here
  | succ fuel ih =>
      rw [Nat.add_right_comm, Machine.run, Machine.run]
      split
      · rfl
      · rename_i going
        rw [Machine.run, if_neg going] at finished
        dsimp only at finished ⊢
        split
        · rename_i taken
          simp only [taken] at finished
          exact ih finished
        · rename_i idle
          simp only [idle] at finished
          split
          · rename_i jumped
            simp only [jumped] at finished
            exact ih finished
          · rfl

theorem RunsTogether.runCycles [BEq M] (together : world.RunsTogether count last)
    (finished : (world.runCycles count).cyclesOver (world.nextRuns count) = true) :
    world.runCycles count = last := by
  obtain ⟨_, enough, ends⟩ := together
  have longer : machine.run (fun later => later.cyclesOver (world.nextRuns count)) none
      (fuel + enough) (world.issueCycles count) = world.runCycles count :=
    run_of_done machine finished enough
  rw [Nat.add_comm, ends] at longer
  exact longer.symm

/-- So many single cycles, issued together, leave the same world as if each had been issued when
the one before had ended: the same results at the same times, and the same calls of the source
and the sink.  They end in the order in which they were issued. -/
theorem together_eq_in_turn [BEq M] (policy : Policy) (source : ScriptedSource M)
    (sink : ScriptedSink M) (now count : Nat) :
    ∃ last, RunsTogether ((World.ofCycles policy source sink).reached now) count last ∧
      RunsInTurn count ((World.ofCycles policy source sink).reached now) last ∧
      last.journal.runs.reverse.map Prod.fst = List.range count := by
  have idle : ((World.ofCycles policy source sink).reached now).Idle 0 :=
    ⟨rfl, rfl, nofun, rfl, rfl, source, rfl⟩
  obtain ⟨last, turns, numbers, all⟩ := idle.cycles count
  refine ⟨last, .of_runs idle (all _ 0 count (Nat.zero_add _) (.inl rfl) ?_ ?_), turns, ?_⟩
  · intro id lower upper other there
    refine List.all_eq_false.mpr ⟨id, ?_, ne_true_of_eq_false there⟩
    rw [idle.nextRuns]
    exact List.mem_range'_1.mpr ⟨lower, upper⟩
  · intro other place still
    exact List.all_eq_true.mpr fun id _ => still.isGone id
  · rw [List.map_reverse, numbers]
    exact (List.reverse_append ..).trans ((List.reverse_reverse _).trans List.range_eq_range'.symm)

end

end World

end Batching.Simulation

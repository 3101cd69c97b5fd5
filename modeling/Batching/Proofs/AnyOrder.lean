import Mathlib.Data.List.Perm.Basic
import Mathlib.Data.List.TakeDrop
import Mathlib.Logic.Relation
import Batching.Simulation.Agenda

namespace Batching.Simulation

/-! Tasks in any order.

A run takes its tasks from the agenda in one order, by the clock.  What holds whatever is
performed next, and however early, holds of a runtime with an order and a clock of its own
as well.  So `Machine.Goes` leaves the choice open, and a run is one of the ways to go.
-/

variable {σ τ : Type}

namespace Agenda

variable {agenda next : Agenda τ} {task : τ}

/-- Everything that is to happen. -/
def tasks (agenda : Agenda τ) : List τ :=
  agenda.ready ++ agenda.owned ++ agenda.resting ++ agenda.timers.map Prod.snd

theorem tasks_goFirst (agenda : Agenda τ) (task : τ) :
    (agenda.goFirst [task]).tasks = task :: agenda.tasks := rfl

theorem tasks_enqueue (agenda : Agenda τ) (task : τ) :
    (agenda.enqueue task).tasks.Perm (task :: agenda.tasks) := by
  simp only [tasks, enqueue, List.append_assoc, List.singleton_append]
  exact List.perm_middle

theorem tasks_enqueueOwned (agenda : Agenda τ) (task : τ) :
    (agenda.enqueueOwned task).tasks.Perm (task :: agenda.tasks) := by
  have inserted := @List.perm_middle τ task (agenda.ready ++ agenda.owned)
    (agenda.resting ++ agenda.timers.map Prod.snd)
  simpa [tasks, enqueueOwned] using inserted

theorem tasks_rest (agenda : Agenda τ) (task : τ) :
    (agenda.rest task).tasks.Perm (task :: agenda.tasks) := by
  have inserted := @List.perm_middle τ task (agenda.ready ++ agenda.owned ++ agenda.resting)
    (agenda.timers.map Prod.snd)
  simpa [tasks, rest] using inserted

theorem place_perm (due : Nat) (task : τ) (timers : List (Nat × τ)) :
    (place due task timers).Perm ((due, task) :: timers) := by
  induction timers with
  | nil => exact List.Perm.refl _
  | cons timer later ih =>
      unfold place
      split
      · exact (ih.cons timer).trans (List.Perm.swap ..)
      · exact List.Perm.refl _

theorem tasks_setTimer (agenda : Agenda τ) (due : Nat) (task : τ) :
    (agenda.setTimer due task).tasks.Perm (task :: agenda.tasks) := by
  have timers := (place_perm due task agenda.timers).map Prod.snd
  exact (timers.append_left _).trans List.perm_middle

theorem tasks_after (agenda : Agenda τ) (delay : Nat) (task : τ) :
    (agenda.after delay task).tasks.Perm (task :: agenda.tasks) := by
  unfold after
  split
  · exact List.Perm.refl _
  · exact tasks_setTimer ..

theorem tasks_cancel (agenda : Agenda τ) (meant : τ → Bool) :
    (agenda.cancel meant).tasks = agenda.tasks.filter fun task => !meant task := by
  simp only [tasks, cancel, List.filter_append]
  rw [List.filter_map]
  rfl

theorem tasks_nextRound (agenda : Agenda τ) : agenda.nextRound.tasks.Perm agenda.tasks := by
  simp only [tasks, nextRound, List.append_nil]
  exact ((List.reverse_perm _).append_left _).append_right _

theorem take?_tasks (taken : agenda.take? = some (task, next)) :
    agenda.tasks.Perm (task :: next.tasks) ∧ next.now = agenda.now := by
  have first {agenda : Agenda τ} {others : List τ} (ready : agenda.ready = task :: others) :
      agenda.tasks = task :: { agenda with ready := others }.tasks := by
    simp only [tasks, ready]
    rfl
  unfold take? at taken
  split at taken
  · dsimp only at taken
    split at taken
    · cases taken
    · rename_i ready
      cases taken
      exact ⟨(tasks_nextRound agenda).symm.trans (.of_eq (first ready)), rfl⟩
  · dsimp only at taken
    split at taken
    · cases taken
    · rename_i ready
      cases taken
      exact ⟨.of_eq (first ready), rfl⟩

theorem jump?_tasks {isOwned : τ → Bool} {limit : Option Nat}
    (jumped : agenda.jump? isOwned limit = some next) :
    agenda.tasks.Perm next.tasks ∧ agenda.now ≤ next.now := by
  unfold jump? at jumped
  split at jumped
  · cases jumped
  · rename_i time _ _ _
    split at jumped
    · simp only [List.span_eq_takeWhile_dropWhile, List.partition_eq_filter_filter,
        Option.some.injEq] at jumped
      subst jumped
      refine ⟨?_, Nat.le_max_left ..⟩
      have split := List.takeWhile_append_dropWhile
        (p := fun timer : Nat × τ => decide (timer.1 ≤ time)) (l := agenda.timers)
      generalize agenda.timers.takeWhile _ = due at split ⊢
      generalize agenda.timers.dropWhile _ = later at split ⊢
      have parts := (List.filter_append_perm isOwned (due.map Prod.snd)).symm
      have moved := @List.perm_append_comm τ (agenda.owned ++ agenda.resting) (due.map Prod.snd)
      have whole := ((moved.trans (parts.append_right _)).append_right
        (later.map Prod.snd)).append_left agenda.ready
      simpa [tasks, ← split, Function.comp_def] using whole
    · cases jumped

theorem tasks_passTo (agenda : Agenda τ) (limit : Option Nat) :
    (agenda.passTo limit).tasks = agenda.tasks ∧ agenda.now ≤ (agenda.passTo limit).now := by
  cases limit with
  | none => exact ⟨rfl, Nat.le_refl _⟩
  | some time => exact ⟨rfl, Nat.le_max_left ..⟩

end Agenda

namespace Machine

/-- What may happen next: some task, however early, or nothing but that time passes and the
tasks change their places. -/
inductive Goes (machine : Machine σ τ) (state : σ) : σ → Prop where
  | performs {task : τ} {agenda : Agenda τ}
      (pending : (machine.agenda state).tasks.Perm (task :: agenda.tasks))
      (later : (machine.agenda state).now ≤ agenda.now) :
      Goes machine state (machine.perform (machine.setAgenda state agenda) task)
  | waits {agenda : Agenda τ} (pending : (machine.agenda state).tasks.Perm agenda.tasks)
      (later : (machine.agenda state).now ≤ agenda.now) :
      Goes machine state (machine.setAgenda state agenda)

/-- A run performs the task that is ready first. -/
theorem run_performs {machine : Machine σ τ} {done : σ → Bool} {limit : Option Nat} {state : σ}
    {task : τ} {agenda : Agenda τ} (unfinished : done state = false)
    (taken : (machine.agenda state).take? = some (task, agenda)) (fuel : Nat) :
    machine.run done limit (fuel + 1) state =
      machine.run done limit fuel (machine.perform (machine.setAgenda state agenda) task) := by
  simp only [run, unfinished, taken, Bool.false_eq_true, if_false]

theorem run_done {machine : Machine σ τ} {done : σ → Bool} {limit : Option Nat} {state : σ}
    (finished : done state = true) (fuel : Nat) : machine.run done limit fuel state = state := by
  cases fuel with
  | zero => rfl
  | succ fuel => simp only [run, finished, if_true]

/-- A run goes from one state to the next in one of the possible ways. -/
theorem run_goes (machine : Machine σ τ) (done : σ → Bool) (limit : Option Nat) (fuel : Nat)
    (state : σ) : Relation.ReflTransGen machine.Goes state (machine.run done limit fuel state) := by
  induction fuel generalizing state with
  | zero => exact .refl
  | succ fuel ih =>
      unfold run
      split
      · exact .refl
      · dsimp only
        split
        · rename_i task agenda taken
          obtain ⟨pending, same⟩ := Agenda.take?_tasks taken
          exact .head (.performs pending (Nat.le_of_eq same.symm)) (ih _)
        · split
          · rename_i agenda jumped
            obtain ⟨pending, later⟩ := Agenda.jump?_tasks jumped
            exact .head (.waits pending later) (ih _)
          · obtain ⟨same, later⟩ := Agenda.tasks_passTo (machine.agenda state) limit
            exact .single (.waits (.of_eq same.symm) later)

end Machine

end Batching.Simulation

import Batching.Proofs.MessageOrder

namespace Batching

/-! Workers whose permission was withdrawn.

Once the workers hired so far are barred they stay barred.  None of them begins another
call, and whatever answer they still wait for leaves the batch empty.  A stop that has
begun ends in a stopped accumulator before the call that made it returns.
-/

variable {M : Type}

/-- The runner that begins a call of the source or of the sink. -/
def Event.caller? : Event M → Option Nat
  | .receiveBegan runner _ _ => some runner
  | .processBegan runner _ _ => some runner
  | _ => none

namespace Crew

variable {crew next : Crew M} {id count : Nat} {runner : Runner M} {events : List (Event M)}

theorem Tells.caller {event : Event M} {worker : Nat} (tells : crew.Tells next id runner event)
    (begins : event.caller? = some worker) : worker = id ∧ runner.allowed = true := by
  cases tells with
  | starts | exits | receives | processes | ends => cases begins
  | @calls await _ permitted _ called =>
      refine ⟨?_, permitted⟩
      cases await <;> cases called <;> cases begins <;> rfl
  | follows aftermath => cases event <;> cases begins <;> cases aftermath

/-- None of the first `count` runners may work. -/
structure Barred (crew : Crew M) (count : Nat) : Prop where
  hired : count ≤ crew.runners.length
  withdrawn : ∀ worker < count, crew.allows worker = false

theorem Barred.congr (barred : crew.Barred count) (runners : next.runners = crew.runners) :
    next.Barred count where
  hired := runners ▸ barred.hired
  withdrawn worker within := by
    rw [allows, runner?, runners]
    exact barred.withdrawn worker within

theorem Barred.hire (barred : crew.Barred count) (policy : Policy) (repeats : Bool) :
    (crew.hire policy repeats).Barred count where
  hired := by
    have hired := barred.hired
    simp only [Crew.hire, List.length_append]
    omega
  withdrawn worker within := by
    have hired := barred.hired
    rw [allows_hire, if_neg (by omega)]
    exact barred.withdrawn worker within

theorem Barred.withdraw (barred : crew.Barred count) (id : Nat) :
    (crew.withdraw id).Barred count where
  hired := by
    simp only [Crew.withdraw, List.length_modify]
    exact barred.hired
  withdrawn worker within := by
    rw [allows_withdraw]
    split
    · rfl
    · exact barred.withdrawn worker within

end Crew

namespace Accumulator

variable {before after start last : Accumulator M} {now count : Nat} {move : Move M}
  {events : List (Event M)} {moves : List (Nat × Move M)}

theorem Evolves.barred (evolves : before.Evolves now move after events)
    (barred : before.crew.Barred count) : after.crew.Barred count := by
  cases evolves with
  | carries carried =>
      rcases carried.crew_cases with ⟨runners, _⟩ | ⟨worker, crew, _⟩ | ⟨now, _, crew, _⟩
      · exact barred.congr runners
      · exact crew ▸ barred.withdraw worker
      · have marked : (before.crew.markStarted now).Barred count := barred.congr rfl
        exact crew ▸ marked.hire before.policy true
  | works stepped =>
      obtain ⟨length, allows⟩ := Crew.step_runners stepped
      exact ⟨length ▸ barred.hired, fun worker within => (allows worker).trans
        (barred.withdrawn worker within)⟩
  | drops =>
      unfold release
      split
      · exact barred.withdraw _
      · exact barred

theorem Evolves.caller (evolves : before.Evolves now move after events) {event : Event M}
    {worker : Nat} (member : event ∈ events) (begins : event.caller? = some worker) :
    before.crew.allows worker = true := by
  cases evolves with
  | carries carried =>
      have call := carried.isOfCall member
      cases event with
      | receiveBegan | processBegan => cases call
      | _ => cases begins
  | works stepped =>
      obtain ⟨runner, found, steps⟩ := Crew.step_cases stepped
      obtain ⟨rfl, permitted⟩ := (steps.tells found member).caller begins
      exact (Crew.allows_of_found found).trans permitted
  | drops => cases member

/-- The answer that a barred worker still waits for leaves the batch empty and leads to no
further call. -/
theorem Evolves.empty_of_received (evolves : before.Evolves now move after events)
    (barred : before.crew.Barred count) {worker cycle : Nat} {outcome : Outcome (Option M)}
    (received : .receiveEnded worker cycle outcome ∈ events) (within : worker < count) :
    after.pending = 0 ∧ ∀ event ∈ events, event.caller? = none := by
  cases evolves with
  | carries carried => cases carried.isOfCall received
  | works stepped =>
      obtain ⟨runner, found, steps⟩ := Crew.step_cases stepped
      cases steps.tells found received with
      | receives empty =>
          have withdrawn := (Crew.allows_of_found found).symm.trans (barred.withdrawn _ within)
          refine ⟨List.length_eq_zero_iff.mpr (empty withdrawn), fun event member => ?_⟩
          cases begins : event.caller? with
          | none => rfl
          | some worker =>
              have permitted := ((steps.tells found member).caller begins).2
              exact nomatch withdrawn.symm.trans permitted
      | @calls await _ _ _ called => cases await <;> cases called
      | follows aftermath => cases aftermath
  | drops => cases received

theorem run?_barred (orderly : start.Orderly) (barred : start.crew.Barred count)
    (ran : start.run? moves = some (last, events)) :
    last.crew.Barred count ∧ ∀ event ∈ events, ∀ worker,
      event.caller? = some worker → count ≤ worker := by
  have followed := run?_induction
    (fun start events last => start.crew.Barred count →
      last.crew.Barred count ∧ ∀ event ∈ events, ∀ worker,
        event.caller? = some worker → count ≤ worker)
    (fun barred => ⟨barred, fun _ => nofun⟩) ?_ orderly ran
  · exact followed barred
  · intro now move state next seen last more orderly evolves rest barred
    obtain ⟨still, later⟩ := rest (evolves.barred barred)
    refine ⟨still, fun event member worker begins => ?_⟩
    rcases List.mem_append.mp member with early | late
    · have permitted := evolves.caller early begins
      refine Nat.le_of_not_lt fun within => ?_
      exact nomatch permitted.symm.trans (barred.withdrawn worker within)
    · exact later event late worker begins

/-- From the moment the workers hired so far are barred, what the sink is called with has
arrived with a later worker. -/
theorem run?_later_traffic (orderly : start.Orderly)
    (barred : start.crew.Barred start.crew.runners.length)
    (ran : start.run? moves = some (last, events)) :
    (handovers events).Sublist
      ((arrivals events).filter fun handled => start.crew.runners.length ≤ handled.runner) := by
  let later (handled : Handled M) : Bool := start.crew.runners.length ≤ handled.runner
  have traffic := (run?_traffic orderly ran).filter later
  have handed : (handovers events).filter later = handovers events := by
    refine List.filter_eq_self.mpr fun handled member => ?_
    obtain ⟨event, inside, given⟩ := List.mem_filterMap.mp member
    cases event <;> cases given
    exact decide_eq_true ((run?_barred orderly barred ran).2 _ inside _ rfl)
  have held : start.crew.held.filter later = [] := by
    refine List.filter_eq_nil_iff.mpr fun handled member => ?_
    have within := Crew.held_within member
    simp only [later, decide_eq_true_eq]
    omega
  rw [List.filter_append, List.filter_append, handed, held, List.nil_append] at traffic
  exact (List.sublist_append_left ..).trans traffic

/-! ### From a stop to the next start -/

theorem Evolves.stays_stopped (orderly : before.Orderly)
    (evolves : before.Evolves now move after events)
    (unstarted : ∀ name, .logged (.starting name) ∉ events) (stopped : before.state = .stopped) :
    after.state = .stopped := by
  cases evolves with
  | carries carried =>
      cases carried with
      | passes _ _ life => exact (congrArg Life.state life).trans stopped
      | starts _ _ _ told =>
          have starting : .logged (.starting before.name) ∈ majors events := by simp [told]
          exact absurd (List.mem_filter.mp starting).1 (unstarted _)
      | fails _ _ life | finishes _ _ life => exact congrArg Life.state life
      | launches _ staged => exact nomatch stopped.symm.trans (orderly.staged staged)
      | stops was => exact nomatch stopped.symm.trans was
  | works => exact stopped
  | drops => exact before.release_state.trans stopped

theorem Carries.stopping {id : Nat} (carried : before.Carries id after events)
    (was : before.state = .running) (stops : after.state = .stopping) :
    after.stage? id = some .stopping := by
  cases carried with
  | passes _ _ life =>
      have same : after.state = before.state := congrArg Life.state life
      rw [same, was] at stops
      cases stops
  | starts _ _ life | fails _ _ life | launches _ _ _ life | finishes _ _ life =>
      exact nomatch (congrArg Life.state life).symm.trans stops
  | stops _ _ places => rw [places.stages, if_pos rfl]

/-- The call that stops the accumulator goes on, or leaves it stopped. -/
theorem Evolves.stops_on (orderly : before.Orderly)
    (evolves : before.Evolves now move after events) {caller : Nat}
    (staged : before.stage? caller = some .stopping) :
    after.state = .stopped ∨
      after.stage? caller = some .stopping ∧ ∀ result, .returned caller result ∉ events := by
  have stopping : before.state = .stopping := orderly.staged staged
  cases evolves with
  | @carries _ id _ _ carried =>
      cases carried with
      | passes same places _ _ =>
          have stays : after.stage? caller = some .stopping := by
            rw [places.stages]
            split
            · rename_i this
              rw [← same, ← this, staged]
            · exact staged
          refine .inr ⟨stays, fun result returned => ?_⟩
          obtain ⟨rfl, unstaged⟩ := places.returned returned
          exact nomatch (same.trans unstaged).symm.trans staged
      | starts was => exact nomatch stopping.symm.trans was
      | fails starting | launches _ starting =>
          exact nomatch stopping.symm.trans (orderly.staged starting)
      | stops was => exact nomatch stopping.symm.trans was
      | finishes _ _ life => exact .inl (congrArg Life.state life)
  | works stepped => exact .inr ⟨staged, fun _ => Crew.step_unreturned stepped⟩
  | drops =>
      refine .inr ⟨?_, fun _ => nofun⟩
      unfold release
      split <;> exact staged

/-- A stop that is under way has ended once its call has returned or the state has changed,
and the accumulator is stopped until the next start is accepted. -/
theorem run?_stops (orderly : start.Orderly) (ran : start.run? moves = some (last, events))
    (unstarted : ∀ name, .logged (.starting name) ∉ events) {caller : Nat}
    (staged : start.stage? caller = some .stopping) :
    last.state = .stopped ∨
      last.stage? caller = some .stopping ∧ ∀ result, .returned caller result ∉ events := by
  -- Once the stop is over its caller has no place any more, so what a stopped accumulator
  -- does is followed along with it.
  have followed := run?_induction
    (fun start events last => (∀ name, .logged (.starting name) ∉ events) →
      (start.state = .stopped → last.state = .stopped) ∧
        (start.stage? caller = some .stopping → last.state = .stopped ∨
          last.stage? caller = some .stopping ∧ ∀ result, .returned caller result ∉ events))
    (fun _ => ⟨fun stopped => stopped, fun staged => .inr ⟨staged, fun _ => nofun⟩⟩)
    ?_ orderly ran
  · exact (followed unstarted).2 staged
  · intro now move state next seen last more orderly evolves rest unstarted
    obtain ⟨stopped, stopping⟩ := rest fun name late =>
      unstarted name (List.mem_append_right seen late)
    refine ⟨fun was => stopped ?_, fun staged => ?_⟩
    · exact evolves.stays_stopped orderly
        (fun name early => unstarted name (List.mem_append_left more early)) was
    · rcases evolves.stops_on orderly staged with ended | ⟨stays, unreturned⟩
      · exact .inl (stopped ended)
      · rcases stopping stays with ended | ⟨still, later⟩
        · exact .inl ended
        · refine .inr ⟨still, fun result returned => ?_⟩
          rcases List.mem_append.mp returned with early | late
          · exact unreturned result early
          · exact later result late

end Accumulator

end Batching

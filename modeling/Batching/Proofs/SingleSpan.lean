import Batching.Proofs.Quiescence

namespace Batching

/-! An accumulator that is started once and shut down once.

Between the two calls its owner makes no other.  So it runs from the moment the start has
succeeded until the shutdown begins, and when the shutdown has returned it is stopped and
empty, and no worker is inside a call.
-/

variable {M : Type}

/-- A move that goes on with a call or a worker: no call begins, and nothing is dropped. -/
def Move.goesOn : Move M → Bool
  | .answer _ _ | .joined _ | .worker _ _ => true
  | .begin _ | .drop => false

namespace Accumulator

variable {before after : Accumulator M} {now id worker : Nat} {call : Call} {caller : Caller}
  {move : Move M} {events : List (Event M)}

/-- The accumulator goes on with a call or a worker, or nothing happens to it. -/
inductive Goes (before : Accumulator M) : Accumulator M → Prop where
  | rests : Goes before before
  | goes {now : Nat} {move : Move M} {after : Accumulator M} {events : List (Event M)}
      (ongoing : move.goesOn = true) (stepped : before.step now move = some (after, events)) :
      Goes before after

/-- The only call so far is a start, and if it has succeeded the accumulator is running. -/
structure Opening (accumulator : Accumulator M) : Prop where
  settled : accumulator.Settled
  succession : accumulator.Succession
  kept : accumulator.dropped = false
  called : accumulator.calls = [.start]
  running : accumulator.result? 0 = some (.ok ()) → accumulator.state = .running

/-- The only call so far is a start, and it has succeeded. -/
structure Started (accumulator : Accumulator M) : Prop where
  opening : accumulator.Opening
  succeeded : accumulator.result? 0 = some (.ok ())

theorem step_begin (undropped : before.dropped = false) (call : Call) :
    before.step now (.begin call) = some (before.beginCall call) := by
  rw [step, undropped]
  rfl

theorem Evolves.dropped_eq (evolves : before.Evolves now move after events)
    (ongoing : move.goesOn = true) : after.dropped = before.dropped := by
  cases evolves with
  | carries carried =>
      cases carried with
      | passes _ _ life | starts _ _ life | fails _ _ life | launches _ _ _ life
      | stops _ _ _ life | finishes _ _ life => exact congrArg Life.dropped life
  | works => rfl
  | drops => cases ongoing

/-! ### While only the start has been called -/

theorem Opening.caller_eq (opening : before.Opening) (found : before.callers[id]? = some caller) :
    id = 0 ∧ caller.call = .start := by
  have called : before.calls[id]? = some caller.call := by
    rw [calls, List.getElem?_map, found]
    rfl
  rw [opening.called, List.getElem?_singleton] at called
  split at called
  · rename_i first
    exact ⟨first, (Option.some.inj called).symm⟩
  · cases called

/-- A start that goes on and succeeds leaves the accumulator running. -/
theorem Opening.runs_of_proceeds (opening : before.Opening)
    (found : before.callers[id]? = some caller)
    (proceeded : before.Proceeds now id caller after events)
    (succeeded : after.result? 0 = some (.ok ())) : after.state = .running := by
  have fits := opening.settled.fitting id caller found
  obtain ⟨rfl, called⟩ := opening.caller_eq found
  obtain ⟨call, point⟩ := caller
  cases called
  have moved {placed : Accumulator M} {point : CallPoint}
      (callers : placed.callers = before.callers) :
      (placed.moveTo 0 point).result? 0 = Caller.result? ⟨.start, point⟩ := by
    rw [result?, callers_moveTo, if_pos rfl, callers, found]
    rfl
  cases proceeded with
  | asks leads =>
      have returned := (moved rfl).symm.trans succeeded
      cases leads <;> cases returned
  | fails => cases (moved (by rfl)).symm.trans succeeded
  | launches => rfl
  | finishes stood =>
      cases stood
      rcases fits with same | same <;> cases same
  | joined stood =>
      cases stood
      cases fits

theorem Opening.step (opening : before.Opening) (ongoing : move.goesOn = true)
    (stepped : before.step now move = some (after, events)) : after.Opening := by
  have orderly := opening.settled.orderly
  have acts := orderly.step_acts stepped
  have evolves := orderly.step_evolves stepped
  refine
    { settled := opening.settled.step stepped
      succession := opening.succession.step orderly evolves
      kept := (evolves.dropped_eq ongoing).trans opening.kept
      called := ?_
      running := fun succeeded => ?_ }
  · rcases acts.gathers.calls with same | ⟨call, rfl, _⟩
    · exact same.trans opening.called
    · cases ongoing
  · cases acts with
    | enters => cases ongoing
    | answers found proceeded | joins found proceeded =>
        exact opening.runs_of_proceeds found proceeded succeeded
    | works => exact opening.running succeeded
    | drops => cases ongoing

theorem Opening.goes (opening : before.Opening) (goes : before.Goes after) : after.Opening := by
  cases goes with
  | rests => exact opening
  | goes ongoing stepped => exact opening.step ongoing stepped

theorem Started.goes (started : before.Started) (goes : before.Goes after) : after.Started where
  opening := started.opening.goes goes
  succeeded := by
    cases goes with
    | rests => exact started.succeeded
    | goes _ stepped =>
        have acts := started.opening.settled.orderly.step_acts stepped
        exact acts.gathers.result?_kept started.succeeded

theorem opening_of_begin (name : String) (policy : Policy) (reporter : Reporter) :
    ((make name policy reporter : Accumulator M).beginCall .start).1.Opening := by
  have settled : (make name policy reporter : Accumulator M).Settled :=
    settled_make name policy reporter
  have stepped : (make name policy reporter : Accumulator M).step 0 (.begin .start) = _ :=
    step_begin rfl .start
  exact
    { settled := settled.step stepped
      succession := (succession_make name policy reporter).step settled.orderly
        (settled.orderly.step_evolves stepped)
      kept := rfl
      called := rfl
      running := nofun }

/-! ### While the shutdown goes on -/

/-- Going on with a call accepts no start. -/
theorem Proceeds.unstarted (proceeded : before.Proceeds now id caller after events)
    (name : String) : .logged (.starting name) ∉ events := by
  intro member
  have quiet {left : List (Event M)} (told : majors left = []) :
      .logged (.starting name) ∉ left := fun inside =>
    absurd rfl (List.filter_eq_nil_iff.mp told _ inside)
  cases proceeded with
  | asks => simp at member
  | fails _ told => rcases told with rfl | ⟨cause, rfl⟩ <;> simp at member
  | launches => simp at member
  | finishes _ told departed =>
      simp only [List.mem_cons, reduceCtorEq, false_or, List.mem_append] at member
      rcases member with cleared | noted | left
      · unfold clearing at cleared
        split at cleared <;> simp at cleared
      · rcases told with rfl | rfl <;> simp at noted
      · exact quiet departed.leaves.told left
  | @joined worker result =>
      have left : before.Leaves id (before.moveTo id (.returned result)) _ :=
        leaves_collected worker result rfl rfl
      exact quiet left.told member

theorem Acts.unstarted (acts : before.Acts now move after events) (ongoing : move.goesOn = true)
    (name : String) : .logged (.starting name) ∉ events := by
  cases acts with
  | enters => cases ongoing
  | answers _ proceeded | joins _ proceeded => exact proceeded.unstarted name
  | works stepped =>
      obtain ⟨runner, found, steps⟩ := Crew.step_cases stepped
      intro member
      cases steps.tells found member with
      | @calls await _ _ _ called => cases await <;> cases called
      | follows aftermath => cases aftermath
  | drops => cases ongoing

theorem Closing.step_on (closing : before.Closing id worker) (ongoing : move.goesOn = true)
    (stepped : before.step now move = some (after, events)) : after.Closing id worker := by
  have acts := closing.settled.orderly.step_acts stepped
  refine closing.step stepped (fun call begins => ?_) (acts.unstarted ongoing)
  rw [begins] at ongoing
  cases ongoing

theorem Closing.goes (closing : before.Closing id worker) (goes : before.Goes after) :
    after.Closing id worker := by
  cases goes with
  | rests => exact closing
  | goes ongoing stepped => exact closing.step_on ongoing stepped

/-- The shutdown of an accumulator that has been started once is the only call that joins a
worker. -/
theorem Started.closing (started : before.Started) :
    ∃ worker, (before.beginCall .shutdown).1.Closing 1 worker := by
  obtain ⟨opening, succeeded⟩ := started
  have running := opening.running succeeded
  have stepped : before.step 0 (.begin .shutdown) = _ := step_begin opening.kept .shutdown
  have count : before.callers.length = 1 := by
    have called := congrArg List.length opening.called
    rwa [calls, List.length_map] at called
  rw [← count]
  refine opening.settled.closing opening.succession running stepped ?_
  intro other caller found joins
  rw [(opening.caller_eq found).2] at joins
  cases joins

/-- A shutdown that has returned leaves the accumulator stopped, with nothing pending and
no cycle in progress. -/
theorem Closing.rests (closing : before.Closing id worker) {result : Except Failure Unit}
    (returned : before.result? id = some result) :
    before.state = .stopped ∧ before.pending = 0 ∧ before.crew.current? = none := by
  obtain ⟨stopped, gone⟩ := closing.quiet returned
  have quiet := closing.succession.quiet closing.latest gone
  have drained := closing.settled.orderly.still (.inl stopped)
  exact ⟨stopped, List.length_eq_zero_iff.mpr drained, Crew.current?_eq_none_of_alone quiet⟩

end Accumulator

end Batching

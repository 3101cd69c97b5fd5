import Batching.Proofs.Permission

namespace Batching

/-! The calls of a layered sink that are under way.

An outlet shows of its accumulator what the accumulator alone would show, so its histories
are histories of the accumulator.  Each call that is under way delivers the message of the
call that its runner waits for.
-/

variable {M : Type}

def Await.message? : Await M → Option M
  | .receive _ _ _ _ => none
  | .process _ _ _ _ message => some message

def OutletEvent.seen? : OutletEvent M → Option (Event M)
  | .seen event => some event
  | _ => none

/-- What the accumulator has shown. -/
def shown (events : List (OutletEvent M)) : List (Event M) :=
  events.filterMap OutletEvent.seen?

theorem shown_append (first rest : List (OutletEvent M)) :
    shown (first ++ rest) = shown first ++ shown rest :=
  List.filterMap_append

theorem shown_noted (notices : List Notice) :
    shown (notices.map (OutletEvent.noted (M := M))) = [] := by
  simp [shown, OutletEvent.seen?]

theorem mem_shown_iff {event : Event M} {events : List (OutletEvent M)} :
    event ∈ shown events ↔ .seen event ∈ events := by
  constructor
  · intro member
    obtain ⟨entry, inside, same⟩ := List.mem_filterMap.mp member
    cases entry <;> cases same
    exact inside
  · intro member
    exact List.mem_filterMap.mpr ⟨_, member, rfl⟩

namespace Crew

variable {crew next : Crew M} {id : Nat} {events : List (Event M)}

/-- The message of the call of the sink that a runner waits for. -/
def message? (crew : Crew M) (id : Nat) : Option M :=
  (crew.awaitOf? id).bind Await.message?

/-- A runner that waits for the sink goes on only when that call ends. -/
theorem message?_step {now other : Nat} {cue : Cue M} {message : M}
    (waits : crew.message? other = some message)
    (stepped : crew.step now id cue = some (next, events))
    (unprocessed : id = other → ∀ outcome, cue ≠ .processed outcome) :
    next.message? other = some message := by
  by_cases same : id = other
  · subst same
    obtain ⟨await, awaits, given⟩ := Option.bind_eq_some_iff.mp waits
    obtain ⟨runner, found, stood⟩ := Option.bind_eq_some_iff.mp awaits
    cases await with
    | receive => cases given
    | process cycle received reason dispatched held =>
        cases standing : runner.standing <;> rw [standing] at stood <;> cases stood
        rw [step, found] at stepped
        cases cue with
        | processed outcome => exact absurd rfl (unprocessed rfl outcome)
        | resume | received => simp [standing] at stepped
  · obtain ⟨runner, _, steps⟩ := step_cases stepped
    obtain ⟨standing, pipeline, lock, rfl⟩ := steps.stands
    rw [message?, awaitOf?_stand_of_ne (Ne.symm same)]
    exact waits

theorem message?_of_processBegan {now runner cycle : Nat} {cue : Cue M} {message : M}
    (stepped : crew.step now id cue = some (next, events))
    (began : .processBegan runner cycle message ∈ events) :
    next.message? runner = some message := by
  obtain ⟨resumed, found, steps⟩ := step_cases stepped
  cases steps.tells found began with
  | @calls await _ _ waits called =>
      cases await <;> cases called
      rw [message?, waits]
      rfl
  | follows aftermath => cases aftermath

end Crew

namespace Accumulator

variable {before after : Accumulator M} {now : Nat} {move : Move M} {events : List (Event M)}

theorem Evolves.message? {runner : Nat} {message : M}
    (evolves : before.Evolves now move after events)
    (waits : before.crew.message? runner = some message)
    (unprocessed : ∀ outcome, move ≠ .worker runner (.processed outcome)) :
    after.crew.message? runner = some message := by
  cases evolves with
  | carries carried => rw [Crew.message?, carried.calls_kept.2]; exact waits
  | works stepped =>
      refine Crew.message?_step waits stepped fun same outcome ended => ?_
      exact unprocessed outcome (by rw [same, ended])
  | drops => rw [Crew.message?, before.release_calls_kept.2]; exact waits

theorem Evolves.message?_of_processBegan {runner cycle : Nat} {message : M}
    (evolves : before.Evolves now move after events)
    (began : .processBegan runner cycle message ∈ events) :
    after.crew.message? runner = some message := by
  cases evolves with
  | carries carried => cases carried.isOfCall began
  | works stepped => exact Crew.message?_of_processBegan stepped began
  | drops => cases began

end Accumulator

namespace Outlet

variable {outlet next last : Outlet M} {events : List (OutletEvent M)}

/-! ### The calls under way -/

theorem lookup_cons_eq (entries : List (Nat × Stage M)) (runner other : Nat) (stage : Stage M) :
    ((runner, stage) :: entries).lookup other =
      if other = runner then some stage else entries.lookup other := by
  by_cases same : other = runner
  · simp [same]
  · simp [List.lookup_cons, beq_false_of_ne same, same]

theorem lookup_filter_ne (entries : List (Nat × Stage M)) (runner other : Nat) :
    (entries.filter fun entry => entry.1 != runner).lookup other =
      if other = runner then none else entries.lookup other := by
  induction entries with
  | nil => simp
  | cons entry rest ih =>
      obtain ⟨key, stage⟩ := entry
      by_cases removed : key = runner
      · rw [List.filter_cons_of_neg (by simp [removed]), ih, lookup_cons_eq, removed]
        split <;> rfl
      · rw [List.filter_cons_of_pos (by simp [removed]), lookup_cons_eq, lookup_cons_eq, ih]
        split
        · rename_i same
          rw [if_neg (same ▸ removed)]
        · rfl

theorem stage?_finish (outlet : Outlet M) (runner other : Nat) :
    (outlet.finish runner).stage? other = if other = runner then none else outlet.stage? other :=
  lookup_filter_ne outlet.underway runner other

theorem stage?_enter (outlet : Outlet M) (runner other : Nat) (stage : Stage M) :
    (outlet.enter runner stage).stage? other =
      if other = runner then some stage else outlet.stage? other := by
  have finished := outlet.stage?_finish runner other
  simp only [stage?] at finished ⊢
  rw [enter, lookup_cons_eq, finished]
  split <;> rfl

theorem followAll_cons_iff {event : Event M} {rest : List (Event M)} :
    outlet.followAll (event :: rest) = (next, events) ↔
      ∃ middle first others, outlet.follow event = (middle, first) ∧
        middle.followAll rest = (next, others) ∧ events = first ++ others := by
  constructor
  · intro followed
    simp only [followAll] at followed
    cases followed
    exact ⟨_, _, _, rfl, rfl, rfl⟩
  · rintro ⟨middle, first, others, one, all, rfl⟩
    simp only [followAll, one, all]

/-- Following the accumulator changes nothing about it and hides nothing of it. -/
theorem followAll_shows {seen : List (Event M)}
    (followed : outlet.followAll seen = (next, events)) :
    next.accumulator = outlet.accumulator ∧ shown events = seen := by
  induction seen generalizing outlet events with
  | nil =>
      cases followed
      exact ⟨rfl, rfl⟩
  | cons event rest ih =>
      obtain ⟨middle, first, others, one, all, rfl⟩ := followAll_cons_iff.mp followed
      obtain ⟨accumulator, others⟩ := ih all
      rw [accumulator, shown_append, others]
      cases event <;> cases one <;> exact ⟨rfl, rfl⟩

/-- The message that the call of a runner delivers. -/
def message? (outlet : Outlet M) (runner : Nat) : Option M :=
  (outlet.stage? runner).map fun stage => stage.delivery.message

theorem message?_finish (outlet : Outlet M) (runner other : Nat) :
    (outlet.finish runner).message? other =
      if other = runner then none else outlet.message? other := by
  rw [message?, stage?_finish]
  split <;> rfl

theorem message?_enter (outlet : Outlet M) (runner other : Nat) (stage : Stage M) :
    (outlet.enter runner stage).message? other =
      if other = runner then some stage.delivery.message else outlet.message? other := by
  rw [message?, stage?_enter]
  split <;> rfl

theorem message?_followAll {seen : List (Event M)} {runner : Nat} {message : M}
    (followed : outlet.followAll seen = (next, events))
    (delivers : next.message? runner = some message) :
    outlet.message? runner = some message ∨ ∃ cycle, .processBegan runner cycle message ∈ seen := by
  induction seen generalizing outlet events with
  | nil =>
      cases followed
      exact .inl delivers
  | cons event rest ih =>
      obtain ⟨middle, first, others, one, all, rfl⟩ := followAll_cons_iff.mp followed
      rcases ih all with earlier | ⟨cycle, began⟩
      · cases event with
        | processBegan other cycle given =>
            cases one
            rw [message?_enter] at earlier
            split at earlier
            · rename_i same
              cases earlier
              exact .inr ⟨cycle, by rw [same]; exact List.mem_cons_self⟩
            · exact .inl earlier
        | _ =>
            cases one
            exact .inl earlier
      · exact .inr ⟨cycle, List.mem_cons_of_mem _ began⟩

theorem deliveryBegan_followAll {seen : List (Event M)} {runner : Nat} {message : M}
    (followed : outlet.followAll seen = (next, events))
    (began : .deliveryBegan runner message ∈ events) :
    ∃ cycle, .processBegan runner cycle message ∈ seen := by
  induction seen generalizing outlet events with
  | nil =>
      cases followed
      cases began
  | cons event rest ih =>
      obtain ⟨middle, first, others, one, all, rfl⟩ := followAll_cons_iff.mp followed
      rcases List.mem_append.mp began with now | later
      · cases event with
        | processBegan other cycle given =>
            cases one
            simp only [List.mem_cons, reduceCtorEq, OutletEvent.deliveryBegan.injEq,
              List.not_mem_nil, or_false, false_or] at now
            obtain ⟨rfl, rfl⟩ := now
            exact ⟨cycle, List.mem_cons_self⟩
        | _ =>
            cases one
            simp at now
      · obtain ⟨cycle, inside⟩ := ih all later
        exact ⟨cycle, List.mem_cons_of_mem _ inside⟩

/-! ### What a move does -/

/-- Everything that a move can do to an outlet. -/
inductive Moves (outlet : Outlet M) : Outlet M → List (OutletEvent M) → Prop where
  | lives {now : Nat} {move : Move M} {accumulator : Accumulator M} {seen : List (Event M)}
      {next : Outlet M} {events : List (OutletEvent M)}
      (unprocessed : ∀ runner outcome, move ≠ .worker runner (.processed outcome))
      (stepped : outlet.accumulator.step now move = some (accumulator, seen))
      (followed : { outlet with accumulator }.followAll seen = (next, events)) :
      Moves outlet next events
  | ends {now runner : Nat} {result : Outcome Unit} {accumulator : Accumulator M}
      {seen : List (Event M)} {layers : List Layer} {next : Outlet M}
      {events : List (OutletEvent M)} (notices : List Notice)
      (stepped : outlet.accumulator.step now (.worker runner (.processed result)) =
        some (accumulator, seen))
      (followed :
        { outlet.finish runner with accumulator, layers }.followAll seen = (next, events)) :
      Moves outlet next (notices.map .noted ++ events)
  | pauses {runner backoff : Nat} {delivery paused : Delivery M} (layers : List Layer)
      (notices : List Notice) (found : outlet.stage? runner = some (.delivering delivery))
      (same : paused.message = delivery.message) :
      Moves outlet ({ outlet with layers }.enter runner (.resting paused))
        (notices.map .noted ++ [.paused runner backoff])
  | redelivers {runner : Nat} {delivery : Delivery M}
      (found : outlet.stage? runner = some (.resting delivery)) :
      Moves outlet (outlet.enter runner (.delivering delivery))
        [.deliveryBegan runner delivery.message]

theorem advance_cases {now : Nat} {move : Move M}
    (advanced : outlet.advance now move = some (next, events)) :
    ∃ accumulator seen, outlet.accumulator.step now move = some (accumulator, seen) ∧
      { outlet with accumulator }.followAll seen = (next, events) := by
  unfold advance at advanced
  split at advanced
  · cases advanced
  · rename_i moved
    exact ⟨_, _, moved, Option.some.inj advanced⟩

theorem settle_moves {now runner : Nat} {delivery : Delivery M} {outcome : Outcome Unit}
    (found : outlet.stage? runner = some (.delivering delivery))
    (settled : outlet.settle now runner delivery outcome = some (next, events)) :
    outlet.Moves next events := by
  obtain ⟨continuation, layers, notices, passed⟩ : ∃ continuation layers notices,
      delivery.settle outlet.sink outlet.layers outcome = (continuation, layers, notices) :=
    ⟨_, _, _, rfl⟩
  cases continuation with
  | ends result =>
      simp only [settle, passed] at settled
      split at settled
      · cases settled
      · rename_i advanced
        obtain ⟨accumulator, seen, stepped, followed⟩ := advance_cases advanced
        cases settled
        exact .ends notices stepped followed
  | again backoff paused =>
      simp only [settle, passed] at settled
      cases settled
      exact .pauses layers notices found (Delivery.settle_message passed)

theorem step_moves {now : Nat} {move : OutletMove M}
    (stepped : outlet.step now move = some (next, events)) : outlet.Moves next events := by
  have lives {life : Move M}
      (unprocessed : ∀ runner outcome, life ≠ .worker runner (.processed outcome))
      (advanced : outlet.advance now life = some (next, events)) : outlet.Moves next events := by
    obtain ⟨accumulator, seen, moved, followed⟩ := advance_cases advanced
    exact .lives unprocessed moved followed
  cases move with
  | life move =>
      cases move with
      | worker runner cue =>
          cases cue with
          | processed outcome => cases stepped
          | resume | received => exact lives (by simp) stepped
      | begin | answer | joined | drop => exact lives (by simp) stepped
  | delivered runner outcome =>
      simp only [step] at stepped
      split at stepped
      · rename_i found
        exact settle_moves found stepped
      · cases stepped
  | redeliver runner =>
      simp only [step] at stepped
      split at stepped
      · rename_i found
        cases stepped
        exact .redelivers found
      · cases stepped

/-- What the accumulator of an outlet does is what it might have done alone. -/
theorem Moves.shown (moves : outlet.Moves next events) :
    next.accumulator = outlet.accumulator ∧ shown events = [] ∨
      ∃ now move, outlet.accumulator.step now move = some (next.accumulator, shown events) := by
  cases moves with
  | @lives now move _ _ _ _ _ stepped followed =>
      obtain ⟨same, seen⟩ := followAll_shows followed
      exact .inr ⟨now, move, by rw [same, seen]; exact stepped⟩
  | @ends now runner result _ _ _ _ _ notices stepped followed =>
      obtain ⟨same, seen⟩ := followAll_shows followed
      refine .inr ⟨now, .worker runner (.processed result), ?_⟩
      rw [shown_append, shown_noted, same, seen]
      exact stepped
  | pauses layers notices =>
      refine .inl ⟨rfl, ?_⟩
      rw [shown_append, shown_noted]
      rfl
  | redelivers => exact .inl ⟨rfl, rfl⟩

theorem run?_shown {moves : List (Nat × OutletMove M)}
    (ran : outlet.run? moves = some (last, events)) :
    ∃ life, outlet.accumulator.run? life = some (last.accumulator, shown events) := by
  refine (follow?_induction (fun _ => True)
    (fun outlet events last =>
      ∃ life, outlet.accumulator.run? life = some (last.accumulator, shown events))
    (fun _ _ => trivial) (fun _ => ⟨[], rfl⟩) ?_ trivial ran).2
  intro now state move next seen last more _ stepped _ ⟨life, rest⟩
  rw [shown_append]
  rcases (step_moves stepped).shown with ⟨same, nothing⟩ | ⟨time, first, advanced⟩
  · exact ⟨life, by rw [nothing, ← same]; exact rest⟩
  · exact ⟨(time, first) :: life,
      follow?_cons_iff.mpr ⟨_, _, _, advanced, rest, rfl⟩⟩

/-! ### Orderly outlets -/

/-- The accumulator is orderly, and every call under way delivers the message of the call
that its runner waits for. -/
structure Orderly (outlet : Outlet M) : Prop where
  accumulator : outlet.accumulator.Orderly
  delivers : ∀ {runner : Nat} {message : M}, outlet.message? runner = some message →
    outlet.accumulator.crew.message? runner = some message

theorem orderly_make (name : String) (policy : Policy) (reporter : Reporter) (sink : String)
    (layers : List Layer) : (make name policy reporter sink layers : Outlet M).Orderly where
  accumulator := Accumulator.orderly_make name policy reporter
  delivers found := nomatch found

theorem Orderly.accumulator_step {now : Nat} {move : OutletMove M} (orderly : outlet.Orderly)
    (stepped : outlet.step now move = some (next, events)) : next.accumulator.Orderly := by
  rcases (step_moves stepped).shown with ⟨same, _⟩ | ⟨time, life, advanced⟩
  · exact same ▸ orderly.accumulator
  · exact orderly.accumulator.step advanced

/-- If the calls under way were those of runners that waited for the sink, they still are when
the accumulator has moved. -/
theorem Orderly.delivers_followAll {now : Nat} {move : Move M} {accumulator : Accumulator M}
    {seen : List (Event M)} {entered : Outlet M} (orderly : outlet.Orderly)
    (stepped : outlet.accumulator.step now move = some (accumulator, seen))
    (moved : entered.accumulator = accumulator)
    (followed : entered.followAll seen = (next, events))
    (kept : ∀ {runner message}, entered.message? runner = some message →
      outlet.message? runner = some message ∧
        ∀ outcome, move ≠ .worker runner (.processed outcome))
    {runner : Nat} {message : M} (delivers : next.message? runner = some message) :
    next.accumulator.crew.message? runner = some message := by
  have evolves := orderly.accumulator.step_evolves stepped
  rw [(followAll_shows followed).1, moved]
  rcases message?_followAll followed delivers with earlier | ⟨cycle, began⟩
  · obtain ⟨before, unprocessed⟩ := kept earlier
    exact evolves.message? (orderly.delivers before) unprocessed
  · exact evolves.message?_of_processBegan began

theorem message?_of_finish {ended runner : Nat} {message : M}
    (delivers : (outlet.finish ended).message? runner = some message) :
    outlet.message? runner = some message ∧ runner ≠ ended := by
  rw [message?_finish] at delivers
  split at delivers
  · cases delivers
  · rename_i different
    exact ⟨delivers, different⟩

theorem message?_of_enter {entered runner : Nat} {message : M} {earlier stage : Stage M}
    (delivers : (outlet.enter entered stage).message? runner = some message)
    (found : outlet.stage? entered = some earlier)
    (same : stage.delivery.message = earlier.delivery.message) :
    outlet.message? runner = some message := by
  rw [message?_enter] at delivers
  split at delivers
  · rename_i this
    rw [message?, this, found, ← delivers, same]
    rfl
  · exact delivers

theorem Orderly.step {now : Nat} {move : OutletMove M} (orderly : outlet.Orderly)
    (stepped : outlet.step now move = some (next, events)) : next.Orderly where
  accumulator := orderly.accumulator_step stepped
  delivers {runner message} delivers := by
    cases step_moves stepped with
    | lives unprocessed advanced followed =>
        exact orderly.delivers_followAll advanced rfl followed
          (fun earlier => ⟨earlier, unprocessed _⟩) delivers
    | ends notices advanced followed =>
        refine orderly.delivers_followAll advanced rfl followed (fun earlier => ?_) delivers
        obtain ⟨before, different⟩ := message?_of_finish earlier
        exact ⟨before, fun outcome same => different (by cases same; rfl)⟩
    | pauses layers notices found same =>
        exact orderly.delivers (message?_of_enter delivers found same)
    | redelivers found => exact orderly.delivers (message?_of_enter delivers found rfl)

theorem Orderly.run? {moves : List (Nat × OutletMove M)} (orderly : outlet.Orderly)
    (ran : outlet.run? moves = some (last, events)) : last.Orderly :=
  (follow?_induction Orderly (fun _ _ _ => True) (fun orderly stepped => orderly.step stepped)
    (fun _ => trivial) (fun _ _ _ _ => trivial) orderly ran).1

end Outlet

end Batching

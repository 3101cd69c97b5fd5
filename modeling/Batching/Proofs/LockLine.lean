import Batching.Proofs.Joining

namespace Batching

/-! The line for the cycle lock.

In line stands whoever has asked for the lock and not given it up.  A runner that is over is
not among them, so the one at the front can always go on, and the line moves.  The numbers of
the cycles follow the line: whoever comes to the front later has the larger number.
-/

variable {M : Type}

namespace Standing

def inLine : Standing M → Bool
  | .queued | .awaiting _ | .leaving => true
  | _ => false

/-- The number of the cycle that a runner has the lock for, if `next` is the next one. -/
def number? (next : Nat) : Standing M → Option Nat
  | .queued => some next
  | .awaiting await => some await.cycle
  | _ => none

end Standing

namespace Crew

variable {crew next : Crew M} {id other number : Nat} {runner : Runner M}
  {standing : Standing M} {events : List (Event M)}

def standing? (crew : Crew M) (id : Nat) : Option (Standing M) :=
  (crew.runner? id).map Runner.standing

def lines (crew : Crew M) (id : Nat) : Bool :=
  (crew.standing? id).any Standing.inLine

/-- The runner at the front of the line and the number of its cycle. -/
def turn? (crew : Crew M) : Option (Nat × Nat) :=
  crew.lock.holder.bind fun id =>
    ((crew.standing? id).bind (Standing.number? (crew.pipeline.counters.cycles + 1))).map
      fun number => (id, number)

theorem standing?_of_found (found : crew.runner? id = some runner) :
    crew.standing? id = some runner.standing := by
  simp [standing?, found]

theorem lines_of_found (found : crew.runner? id = some runner) :
    crew.lines id = runner.standing.inLine := by
  simp [lines, standing?_of_found found]

theorem standing?_stand_self (found : crew.runner? id = some runner) (standing : Standing M) :
    (crew.stand id standing).standing? id = some standing := by
  simp [standing?, runner?_stand, found]

theorem standing?_stand_of_ne (different : other ≠ id) :
    (crew.stand id standing).standing? other = crew.standing? other := by
  simp [standing?, runner?_stand, different]

theorem awaitOf?_eq_standing (crew : Crew M) (id : Nat) :
    crew.awaitOf? id = (crew.standing? id).bind Standing.await? := by
  cases found : crew.runner? id <;> simp [awaitOf?, standing?, found]

/-- What the calls of the owner leave as it is: a new runner is all that they add. -/
structure Keeps (crew next : Crew M) : Prop where
  lock : next.lock = crew.lock
  reporter : next.reporter = crew.reporter
  cycles : next.pipeline.counters.cycles = crew.pipeline.counters.cycles
  failed : next.pipeline.counters.failedCycles = crew.pipeline.counters.failedCycles
  stands : ∀ id, next.standing? id = crew.standing? id ∨
    crew.standing? id = none ∧ next.standing? id = some .fresh

theorem Keeps.refl_of_runners (runners : next.runners = crew.runners)
    (lock : next.lock = crew.lock) (reporter : next.reporter = crew.reporter)
    (cycles : next.pipeline.counters.cycles = crew.pipeline.counters.cycles)
    (failed : next.pipeline.counters.failedCycles = crew.pipeline.counters.failedCycles) :
    crew.Keeps next where
  lock := lock
  reporter := reporter
  cycles := cycles
  failed := failed
  stands id := .inl (by rw [standing?, runner?, runners, standing?, runner?])

theorem keeps_withdraw (crew : Crew M) (id : Nat) : crew.Keeps (crew.withdraw id) where
  lock := rfl
  reporter := rfl
  cycles := rfl
  failed := rfl
  stands other := by
    refine .inl ?_
    rw [standing?, runner?_withdraw]
    split
    · rename_i same
      rw [same, standing?, Option.map_map]
      rfl
    · rfl

theorem keeps_hire (crew : Crew M) (policy : Policy) (repeats : Bool) :
    crew.Keeps (crew.hire policy repeats) where
  lock := rfl
  reporter := rfl
  cycles := rfl
  failed := rfl
  stands other := by
    rw [standing?, standing?, runner?_hire]
    split
    · rename_i last
      exact .inr ⟨by simp [runner?, last], rfl⟩
    · exact .inl rfl

theorem Keeps.lines (keeps : crew.Keeps next) (id : Nat) : next.lines id = crew.lines id := by
  rcases keeps.stands id with same | ⟨absent, fresh⟩
  · rw [Crew.lines, same, Crew.lines]
  · rw [Crew.lines, fresh, Crew.lines, absent]
    rfl

theorem Keeps.turn? (keeps : crew.Keeps next) : next.turn? = crew.turn? := by
  have numbers (id : Nat) :
      (next.standing? id).bind (Standing.number? (next.pipeline.counters.cycles + 1)) =
        (crew.standing? id).bind (Standing.number? (crew.pipeline.counters.cycles + 1)) := by
    rcases keeps.stands id with same | ⟨absent, fresh⟩
    · rw [same, keeps.cycles]
    · rw [fresh, absent]
      rfl
  simp only [Crew.turn?, keeps.lock, numbers]

/-! ### Who stands in line -/

structure Lined (crew : Crew M) : Prop where
  wellFormed : crew.lock.WellFormed
  distinct : crew.lock.order.Nodup
  member : ∀ id, id ∈ crew.lock.order ↔ crew.lines id = true

theorem lined_make (name : String) (reporter : Reporter) : (make name reporter : Crew M).Lined where
  wellFormed := FairLock.wellFormed_free
  distinct := List.nodup_nil
  member id := by simp [make, FairLock.order, lines, standing?, runner?]

theorem Keeps.lined (keeps : crew.Keeps next) (lined : crew.Lined) : next.Lined where
  wellFormed := by
    rw [keeps.lock]
    exact lined.wellFormed
  distinct := by
    rw [keeps.lock]
    exact lined.distinct
  member id := by rw [keeps.lock, keeps.lines, lined.member]

theorem order_of_holder (holds : crew.lock.holder = some id) :
    crew.lock.order = id :: crew.lock.waiting := by
  simp [FairLock.order, holds]

theorem Lined.inLine_of_holds (lined : crew.Lined) (found : crew.runner? id = some runner)
    (holds : crew.lock.holder = some id) : runner.standing.inLine = true := by
  rw [← lines_of_found found, ← lined.member, order_of_holder holds]
  exact List.mem_cons_self

theorem holder_of_order {rest : List Nat} (lined : crew.Lined)
    (order : crew.lock.order = id :: rest) : crew.lock.holder = some id := by
  cases held : crew.lock.holder with
  | none => simp [FairLock.order, held, lined.wellFormed held] at order
  | some holder =>
      rw [order_of_holder held] at order
      exact congrArg some (List.cons.inj order).1

theorem stand_lines (found : crew.runner? id = some runner) :
    (crew.stand id standing).lines other =
      if other = id then standing.inLine else crew.lines other := by
  split
  · rename_i same
    rw [lines, same, standing?_stand_self found standing, Option.any_some]
  · rename_i different
    rw [lines, standing?_stand_of_ne different, lines]

theorem Lined.joins (lined : crew.Lined) (found : crew.runner? id = some runner)
    (out : runner.standing.inLine = false) (waits : standing.inLine = true) :
    ((crew.request id).stand id standing).Lined ∧
      ((crew.request id).stand id standing).lock.order = crew.lock.order ++ [id] := by
  have order : ((crew.request id).stand id standing).lock.order = crew.lock.order ++ [id] :=
    FairLock.order_request lined.wellFormed id
  have absent : id ∉ crew.lock.order := by
    rw [lined.member, lines_of_found found, out]
    simp
  have wellFormed : ((crew.request id).stand id standing).lock.WellFormed :=
    FairLock.wellFormed_request crew.lock id
  refine ⟨⟨wellFormed, ?_, fun other => ?_⟩, order⟩
  · rw [order]
    refine List.nodup_append.mpr ⟨lined.distinct, by simp, ?_⟩
    intro ahead member _ last same
    rw [same, List.mem_singleton.mp last] at member
    exact absent member
  · rw [order, stand_lines (by exact found), List.mem_append, List.mem_singleton, lined.member]
    by_cases same : other = id
    · simp [same, waits]
    · simp [same, lines, standing?, runner?, request]

theorem Lined.gives_up (lined : crew.Lined) (found : crew.runner? id = some runner)
    (holds : crew.lock.holder = some id) (out : standing.inLine = false) (pipeline : Pipeline M) :
    ({ crew with pipeline, lock := crew.lock.release }.stand id standing).Lined := by
  have order : crew.lock.release.order = crew.lock.waiting := by
    rw [FairLock.order_release lined.wellFormed, order_of_holder holds]
    rfl
  have distinct := lined.distinct
  rw [order_of_holder holds, List.nodup_cons] at distinct
  refine ⟨FairLock.wellFormed_release _, order ▸ distinct.2, fun other => ?_⟩
  have member := lined.member other
  rw [order_of_holder holds, List.mem_cons] at member
  have there : ({ crew with pipeline, lock := crew.lock.release } : Crew M).runner? id =
      some runner := found
  rw [stand_lines there]
  change other ∈ crew.lock.release.order ↔
    (if other = id then standing.inLine else crew.lines other) = true
  rw [order]
  by_cases same : other = id
  · subst other
    simp [out, distinct.1]
  · simpa [same] using member

theorem Lined.stays (lined : crew.Lined) (found : crew.runner? id = some runner)
    (same : standing.inLine = runner.standing.inLine) (pipeline : Pipeline M) :
    ({ crew with pipeline }.stand id standing).Lined := by
  refine ⟨lined.wellFormed, lined.distinct, fun other => ?_⟩
  rw [stand_lines (by exact found)]
  change other ∈ crew.lock.order ↔ _
  rw [lined.member]
  split
  · rename_i here
    rw [here, same, lines_of_found found]
  · rfl

theorem Opens.inLine {opening : List (Event M)} {turn : Turn M}
    (opens : crew.Opens id runner opening turn) : runner.standing.inLine = true := by
  cases opens with
  | begins stood | receives stood | receiveFails stood | processes stood | processFails stood =>
      rw [stood]
      rfl

theorem Concludes.out {result : Except CycleFailure CycleReport} {told : List (Event M)}
    (concludes : crew.Concludes id runner result standing told) : standing.inLine = false := by
  cases concludes <;> rfl

theorem inLine_of_waits {withdrawn : Prop}
    (waits : standing = .queued ∨ standing = .leaving ∧ withdrawn) : standing.inLine = true := by
  rcases waits with rfl | ⟨rfl, _⟩ <;> rfl

theorem out_of_idle (idle : runner.standing = .fresh ∨ runner.standing = .pausing) :
    runner.standing.inLine = false := by
  rcases idle with stood | stood <;> rw [stood] <;> rfl

/-- Whatever a runner does, the line is made up of those who stand in it. -/
theorem Lined.step {now : Nat} {cue : Cue M} (lined : crew.Lined) (orderly : crew.Orderly)
    (stepped : crew.step now id cue = some (next, events)) : next.Lined := by
  obtain ⟨runner, found, steps⟩ := step_cases stepped
  cases steps with
  | asks idle waits => exact (lined.joins found (out_of_idle idle) (inLine_of_waits waits)).1
  | leaves stood holds => exact lined.gives_up found holds rfl _
  | @settles _ turn opens =>
      cases went : turn.progress with
      | awaits await =>
          rw [settle_of_awaits went]
          have waits : (Standing.awaiting await).inLine = runner.standing.inLine := by
            rw [opens.inLine]
            rfl
          exact lined.stays found waits _
      | ended result =>
          obtain ⟨standing, told, concludes, settled⟩ := settle_concludes crew id runner went
          rw [settled]
          exact lined.gives_up found (opens.holds orderly found) concludes.out _

/-! ### Whose turn it is -/

theorem turn?_eq_some_iff : crew.turn? = some (id, number) ↔
    crew.lock.holder = some id ∧ ∃ standing, crew.standing? id = some standing ∧
      standing.number? (crew.pipeline.counters.cycles + 1) = some number := by
  cases held : crew.lock.holder with
  | none => simp [turn?, held]
  | some holder =>
      simp only [turn?, held, Option.bind_some, Option.map_eq_some_iff, Option.bind_eq_some_iff,
        Prod.mk.injEq, Option.some.injEq]
      constructor
      · rintro ⟨_, ⟨standing, stood, numbered⟩, rfl, rfl⟩
        exact ⟨rfl, standing, stood, numbered⟩
      · rintro ⟨rfl, standing, stood, numbered⟩
        exact ⟨number, ⟨standing, stood, numbered⟩, rfl, rfl⟩

/-- The front of the line is about to begin the next cycle, or in the one in progress. -/
theorem turn_cases (turn : crew.turn? = some (id, number)) :
    (crew.lock.holder = some id ∧ crew.standing? id = some .queued ∧ crew.current? = none ∧
        number = crew.pipeline.counters.cycles + 1) ∨
      ∃ await, crew.current? = some (id, await) ∧ number = await.cycle := by
  obtain ⟨holds, standing, stood, numbered⟩ := turn?_eq_some_iff.mp turn
  have waits := awaitOf?_eq_standing crew id
  rw [stood] at waits
  cases standing with
  | queued =>
      cases numbered
      refine .inl ⟨holds, stood, ?_, rfl⟩
      simp [current?, holds, show crew.awaitOf? id = none from waits]
  | awaiting await =>
      cases numbered
      exact .inr ⟨await, current?_eq_some_iff.mpr ⟨holds, waits⟩, rfl⟩
  | fresh | pausing | leaving | exited | crashed => cases numbered

theorem turn?_of_rest (rests : crew.current? = none) (turn : crew.turn? = some (id, number)) :
    number = crew.pipeline.counters.cycles + 1 := by
  rcases turn_cases turn with ⟨_, _, _, numbered⟩ | ⟨await, current, _⟩
  · exact numbered
  · cases rests.symm.trans current

theorem turn?_of_current {await : Await M} (current : crew.current? = some (id, await)) :
    crew.turn? = some (id, await.cycle) := by
  obtain ⟨holds, waits⟩ := current?_eq_some_iff.mp current
  rw [awaitOf?_eq_standing] at waits
  obtain ⟨standing, stood, awaits⟩ := Option.bind_eq_some_iff.mp waits
  refine turn?_eq_some_iff.mpr ⟨holds, standing, stood, ?_⟩
  cases standing <;> cases awaits
  rfl

theorem turn?_of_queued (holds : crew.lock.holder = some id)
    (stood : crew.standing? id = some .queued) :
    crew.turn? = some (id, crew.pipeline.counters.cycles + 1) :=
  turn?_eq_some_iff.mpr ⟨holds, .queued, stood, rfl⟩

end Crew

end Batching

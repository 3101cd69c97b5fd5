import Batching.Proofs.Underway
import Batching.Proofs.Withdrawal

namespace Batching

/-! What a stop or a drop puts an end to.

From the moment at which a stop is accepted, or the accumulator is dropped, none of the
workers hired so far calls the source or the sink again.  What remains is the answer to
the one call that may be under way, which the layers of the sink may still deliver again.
-/

variable {M : Type}

namespace Accumulator

variable {before after : Accumulator M} {now : Nat} {events : List (Event M)}

theorem release_of_step_drop (stepped : before.step now .drop = some (after, events)) :
    after = before.release := by
  simp only [step] at stepped
  split at stepped
  · cases stepped
  · cases stepped
    rfl

theorem Orderly.barred (orderly : before.Orderly) (inactive : before.active = none) :
    before.crew.Barred before.crew.runners.length where
  hired := Nat.le_refl _
  withdrawn worker _ := orderly.withdrawn inactive worker

end Accumulator

namespace Outlet

variable {outlet start next last : Outlet M} {events : List (OutletEvent M)}
  {moves : List (Nat × OutletMove M)} {count : Nat}

/-- The workers hired so far. -/
def hired (outlet : Outlet M) : Nat :=
  outlet.accumulator.crew.runners.length

theorem Orderly.barred_step {now : Nat} {move : OutletMove M} (orderly : outlet.Orderly)
    (barred : outlet.accumulator.crew.Barred count)
    (stepped : outlet.step now move = some (next, events)) :
    next.accumulator.crew.Barred count := by
  rcases (step_moves stepped).shown with ⟨same, _⟩ | ⟨time, life, advanced⟩
  · exact same ▸ barred
  · exact (orderly.accumulator.step_evolves advanced).barred barred

/-- For a barred runner nothing is delivered but the message that is under way already. -/
theorem Orderly.barred_delivers {now runner : Nat} {move : OutletMove M} {message : M}
    (orderly : outlet.Orderly) (withdrawn : outlet.accumulator.crew.allows runner = false)
    (stepped : outlet.step now move = some (next, events)) :
    (next.message? runner = some message → outlet.message? runner = some message) ∧
      (.deliveryBegan runner message ∈ events → outlet.message? runner = some message) := by
  have unbegun {time cycle : Nat} {life : Move M} {accumulator : Accumulator M}
      {seen : List (Event M)} (advanced : outlet.accumulator.step time life =
        some (accumulator, seen)) : .processBegan runner cycle message ∉ seen := by
    intro began
    have permitted := (orderly.accumulator.step_evolves advanced).caller began rfl
    exact nomatch withdrawn.symm.trans permitted
  -- So only a pause and its end are left, and both keep to the message under way.
  cases step_moves stepped with
  | lives _ advanced followed =>
      constructor
      · intro delivers
        rcases message?_followAll followed delivers with earlier | ⟨cycle, began⟩
        · exact earlier
        · exact absurd began (unbegun advanced)
      · intro delivered
        obtain ⟨cycle, began⟩ := deliveryBegan_followAll followed delivered
        exact absurd began (unbegun advanced)
  | ends notices advanced followed =>
      constructor
      · intro delivers
        rcases message?_followAll followed delivers with earlier | ⟨cycle, began⟩
        · exact (message?_of_finish earlier).1
        · exact absurd began (unbegun advanced)
      · intro delivered
        rcases List.mem_append.mp delivered with noted | rest
        · simp at noted
        · obtain ⟨cycle, began⟩ := deliveryBegan_followAll followed rest
          exact absurd began (unbegun advanced)
  | pauses layers notices found same =>
      refine ⟨fun delivers => message?_of_enter delivers found same, fun delivered => ?_⟩
      simp at delivered
  | redelivers found =>
      refine ⟨fun delivers => message?_of_enter delivers found rfl, fun delivered => ?_⟩
      simp only [List.mem_singleton, OutletEvent.deliveryBegan.injEq] at delivered
      obtain ⟨rfl, rfl⟩ := delivered
      rw [message?, found]
      rfl

theorem run?_barred_delivers (orderly : start.Orderly)
    (barred : start.accumulator.crew.Barred count) (ran : start.run? moves = some (last, events)) :
    ∀ runner < count, ∀ message,
      .deliveryBegan runner message ∈ events → start.message? runner = some message := by
  have followed := follow?_induction
    (fun outlet => outlet.Orderly ∧ outlet.accumulator.crew.Barred count)
    (fun start events last => ∀ runner < count, ∀ message,
      (last.message? runner = some message → start.message? runner = some message) ∧
        (.deliveryBegan runner message ∈ events → start.message? runner = some message))
    (fun ⟨orderly, barred⟩ stepped => ⟨orderly.step stepped, orderly.barred_step barred stepped⟩)
    (fun _ _ _ _ => ⟨fun delivers => delivers, nofun⟩) ?_ ⟨orderly, barred⟩ ran
  · exact fun runner within message => (followed.2 runner within message).2
  · intro now state move next seen last more ⟨orderly, barred⟩ stepped _ rest runner within message
    obtain ⟨later, delivered⟩ := rest runner within message
    obtain ⟨earlier, began⟩ :=
      orderly.barred_delivers (barred.withdrawn runner within) stepped
    refine ⟨fun delivers => earlier (later delivers), fun member => ?_⟩
    rcases List.mem_append.mp member with now | rest
    · exact began now
    · exact earlier (delivered rest)

theorem Orderly.current_of_message (orderly : outlet.Orderly) {runner : Nat} {message : M}
    (delivers : outlet.message? runner = some message) :
    ∃ cycle received reason dispatched, outlet.accumulator.crew.current? =
      some (runner, .process cycle received reason dispatched message) := by
  obtain ⟨await, waits, given⟩ := Option.bind_eq_some_iff.mp (orderly.delivers delivers)
  cases await with
  | receive => cases given
  | process cycle received reason dispatched held =>
      cases given
      exact ⟨cycle, received, reason, dispatched, orderly.accumulator.crew.current? waits⟩

/-! ### The moment of the stop -/

/-- A stop takes a running accumulator to its stop, or the accumulator is dropped. -/
def Halts (outlet : Outlet M) (move : OutletMove M) (halted : Outlet M) : Prop :=
  (∃ call, move = .life (.begin call) ∧ outlet.accumulator.state = .running ∧
    halted.accumulator.state = .stopping) ∨
  move = .life .drop

theorem advance_shows {now : Nat} {life : Move M}
    (stepped : outlet.advance now life = some (next, events)) :
    outlet.accumulator.step now life = some (next.accumulator, shown events) := by
  obtain ⟨accumulator, seen, advanced, followed⟩ := advance_cases stepped
  obtain ⟨same, all⟩ := followAll_shows followed
  rw [same, all]
  exact advanced

theorem Orderly.barred_of_halts {now : Nat} {move : OutletMove M} (orderly : outlet.Orderly)
    (stepped : outlet.step now move = some (next, events)) (halts : outlet.Halts move next) :
    next.accumulator.crew.Barred next.hired := by
  have after := orderly.step stepped
  refine after.accumulator.barred ?_
  rcases halts with ⟨call, rfl, _, stopping⟩ | rfl
  · exact after.accumulator.inactive (by simp [stopping])
  · rw [Accumulator.release_of_step_drop (advance_shows stepped)]
    exact outlet.accumulator.release_active

theorem Orderly.staged_of_begin {now : Nat} {call : Call} (orderly : outlet.Orderly)
    (stepped : outlet.step now (.life (.begin call)) = some (next, events))
    (was : outlet.accumulator.state = .running) (stops : next.accumulator.state = .stopping) :
    next.accumulator.stage? outlet.accumulator.callers.length = some .stopping :=
  (Accumulator.step_begin_carries orderly.accumulator.manned
    (advance_shows stepped)).stopping was stops

/-- Whatever has happened before a stop or a drop, and whatever happens after it: no worker
hired by then calls the source or the sink again, and the base sink is given nothing for it
but once more the message of the call that was under way.  What the sink is called with
afterwards has arrived with a later worker, and an answer of the source to an earlier one
leaves the batch empty.  Once the stop is over the batch is empty until the next start. -/
theorem no_traffic_after_halt (name : String) (policy : Policy) (reporter : Reporter)
    (sink : String) (layers : List Layer) {before more : List (Nat × OutletMove M)}
    {reached halted last : Outlet M} {earlier seen after : List (OutletEvent M)} {now : Nat}
    {move : OutletMove M}
    (ran : (make name policy reporter sink layers).run? before = some (reached, earlier))
    (stepped : reached.step now move = some (halted, seen)) (halts : reached.Halts move halted)
    (continued : halted.run? more = some (last, after)) :
    (∀ worker < halted.hired,
      (∀ cycle timeout, .seen (.receiveBegan worker cycle timeout) ∉ after) ∧
      (∀ cycle message, .seen (.processBegan worker cycle message) ∉ after) ∧
      ∀ message, .deliveryBegan worker message ∈ after →
        ∃ cycle received reason dispatched, halted.accumulator.crew.current? =
          some (worker, .process cycle received reason dispatched message)) ∧
    (handovers (shown after)).Sublist
      ((arrivals (shown after)).filter fun handled => halted.hired ≤ handled.runner) ∧
    (∀ now move next seen worker cycle outcome,
      last.step now move = some (next, seen) → worker < halted.hired →
      .seen (.receiveEnded worker cycle outcome) ∈ seen →
        next.accumulator.pending = 0 ∧
          ∀ runner cycle message, .seen (.processBegan runner cycle message) ∉ seen) ∧
    (move ≠ .life .drop →
      (∀ name, .seen (.logged (.starting name)) ∉ after) →
      (∃ result, .seen (.returned reached.accumulator.callers.length result) ∈ after) ∨
        last.accumulator.state ≠ .stopping →
      last.accumulator.state = .stopped ∧ last.accumulator.pending = 0) := by
  have orderly := (orderly_make name policy reporter sink layers).run? ran
  have orderlyHalted := orderly.step stepped
  have barred := orderly.barred_of_halts stepped halts
  obtain ⟨life, alone⟩ := run?_shown continued
  obtain ⟨barredLast, quiet⟩ :=
    Accumulator.run?_barred orderlyHalted.accumulator barred alone
  have orderlyLast := orderlyHalted.run? continued
  refine ⟨fun worker within => ⟨fun cycle timeout began => ?_, fun cycle message began => ?_,
    fun message delivered => ?_⟩, ?_, ?_, ?_⟩
  · have later := quiet _ (mem_shown_iff.mpr began) worker rfl
    omega
  · have later := quiet _ (mem_shown_iff.mpr began) worker rfl
    omega
  · exact orderlyHalted.current_of_message
      (run?_barred_delivers orderlyHalted barred continued worker within message delivered)
  · exact Accumulator.run?_later_traffic orderlyHalted.accumulator barred alone
  · intro now move next seen worker cycle outcome resumed within received
    have shownReceived := mem_shown_iff.mpr received
    rcases (step_moves resumed).shown with ⟨_, nothing⟩ | ⟨time, life, advanced⟩
    · rw [nothing] at shownReceived
      cases shownReceived
    · have evolves := orderlyLast.accumulator.step_evolves advanced
      obtain ⟨empty, silent⟩ := evolves.empty_of_received barredLast shownReceived within
      refine ⟨empty, fun runner cycle message began => ?_⟩
      exact nomatch silent _ (mem_shown_iff.mpr began)
  · intro stop unstarted settled
    rcases halts with ⟨call, rfl, was, stops⟩ | rfl
    · have staged := orderly.staged_of_begin stepped was stops
      have ended := Accumulator.run?_stops orderlyHalted.accumulator alone
        (fun name member => unstarted name (mem_shown_iff.mp member)) staged
      have stopped : last.accumulator.state = .stopped := by
        rcases ended with stopped | ⟨still, unreturned⟩
        · exact stopped
        · rcases settled with ⟨result, returned⟩ | changed
          · exact absurd (mem_shown_iff.mpr returned) (unreturned result)
          · exact absurd (orderlyLast.accumulator.staged still) changed
      exact ⟨stopped,
        List.length_eq_zero_iff.mpr (orderlyLast.accumulator.still (.inl stopped))⟩
    · exact absurd rfl stop

/-- A stop while the first of two messages is with the sink, which refuses it once. -/
def untilHandover : List (Nat × OutletMove Nat) :=
  [(0, .life (.begin .start)), (0, .life (.answer 0 (.ok ()))), (0, .life (.answer 0 (.ok ()))),
    (0, .life (.answer 0 (.ok ()))), (0, .life (.worker 0 .resume)),
    (0, .life (.worker 0 .resume)), (1, .life (.worker 0 (.received (.returned (some 7))))),
    (2, .life (.worker 0 (.received (.returned (some 8)))))]

def redelivered : List (Nat × OutletMove Nat) :=
  [(4, .delivered 0 (.failed (.process "refused"))), (14, .redeliver 0),
    (15, .delivered 0 (.returned ())), (16, .life (.answer 1 (.ok ()))),
    (16, .life (.answer 1 (.ok ())))]

def redeliveredSeen : List (OutletEvent Nat) :=
  [.noted (.deliveryRetried "sink" 1 3 (.process "refused")), .paused 0 10, .deliveryBegan 0 7,
    .seen (.processEnded 0 1 7 (.returned ())), .seen (.logged (.batchDropped "pair" 1 1)),
    .seen (.logged (.cycleComplete "pair" 1 2 1 .batchSize)),
    .seen (.cycleEnded 0 (.ok ⟨1, 2, 1, .batchSize⟩)), .seen (.answered 1 .stopSink (.ok ())),
    .seen (.requested 1 .stopSource), .seen (.answered 1 .stopSource (.ok ())),
    .seen (.logged (.stopped "pair")), .seen (.returned 1 (.ok ()))]

/-- The message that was with the sink is delivered once more, the other one never. -/
theorem no_traffic_after_halt_of_two :
    ∃ reached halted last earlier seen,
      (make "pair" ⟨2, none, 50⟩ (.logging "pair") "sink" [.retry 3 10]).run? untilHandover =
        some (reached, earlier) ∧
      reached.step 3 (.life (.begin .stop)) = some (halted, seen) ∧
      halted.run? redelivered = some (last, redeliveredSeen) ∧
      (∃ cycle received reason dispatched, halted.accumulator.crew.current? =
        some (0, .process cycle received reason dispatched 7)) ∧
      last.accumulator.state = .stopped ∧ last.accumulator.pending = 0 := by
  obtain ⟨reached, halted, last, earlier, seen, ran, stepped, continued, callers, hired, was,
      stops⟩ : ∃ reached halted last earlier seen,
      (make "pair" ⟨2, none, 50⟩ (.logging "pair") "sink" [.retry 3 10]).run? untilHandover =
        some (reached, earlier) ∧
      reached.step 3 (.life (.begin .stop)) = some (halted, seen) ∧
      halted.run? redelivered = some (last, redeliveredSeen) ∧
      reached.accumulator.callers.length = 1 ∧ halted.hired = 1 ∧
      reached.accumulator.state = .running ∧ halted.accumulator.state = .stopping :=
    ⟨_, _, _, _, _, rfl, rfl, rfl, rfl, rfl, rfl, rfl⟩
  obtain ⟨quiet, _, _, empty⟩ := no_traffic_after_halt _ _ _ _ _ ran stepped
    (.inl ⟨.stop, rfl, was, stops⟩) continued
  refine ⟨reached, halted, last, earlier, seen, ran, stepped, continued, ?_, ?_⟩
  · exact (quiet 0 (by omega)).2.2 7 (by simp [redeliveredSeen])
  · have returned : ∃ result,
        .seen (.returned reached.accumulator.callers.length result) ∈ redeliveredSeen :=
      ⟨.ok (), by simp [redeliveredSeen, callers]⟩
    exact empty nofun (by simp [redeliveredSeen]) (.inl returned)

end Outlet

end Batching

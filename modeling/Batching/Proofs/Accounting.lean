import Mathlib.Algebra.GroupWithZero.Nat
import Batching.Proofs.Traffic

namespace Batching

/-! What becomes of every message received.

A message that the source has returned is in the batch, in the hands of the sink, or
counted: as dispatched, or as discarded.  Two kinds go without being counted.  The sink
keeps the message whose call fails, and a stop that finds messages in the batch clears
them.
-/

variable {M : Type}

namespace Event

/-- A cycle given up because the sink failed. -/
def isRefusal : Event M → Bool
  | .cycleEnded _ (.error failure) => failure.phase == .drain
  | _ => false

def cleared? : Event M → Option Nat
  | .logged (.clearedOnStop _ dropped) => some dropped
  | _ => none

end Event

/-- The cycles that have failed in their drain phase. -/
def refusals (events : List (Event M)) : Nat :=
  events.countP Event.isRefusal

/-- The messages that stops have cleared. -/
def clearances (events : List (Event M)) : Nat :=
  (events.filterMap Event.cleared?).sum

section

variable {first rest events : List (Event M)}

theorem refusals_append : refusals (first ++ rest) = refusals first + refusals rest :=
  List.countP_append

theorem clearances_append : clearances (first ++ rest) = clearances first + clearances rest := by
  simp [clearances]

theorem refusals_of_quiet (quiet : events.all Event.isQuiet = true) : refusals events = 0 := by
  refine List.countP_eq_zero.mpr fun event member => ?_
  have still := List.all_eq_true.mp quiet event member
  cases event <;> simp_all [Event.isQuiet, Event.isRefusal]

theorem clearances_of_silent (silent : ∀ event ∈ events, event.cleared? = none) :
    clearances events = 0 := by
  rw [clearances, List.filterMap_eq_nil_iff.mpr silent, List.sum_nil]

end

/-! ### One stretch of a cycle -/

def Progress.inHand : Progress M → Nat
  | .awaits await => await.inHand.length
  | .ended _ => 0

def Progress.refused : Progress M → Nat
  | .ended (.error failure) => if failure.phase = .drain then 1 else 0
  | _ => 0

namespace Pipeline

variable {pipeline : Pipeline M} {turn : Turn M} {others : Nat}

/-- Of the messages received, all but `others` are counted or in the batch. -/
def Balances (pipeline : Pipeline M) (others : Nat) : Prop :=
  pipeline.counters.received = pipeline.counters.dispatched + pipeline.counters.discarded +
    pipeline.batch.size + others

theorem Balances.emptied (balances : pipeline.Balances others) :
    pipeline.emptied.Balances others := by
  simp only [Balances, Pipeline.emptied, Counters.countDropped, Batch.size_eq_length,
    Batch.toList_empty, List.length_nil] at balances ⊢
  omega

theorem Balances.abandon (balances : pipeline.Balances others) (cycle : Nat) (phase : Phase)
    (cause : Failure) : (pipeline.abandon cycle phase cause).pipeline.Balances others := by
  simp only [Balances, Pipeline.abandon, Counters.countFailure, Batch.size_eq_length,
    Batch.toList_empty, List.length_nil] at balances ⊢
  omega

theorem Balances.noteReceived (balances : pipeline.Balances others) (allowed : Bool)
    (answer : Option M) : (pipeline.noteReceived allowed answer).Balances others := by
  cases answer with
  | none => exact balances
  | some message =>
      cases allowed <;>
        simp only [Balances, Pipeline.noteReceived, Counters.countReceived, Counters.countDropped,
          Batch.size_eq_length, Batch.toList_append, List.length_append, List.length_singleton,
          if_true, Bool.false_eq_true, if_false] at balances ⊢ <;>
        omega

theorem Balances.noteProcessed (balances : pipeline.Balances (1 + others)) :
    pipeline.noteProcessed.Balances others := by
  simp only [Balances, Pipeline.noteProcessed, Counters.countDispatched] at balances ⊢
  omega

/-- A stretch takes at most one message from the batch, into the hands of the sink. -/
theorem Continues.balances {allowed : Bool} {cycle : Nat}
    (continues : pipeline.Continues allowed cycle turn) (balances : pipeline.Balances others) :
    turn.pipeline.Balances (turn.progress.inHand + others) ∧ turn.progress.refused = 0 := by
  cases continues with
  | @calls await batch _ _ _ kept _ =>
      refine ⟨?_, rfl⟩
      have size := congrArg List.length kept
      simp only [Balances, Batch.size_eq_length, List.length_append, Progress.inHand]
        at balances size ⊢
      omega
  | completes =>
      refine ⟨?_, rfl⟩
      simpa [Progress.inHand] using balances.emptied

end Pipeline

namespace Crew

variable {crew next : Crew M} {id : Nat} {runner : Runner M} {events : List (Event M)}
  {lost : Nat}

def inHand (crew : Crew M) : Nat :=
  match crew.current? with
  | some (_, await) => await.inHand.length
  | none => 0

theorem inHand_of_current {await : Await M} (current : crew.current? = some (id, await)) :
    crew.inHand = await.inHand.length := by
  simp only [inHand, current]

theorem inHand_of_rest (rests : crew.current? = none) : crew.inHand = 0 := by
  simp only [inHand, rests]

theorem inHand_congr (current : next.current? = crew.current?) : next.inHand = crew.inHand := by
  simp only [inHand, current]

/-- Of the messages received, all but `lost` are counted, in the batch or in the hands of
the sink. -/
def Accounts (crew : Crew M) (lost : Nat) : Prop :=
  crew.pipeline.Balances (crew.inHand + lost)

theorem Accounts.congr (accounts : crew.Accounts lost) (current : next.current? = crew.current?)
    (batch : next.pipeline.batch = crew.pipeline.batch)
    (received : next.pipeline.counters.received = crew.pipeline.counters.received)
    (dispatched : next.pipeline.counters.dispatched = crew.pipeline.counters.dispatched)
    (discarded : next.pipeline.counters.discarded = crew.pipeline.counters.discarded) :
    next.Accounts lost := by
  rw [Accounts, Pipeline.Balances, received, dispatched, discarded, batch, inHand_congr current]
  exact accounts

/-- A stretch loses a message only if the sink refuses it. -/
theorem Opens.balances {opening : List (Event M)} {turn : Turn M} (orderly : crew.Orderly)
    (found : crew.runner? id = some runner) (opens : crew.Opens id runner opening turn)
    (accounts : crew.Accounts lost) :
    turn.pipeline.Balances (turn.progress.inHand + (lost + turn.progress.refused)) := by
  have continued {noted : Pipeline M} {cycle : Nat}
      (continues : noted.Continues runner.allowed cycle turn) (balances : noted.Balances lost) :
      turn.pipeline.Balances (turn.progress.inHand + (lost + turn.progress.refused)) := by
    obtain ⟨after, kept⟩ := continues.balances balances
    rw [kept]
    exact after
  -- The message in hand is settled by the answer: dispatched, refused, or there was none.
  have inHand {await : Await M} (stood : runner.standing = .awaiting await) :
      crew.inHand = await.inHand.length :=
    inHand_of_current (orderly.current? (awaitOf?_eq_some_of_stood found stood))
  cases opens with
  | begins stood holds continues =>
      have rests := current?_eq_none_of_stood found holds (by rw [stood]; rfl)
      rw [Accounts, inHand_of_rest rests, Nat.zero_add] at accounts
      exact continued continues accounts
  | receives stood continues =>
      rw [Accounts, inHand stood] at accounts
      simp only [Await.inHand, List.length_nil, Nat.zero_add] at accounts
      exact continued continues (accounts.noteReceived ..)
  | receiveFails stood failed =>
      rw [Accounts, inHand stood] at accounts
      exact accounts.abandon _ .fill _
  | processes stood continues =>
      rw [Accounts, inHand stood] at accounts
      exact continued continues accounts.noteProcessed
  | @processFails cycle _ _ _ message _ cause stood failed =>
      have refused : crew.inHand + lost = 0 + (lost + 1) := by
        rw [inHand stood, Nat.zero_add, Nat.add_comm lost 1]
        rfl
      rw [Accounts, refused] at accounts
      exact accounts.abandon cycle .drain cause

theorem Opens.refusals {opening : List (Event M)} {turn : Turn M}
    (opens : crew.Opens id runner opening turn) :
    refusals (opening ++ (crew.settle id runner turn).2) = turn.progress.refused := by
  have quiet := refusals_of_quiet (quiet_notices (M := M) opens.told)
  have opened : Batching.refusals opening = 0 := by cases opens <;> rfl
  cases went : turn.progress with
  | awaits await =>
      rw [settle_of_awaits went, refusals_append, refusals_append, opened, quiet]
      cases await <;> rfl
  | ended result =>
      obtain ⟨standing, told, settled, _, aftermath⟩ := settle_of_ended crew id runner went
      have after := refusals_of_quiet (quiet_of_aftermath aftermath)
      rw [settled, List.append_cons, refusals_append, refusals_append, refusals_append, opened,
        quiet, after]
      cases result with
      | ok report => rfl
      | error failure =>
          simp only [Progress.refused]
          cases phase : failure.phase <;>
            simp [Batching.refusals, Event.isRefusal, phase]

theorem inHand_settle {opening : List (Event M)} {turn : Turn M} (orderly : crew.Orderly)
    (found : crew.runner? id = some runner) (opens : crew.Opens id runner opening turn) :
    (crew.settle id runner turn).1.inHand = turn.progress.inHand := by
  have holds := opens.holds orderly found
  cases went : turn.progress with
  | awaits await => exact inHand_of_current (orderly.of_settle_awaits found holds went).2
  | ended result =>
      exact inHand_of_rest (orderly.of_settle_ended runner holds went (opens.drained went)).2

theorem Steps.accounts (orderly : crew.Orderly) (found : crew.runner? id = some runner)
    (steps : crew.Steps id runner next events) (accounts : crew.Accounts lost) :
    next.Accounts (lost + refusals events) := by
  cases steps with
  | asks idle waits told =>
      rw [refusals_of_quiet (quiet_of_asks told), Nat.add_zero]
      exact accounts.congr
        (current?_request_stand orderly found (rested_of_idle idle) (rests_of_waits waits))
        rfl rfl rfl rfl
  | leaves stood holds =>
      have rests := current?_eq_none_of_stood found holds (by rw [stood]; rfl)
      rw [refusals_of_quiet quiet_of_leaves, Nat.add_zero]
      have empty : crew.pipeline.batch = Batch.empty := Batch.ext_toList (orderly.drained rests)
      exact accounts.congr ((orderly.of_leaves holds).2.trans rests.symm) empty.symm rfl rfl rfl
  | settles _ opens =>
      rw [opens.refusals, Accounts, pipeline_settle, inHand_settle orderly found opens]
      exact opens.balances orderly found accounts

end Crew

namespace Accumulator

variable {before after start last : Accumulator M} {id lost : Nat} {events : List (Event M)}
  {moves : List (Nat × Move M)}

theorem Carries.refusals (carried : before.Carries id after events) : refusals events = 0 := by
  refine List.countP_eq_zero.mpr fun event member => ?_
  have call := carried.isOfCall member
  cases event with
  | cycleEnded => cases call
  | _ => exact nofun

theorem clearances_majors (events : List (Event M)) :
    clearances (majors events) = clearances events := by
  rw [clearances, clearances, majors, List.filterMap_filter]
  congr 2
  funext event
  cases event with
  | logged notice => cases notice <;> rfl
  | _ => rfl

theorem clearances_clearing (accumulator : Accumulator M) :
    clearances accumulator.clearing = accumulator.pending := by
  unfold clearing
  split
  · simp [clearances, Event.cleared?]
  · rename_i none
    exact (Nat.eq_zero_of_not_pos none).symm

theorem accounts_cleared {crew : Crew M} (accounts : crew.Accounts lost) :
    crew.cleared.Accounts (lost + crew.pending) := by
  have inHand : crew.cleared.inHand = crew.inHand := rfl
  simp only [Crew.Accounts, Pipeline.Balances, inHand] at accounts ⊢
  simp only [Crew.cleared, Crew.pending, Batch.size_eq_length, Batch.toList_empty,
    List.length_nil] at accounts ⊢
  omega

/-- Of the calls of the owner only a stop loses messages, those that it clears. -/
theorem Carries.accounts (carried : before.Carries id after events)
    (accounts : before.crew.Accounts lost) :
    after.crew.Accounts (lost + clearances events) := by
  have current := carried.current?
  rw [← clearances_majors]
  cases carried with
  | passes _ _ life told | starts _ _ life told | fails _ _ life told | launches _ _ _ life told
  | stops _ _ _ life told =>
      have crew : after.crew = _ := congrArg Life.crew life
      rw [told]
      exact accounts.congr current (by rw [crew]; rfl) (by rw [crew]; rfl) (by rw [crew]; rfl)
        (by rw [crew]; rfl)
  | finishes _ _ life told =>
      have crew : after.crew = before.crew.cleared := congrArg Life.crew life
      rw [told, crew, clearances_clearing]
      exact accounts_cleared accounts

theorem cleared?_of_tells {crew next : Crew M} {runner : Runner M} {event : Event M}
    (tells : crew.Tells next id runner event) : event.cleared? = none := by
  cases tells with
  | starts | exits | receives | processes | ends => rfl
  | @calls await _ _ _ called => cases await <;> exact called ▸ rfl
  | follows aftermath =>
      cases event with
      | logged notice => cases notice <;> first | rfl | cases aftermath
      | _ => rfl

/-- A move loses the messages that the sink refuses or that a stop clears, and no other. -/
theorem Evolves.accounts {now : Nat} {move : Move M} (orderly : before.Orderly)
    (evolves : before.Evolves now move after events) (accounts : before.crew.Accounts lost) :
    after.crew.Accounts (lost + (refusals events + clearances events)) := by
  cases evolves with
  | carries carried =>
      rw [carried.refusals, Nat.zero_add]
      exact carried.accounts accounts
  | works stepped =>
      obtain ⟨runner, found, steps⟩ := Crew.step_cases stepped
      rw [clearances_of_silent fun _ member => cleared?_of_tells (steps.tells found member),
        Nat.add_zero]
      exact steps.accounts orderly.crew found accounts
  | drops =>
      have pipeline := before.release_pipeline
      exact accounts.congr before.release_current? (by rw [pipeline]) (by rw [pipeline])
        (by rw [pipeline]) (by rw [pipeline])

theorem run?_accounts (orderly : start.Orderly) (accounts : start.crew.Accounts lost)
    (ran : start.run? moves = some (last, events)) :
    last.crew.Accounts (lost + (refusals events + clearances events)) := by
  have followed := run?_induction
    (fun start events last => ∀ lost, start.crew.Accounts lost →
      last.crew.Accounts (lost + (refusals events + clearances events)))
    (fun _ accounts => accounts) ?_ orderly ran
  · exact followed lost accounts
  · intro now move state next seen last more orderly evolves rest lost accounts
    have after := rest _ (evolves.accounts orderly accounts)
    rw [refusals_append, clearances_append]
    have sum : lost + (refusals seen + clearances seen) + (refusals more + clearances more) =
        lost + (refusals seen + refusals more + (clearances seen + clearances more)) := by omega
    exact sum ▸ after

/-! ### The counters between cycles -/

theorem Evolves.cleared_pos {now : Nat} {move : Move M}
    (evolves : before.Evolves now move after events) {name : String} {dropped : Nat}
    (cleared : .logged (.clearedOnStop name dropped) ∈ events) : 0 < dropped := by
  cases evolves with
  | carries carried =>
      have major : .logged (.clearedOnStop name dropped) ∈ majors events :=
        List.mem_filter.mpr ⟨cleared, rfl⟩
      cases carried with
      | passes _ _ _ told | starts _ _ _ told | fails _ _ _ told | launches _ _ _ _ told
      | stops _ _ _ _ told =>
          simp [told] at major
      | finishes _ _ _ told =>
          rw [told, clearing] at major
          split at major
          · rename_i some
            have same := List.mem_singleton.mp major
            simp only [Event.logged.injEq, Notice.clearedOnStop.injEq] at same
            exact same.2 ▸ some
          · cases major
  | works stepped =>
      obtain ⟨runner, found, steps⟩ := Crew.step_cases stepped
      have unseen := cleared?_of_tells (steps.tells found cleared)
      cases unseen
  | drops => cases cleared

theorem run?_cleared_pos (orderly : start.Orderly) (ran : start.run? moves = some (last, events)) :
    ∀ name dropped, .logged (.clearedOnStop name dropped) ∈ events → 0 < dropped := by
  refine run?_induction
    (fun _ events _ => ∀ name dropped,
      .logged (.clearedOnStop name dropped) ∈ events → 0 < dropped)
    (fun _ _ => nofun) ?_ orderly ran
  intro now move state next seen last more orderly evolves rest name dropped cleared
  rcases List.mem_append.mp cleared with early | late
  · exact evolves.cleared_pos early
  · exact rest name dropped late

/-- With no cycle in progress every message received has been counted as dispatched or as
discarded, was refused by the sink, or was cleared by a stop.  So the counters account for
all but the refused messages exactly as long as no stop has found a message in the batch. -/
theorem counters_balance_iff (name : String) (policy : Policy) (reporter : Reporter)
    (moves : List (Nat × Move M)) {accumulator : Accumulator M}
    (ran : (make name policy reporter).run? moves = some (accumulator, events))
    (rests : accumulator.crew.current? = none) :
    accumulator.stats.counters.received =
        accumulator.stats.counters.dispatched + accumulator.stats.counters.discarded +
          refusals events + clearances events ∧
      (accumulator.stats.counters.received =
          accumulator.stats.counters.dispatched + accumulator.stats.counters.discarded +
            refusals events ↔
        ∀ name dropped, .logged (.clearedOnStop name dropped) ∉ events) := by
  have orderly := orderly_make (M := M) name policy reporter
  have nothing : (make name policy reporter : Accumulator M).crew.Accounts 0 := rfl
  have accounts := run?_accounts orderly nothing ran
  have drained := (run?_orderly name policy reporter ran).crew.drained rests
  have balance : accumulator.stats.counters.received =
      accumulator.stats.counters.dispatched + accumulator.stats.counters.discarded +
        refusals events + clearances events := by
    simp only [Crew.Accounts, Pipeline.Balances, Crew.inHand_of_rest rests, Batch.size_eq_length,
      drained, List.length_nil] at accounts
    simp only [stats]
    omega
  refine ⟨balance, fun equal name dropped cleared => ?_, fun uncleared => ?_⟩
  · have positive := run?_cleared_pos orderly ran name dropped cleared
    have none : clearances events = 0 := by omega
    have zero := List.sum_eq_zero_iff_forall_eq_nat.mp none dropped
      (List.mem_filterMap.mpr ⟨_, cleared, rfl⟩)
    omega
  · have none : clearances events = 0 := by
      refine clearances_of_silent fun event member => ?_
      cases event with
      | logged notice =>
          cases notice with
          | clearedOnStop name dropped => exact absurd member (uncleared name dropped)
          | _ => rfl
      | _ => rfl
    omega

/-- A cycle that the sink gives up on: one of its messages is refused, the other discarded. -/
def refusedOnce : List (Nat × Move Nat) :=
  [(0, .begin .start), (0, .answer 0 (.ok ())), (0, .answer 0 (.ok ())), (0, .answer 0 (.ok ())),
    (0, .worker 0 .resume), (0, .worker 0 .resume),
    (1, .worker 0 (.received (.returned (some 7)))),
    (2, .worker 0 (.received (.returned (some 8)))),
    (3, .worker 0 (.processed (.failed (.process "refused"))))]

theorem counters_balance_of_refused :
    ∃ accumulator events, (make "pair" ⟨2, none, 50⟩ (.logging "pair")).run? refusedOnce =
        some (accumulator, events) ∧
      accumulator.stats.counters.received = 2 ∧ refusals events = 1 ∧
      accumulator.stats.counters.received =
        accumulator.stats.counters.dispatched + accumulator.stats.counters.discarded +
          refusals events + clearances events := by
  obtain ⟨accumulator, events, ran, rests, received, one⟩ : ∃ accumulator events,
      (make "pair" ⟨2, none, 50⟩ (.logging "pair")).run? refusedOnce = some (accumulator, events) ∧
      accumulator.crew.current? = none ∧ accumulator.stats.counters.received = 2 ∧
      refusals events = 1 :=
    ⟨_, _, rfl, rfl, rfl, rfl⟩
  exact ⟨accumulator, events, ran, received, one, (counters_balance_iff _ _ _ _ ran rests).1⟩

/-- A shutdown that finds two messages in the batch of a cycle that waits for a third. -/
def clearedByShutdown : List (Nat × Move Nat) :=
  [(0, .begin .start), (0, .answer 0 (.ok ())), (0, .answer 0 (.ok ())), (0, .answer 0 (.ok ())),
    (0, .worker 0 .resume), (0, .worker 0 .resume),
    (0, .worker 0 (.received (.returned (some 7)))),
    (0, .worker 0 (.received (.returned (some 8)))),
    (10, .begin .shutdown), (10, .answer 1 (.ok ())), (10, .answer 1 (.ok ())),
    (50, .worker 0 (.received (.returned none))), (50, .worker 0 .resume),
    (50, .worker 0 .resume), (50, .joined 1)]

/-- Messages that a stop clears are missing from the counters. -/
theorem counters_unbalanced_of_cleared :
    ¬ ∀ (name : String) (policy : Policy) (reporter : Reporter) (moves : List (Nat × Move Nat))
        (accumulator : Accumulator Nat) (events : List (Event Nat)),
      (make name policy reporter).run? moves = some (accumulator, events) →
        accumulator.crew.current? = none →
        accumulator.stats.counters.received =
          accumulator.stats.counters.dispatched + accumulator.stats.counters.discarded +
            refusals events := by
  intro balanced
  have equal := balanced "pair" ⟨10, none, 50⟩ (.logging "pair") clearedByShutdown _ _ rfl rfl
  exact absurd equal (by decide)

end Accumulator

end Batching

import Batching.Proofs.Meanwhile

namespace Batching

/-! A stop always comes to its end.

A stop stops the sink and then the source, and waits for their answers and for nobody else.
Whatever the workers and the other callers do meanwhile, each answer is taken when it comes,
and the second one ends the stop.
-/

variable {M : Type}

/-- What a stop makes of the answers of the sink and of the source. -/
def stopOutcome : Except Failure Unit → Except Failure Unit → Except Failure Unit
  | .ok (), .ok () => .ok ()
  | .error sink, .ok () => .error (.shutdown ("sink: " ++ sink.message))
  | .ok (), .error source => .error (.shutdown ("source: " ++ source.message))
  | .error sink, .error source =>
      .error (.shutdown ("sink: " ++ sink.message ++ "; " ++ ("source: " ++ source.message)))

/-- What a stop returns after these failures. -/
def outcomeAfter : List String → Except Failure Unit
  | [] => .ok ()
  | failures => .error (.shutdown ("; ".intercalate failures))

theorem outcomeAfter_noteFailure (sink source : Except Failure Unit) :
    outcomeAfter
        (Accumulator.noteFailure (Accumulator.noteFailure [] "sink" sink) "source" source) =
      stopOutcome sink source := by
  cases sink <;> cases source <;> rfl

namespace Accumulator

variable {reached before after start last : Accumulator M} {now id : Nat} {call : Call}
  {point : CallPoint} {moves : List (Nat × Move M)} {events : List (Event M)}

/-- How a stop begins that leaves the running state. -/
theorem step_stops (orderly : reached.Orderly) (running : reached.state = .running)
    (kept : reached.dropped = false) (stops : call = .stop ∨ call = .shutdown) (now : Nat) :
    ∃ stopping, reached.step now (.begin call) =
        some (stopping,
          [.logged (.stopping reached.name), .requested reached.callers.length .stopSink]) ∧
      stopping.callers[reached.callers.length]? = some ⟨call, .stoppingSink⟩ ∧
      stopping.state = .stopping := by
  obtain ⟨worker, active⟩ := Option.ne_none_iff_exists'.mp (orderly.manned running kept)
  refine ⟨{ reached.enroll call with
      crew := reached.crew.withdraw worker
      state := .stopping
      active := none }.moveTo reached.callers.length .stoppingSink, ?_, ?_, rfl⟩
  · have accepted : reached.step now (.begin call) =
        some ((reached.enroll call).beginStop reached.callers.length call) := by
      rw [step, kept]
      rcases stops with rfl | rfl <;> rfl
    rw [accepted]
    simp only [beginStop, enroll, running, active]
    rfl
  · rw [callers_moveTo, if_pos rfl]
    change (reached.enroll call).callers[reached.callers.length]?.map _ = _
    rw [enroll_found]
    rfl

/-- Whatever happens in the meantime, the answer that caller `id` waits for can come at that
time, nobody else has called a collaborator, and what follows is as stated. -/
def Awaits (start : Accumulator M) (id time : Nat) (answer : Except Failure Unit)
    (Then : Accumulator M → List (Event M) → Prop) : Prop :=
  ∀ moves waiting events, start.run? moves = some (waiting, events) → answersTo id moves = [] →
    deeds id events = [] ∧ waiting.state = start.state ∧
      ∃ after seen, waiting.step time (.answer id answer) = some (after, seen) ∧ Then after seen

theorem Settled.awaits (settled : start.Settled) (found : start.callers[id]? = some ⟨call, point⟩)
    {stage : RunState} (staged : point.stage? = some stage) {time : Nat}
    {answer : Except Failure Unit} {Then : Accumulator M → List (Event M) → Prop}
    (goes : ∀ waiting : Accumulator M, waiting.Settled →
      waiting.callers[id]? = some ⟨call, point⟩ → waiting.state = start.state →
      ∃ after seen, waiting.step time (.answer id answer) = some (after, seen) ∧
        Then after seen) :
    start.Awaits id time answer Then := by
  intro moves waiting events ran unanswered
  obtain ⟨after, there, stays, quiet⟩ :=
    settled.travels found staged ran (by rw [unanswered]; exact .stays)
  exact ⟨quiet, stays.state, goes waiting after there stays.state⟩

/-- What the answer of the source makes of a stop: it is over, and its caller returns, or has
to join first. -/
structure Ended (last : Accumulator M) (id : Nat) (call : Call)
    (source outcome : Except Failure Unit) (final : List (Event M)) : Prop where
  state : last.state = .stopped
  empty : last.pending = 0
  returns : call = .stop →
    deeds id final = [.answered id .stopSource source, .returned id outcome]
  joins : call = .shutdown →
    deeds id final = [.answered id .stopSource source, .returned id outcome] ∨
      deeds id final = [.answered id .stopSource source] ∧
        ∃ worker, last.callers[id]? = some ⟨.shutdown, .joining worker outcome⟩

theorem clearing_quiet (accumulator : Accumulator M) (id : Nat) :
    deeds id accumulator.clearing = [] := by
  unfold clearing
  split <;> rfl

theorem finishStop_departs (before : Accumulator M) (id : Nat) (call : Call)
    (failures : List String) :
    ∃ noted events, (before.finishStop id call failures).2 = noted ++ events ∧
      deeds id noted = [] ∧
      { before with crew := before.crew.cleared, state := .stopped }.Departs id
        (decide (call = Call.shutdown)) (outcomeAfter failures)
        (before.finishStop id call failures).1 events := by
  cases failures with
  | nil =>
      refine ⟨before.clearing ++ [.logged (.stopped before.name)], _, ?_, ?_,
        afterStop_departs _ id call (.ok ())⟩
      · rw [List.append_assoc]
        rfl
      · rw [deeds_append, clearing_quiet]
        rfl
  | cons failure rest =>
      exact ⟨before.clearing, _, rfl, before.clearing_quiet id, afterStop_departs _ id call _⟩

theorem Departs.ended {placed : Accumulator M} {caller : Caller} {joins : Bool}
    {outcome : Except Failure Unit} (departed : placed.Departs id joins outcome after events)
    (found : placed.callers[id]? = some caller) :
    deeds id events = [.returned id outcome] ∨
      joins = true ∧ deeds id events = [] ∧
        ∃ worker, after.callers[id]? = some { caller with point := .joining worker outcome } := by
  cases departed with
  | returns => exact .inl (by simp)
  | collects => exact .inl (by simp [deeds_append, joinNotices_quiet])
  | @waits worker joined =>
      refine .inr ⟨joined, rfl, worker, ?_⟩
      rw [callers_moveTo, if_pos rfl]
      change placed.callers[id]?.map _ = _
      rw [found]
      rfl

theorem step_finishes {failures : List String}
    (found : before.callers[id]? = some ⟨call, .stoppingSource failures⟩)
    (source : Except Failure Unit) (now : Nat) :
    ∃ last final, before.step now (.answer id source) = some (last, final) ∧
      last.Ended id call source (outcomeAfter (noteFailure failures "source" source)) final := by
  have finished : before.step now (.answer id source) =
      some ((before.finishStop id call (noteFailure failures "source" source)).1,
        .answered id .stopSource source ::
          (before.finishStop id call (noteFailure failures "source" source)).2) := by
    cases source <;> simp [step, found, Caller.request?, answerCall]
  obtain ⟨noted, events, told, quiet, departed⟩ :=
    before.finishStop_departs id call (noteFailure failures "source" source)
  have ended := departed.ended (by exact found)
  have crew : (before.finishStop id call (noteFailure failures "source" source)).1.crew =
      before.crew.cleared := congrArg Life.crew departed.life.1
  rw [told] at finished
  have all : deeds id (.answered id .stopSource source :: (noted ++ events)) =
      .answered id .stopSource source :: deeds id events := by
    rw [deeds_cons, deeds_append, quiet]
    rfl
  refine ⟨_, _, finished, departed.state, ?_, fun stop => ?_, fun shutdown => ?_⟩
  · rw [pending, crew]
    rfl
  · subst stop
    rcases ended with returned | ⟨joins, _⟩
    · rw [all, returned]
    · cases joins
  · subst shutdown
    rw [all]
    rcases ended with returned | ⟨_, silent, joining⟩
    · exact .inl (by rw [returned])
    · exact .inr ⟨by rw [silent], joining⟩

/-! ### Stops that find nothing to stop -/

/-- From an accepted stop to the next accepted start. -/
theorem Evolves.stays_halted (orderly : before.Orderly) {move : Move M}
    (evolves : before.Evolves now move after events)
    (unstarted : ∀ name, .logged (.starting name) ∉ events)
    (halted : before.state = .stopping ∨ before.state = .stopped) :
    after.state = .stopping ∨ after.state = .stopped := by
  rcases halted with stopping | stopped
  · rcases evolves.passes orderly with same | passes
    · exact .inl (same.trans stopping)
    · rw [stopping] at passes
      cases state : after.state <;> rw [state] at passes <;> cases passes
      exact .inr rfl
  · exact .inr (evolves.stays_stopped orderly unstarted stopped)

theorem run?_stays_halted (orderly : start.Orderly)
    (ran : start.run? moves = some (last, events))
    (unstarted : ∀ name, .logged (.starting name) ∉ events)
    (halted : start.state = .stopping ∨ start.state = .stopped) :
    last.state = .stopping ∨ last.state = .stopped := by
  have followed := run?_induction
    (fun start events last => (∀ name, .logged (.starting name) ∉ events) →
      (start.state = .stopping ∨ start.state = .stopped) →
      (last.state = .stopping ∨ last.state = .stopped))
    (fun _ halted => halted) ?_ orderly ran
  · exact followed unstarted halted
  · intro now move state next seen last more orderly evolves rest unstarted halted
    have early := fun name inside => unstarted name (List.mem_append_left more inside)
    have late := fun name inside => unstarted name (List.mem_append_right seen inside)
    exact rest late (evolves.stays_halted orderly early halted)

/-- Such a stop returns at once and changes nothing. -/
theorem step_stop_halted (kept : before.dropped = false)
    (halted : before.state = .stopping ∨ before.state = .stopped) (now : Nat) :
    before.step now (.begin .stop) =
      some ({ before with callers := before.callers ++ [⟨.stop, .returned (.ok ())⟩] },
        [.returned before.callers.length (.ok ())]) := by
  have accepted : before.step now (.begin .stop) =
      some ((before.enroll .stop).beginStop before.callers.length .stop) := by
    rw [step, kept]
    rfl
  rw [accepted]
  rcases halted with state | state <;>
    simp [beginStop, afterStop, giveBack, moveTo, enroll, state, List.modify_eq_take_drop]

/-- A stop that leaves the running state stops the sink and then the source, whatever the
first says, and ends with the answer of the source: its accumulator is stopped and empty, and
it returns the failures of both.  It takes the time of these two calls, as nothing that the
workers or others do keeps it from going on.  Up to the next accepted start any other stop
returns at once and asks nothing of anybody. -/
theorem stop_completes (name : String) (policy : Policy) (reporter : Reporter)
    {earlier : List (Nat × Move M)}
    (ran : (make name policy reporter).run? earlier = some (reached, events))
    (running : reached.state = .running) (kept : reached.dropped = false)
    (stops : call = .stop ∨ call = .shutdown) (now : Nat) :
    ∃ stopping, reached.step now (.begin call) =
        some (stopping,
          [.logged (.stopping reached.name), .requested reached.callers.length .stopSink]) ∧
      (∀ sinkDelay sourceDelay sink source,
        stopping.Awaits reached.callers.length (now + sinkDelay) sink fun halfway seen =>
          seen = [.answered reached.callers.length .stopSink sink,
            .requested reached.callers.length .stopSource] ∧
          halfway.Awaits reached.callers.length (now + sinkDelay + sourceDelay) source
            fun last final => last.Ended reached.callers.length call source
              (stopOutcome sink source) final) ∧
      ∀ moves after seen, stopping.run? moves = some (after, seen) → after.dropped = false →
        (∀ name, .logged (.starting name) ∉ seen) → ∀ later,
          after.step later (.begin .stop) =
            some ({ after with callers := after.callers ++ [⟨.stop, .returned (.ok ())⟩] },
              [.returned after.callers.length (.ok ())]) := by
  have settled := run?_settled name policy reporter ran
  obtain ⟨stopping, began, found, state⟩ := step_stops settled.orderly running kept stops now
  have entered := settled.step began
  refine ⟨stopping, began, fun sinkDelay sourceDelay sink source => ?_,
    fun moves after seen continued undropped unstarted later => ?_⟩
  · refine entered.awaits found rfl fun waiting held there _ => ?_
    have leads : CallPoint.Leads .stoppingSink .stopSink sink _ _ := .sinkStopped
    have answered := step_leads there leads (now + sinkDelay)
    refine ⟨_, _, answered, rfl, ?_⟩
    have on : (waiting.moveTo reached.callers.length
        (.stoppingSource (noteFailure [] "sink" sink))).callers[reached.callers.length]? =
          some ⟨call, .stoppingSource (noteFailure [] "sink" sink)⟩ := by
      simp [callers_moveTo, there]
    refine (held.step answered).awaits on rfl fun waiting _ there _ => ?_
    obtain ⟨last, final, finished, ended⟩ :=
      step_finishes there source (now + sinkDelay + sourceDelay)
    exact ⟨last, final, finished, outcomeAfter_noteFailure sink source ▸ ended⟩
  · have halted := run?_stays_halted entered.orderly continued unstarted (.inl state)
    exact step_stop_halted undropped halted later

/-- A span whose worker hands a message to the sink. -/
def handingOver : List (Nat × Move Nat) :=
  [(0, .begin .start), (0, .answer 0 (.ok ())), (0, .answer 0 (.ok ())), (0, .answer 0 (.ok ())),
    (1, .worker 0 .resume), (1, .worker 0 .resume), (2, .worker 0 (.received (.returned (some 7)))),
    (3, .worker 0 (.received (.returned none)))]

theorem stop_completes_of_handing_over :
    ∃ (reached stopping waiting halfway last : Accumulator Nat)
      (events first seen more final : List (Event Nat)),
      (make "pair" ⟨2, none, 50⟩ (.logging "pair")).run? handingOver = some (reached, events) ∧
      reached.step 5 (.begin .stop) = some (stopping, first) ∧
      stopping.run? [(6, .begin .stop)] = some (waiting, seen) ∧
      waiting.step 8 (.answer 1 (.error (.shutdown "stuck"))) = some (halfway, more) ∧
      halfway.step 12 (.answer 1 (.error (.process "full"))) = some (last, final) ∧
      last.state = .stopped ∧ last.pending = 0 ∧
      deeds 1 final = [.answered 1 .stopSource (.error (.process "full")),
        .returned 1 (.error
          (.shutdown "sink: shutdown error: stuck; source: process error: full"))] := by
  obtain ⟨reached, stopping, waiting, events, first, seen, ran, running, kept, count, began,
      others⟩ :
      ∃ (reached stopping waiting : Accumulator Nat) (events first seen : List (Event Nat)),
        (make "pair" ⟨2, none, 50⟩ (.logging "pair")).run? handingOver = some (reached, events) ∧
        reached.state = .running ∧ reached.dropped = false ∧ reached.callers.length = 1 ∧
        reached.step 5 (.begin .stop) = some (stopping, first) ∧
        stopping.run? [(6, .begin .stop)] = some (waiting, seen) :=
    ⟨_, _, _, _, _, _, rfl, rfl, rfl, rfl, rfl, rfl⟩
  obtain ⟨_, accepted, awaits, _⟩ := stop_completes _ _ _ ran running kept (.inl rfl) 5
  obtain ⟨rfl, rfl⟩ := Prod.mk.inj (Option.some.inj (accepted.symm.trans began))
  rw [count] at awaits
  obtain ⟨_, _, halfway, more, answered, _, goes⟩ :=
    awaits 3 4 (.error (.shutdown "stuck")) (.error (.process "full")) _ waiting seen others rfl
  obtain ⟨_, _, last, final, finished, ended⟩ := goes [] halfway [] rfl rfl
  exact ⟨reached, _, waiting, halfway, last, events, _, seen, more, final, ran, accepted, others,
    answered, finished, ended.state, ended.empty, ended.returns rfl⟩

end Accumulator

end Batching

import Batching.Proofs.Meanwhile

namespace Batching

/-! A start that fails.

A start acquires the source, starts the sink and starts the source, and fails with the first
of these that does.  The sink is stopped again if it had been started.  Nothing else is left
to take back: the accumulator is what it would be if only its workers and the joins had moved.
-/

variable {M : Type}

/-- The text of a failure; a failure to start leaves its kind out. -/
def Failure.bareText : Failure → String
  | .startup text => text
  | other => other.message

theorem atStartup_eq (failure : Failure) (step : String) :
    failure.atStartup step = .startup (step ++ ": " ++ failure.bareText) := by
  cases failure <;> rfl

/-- The answers by which a start of caller `id` fails, the last one apart: the step that it
fails at and why, and the calls of collaborators that have been made. -/
inductive StartFails (id : Nat) : List (Except Failure Unit) → Except Failure Unit → String →
    Failure → List (Event M) → Prop where
  | unacquired (failure : Failure) :
      StartFails id [] (.error failure) "acquire source" failure
        [.requested id .acquireSource, .answered id .acquireSource (.error failure)]
  | sinkFailed (failure : Failure) :
      StartFails id [.ok ()] (.error failure) "start sink" failure
        [.requested id .acquireSource, .answered id .acquireSource (.ok ()),
          .requested id .startSink, .answered id .startSink (.error failure)]
  | sourceFailed (failure : Failure) (rollback : Except Failure Unit) :
      StartFails id [.ok (), .ok (), .error failure] rollback "start source" failure
        [.requested id .acquireSource, .answered id .acquireSource (.ok ()),
          .requested id .startSink, .answered id .startSink (.ok ()),
          .requested id .startSource, .answered id .startSource (.error failure),
          .requested id .stopSink, .answered id .stopSink rollback]

/-- The places that such a start comes to, and the answer that puts an end to it. -/
theorem StartFails.travels {id : Nat} {answers : List (Except Failure Unit)}
    {answer : Except Failure Unit} {step : String} {failure : Failure} {calls : List (Event M)}
    (fails : StartFails id answers answer step failure calls) :
    ∃ point seen answered, CallPoint.acquiring.Travels id answers point seen ∧
      point.Fails answered answer (failure.atStartup step) ∧
      calls = .requested id .acquireSource :: seen ++ [.answered id answered answer] := by
  cases fails with
  | unacquired => exact ⟨_, _, _, .stays, .unacquired, rfl⟩
  | sinkFailed => exact ⟨_, _, _, .leads .acquired .stays, .sinkFailed, rfl⟩
  | sourceFailed =>
      exact ⟨_, _, _, .leads .acquired (.leads .sinkStarted (.leads .sourceFailed .stays)),
        .rolledBack, rfl⟩

namespace Accumulator

variable {reached starting waiting before : Accumulator M} {now id : Nat}
  {call : Call} {point : CallPoint} {moves : List (Nat × Move M)}
  {first events seen : List (Event M)}

/-- How a start begins that is accepted. -/
theorem step_starts (stopped : reached.state = .stopped) (kept : reached.dropped = false)
    (now : Nat) :
    ∃ starting, reached.step now (.begin .start) =
        some (starting,
          [.logged (.starting reached.name), .requested reached.callers.length .acquireSource]) ∧
      starting.callers[reached.callers.length]? = some ⟨.start, .acquiring⟩ ∧
      starting.life = { reached.life with state := .starting } ∧
      starting.policy = reached.policy ∧ starting.latest = reached.latest := by
  refine ⟨{ reached.enroll .start with state := .starting }.moveTo reached.callers.length
    .acquiring, ?_, ?_, rfl, rfl, rfl⟩
  · have accepted : reached.step now (.begin .start) =
        some ((reached.enroll .start).beginStart reached.callers.length) := by
      rw [step, kept]
      rfl
    rw [accepted, beginStart, if_pos (by exact stopped)]
    rfl
  · rw [callers_moveTo, if_pos rfl]
    change (reached.enroll .start).callers[reached.callers.length]?.map _ = _
    rw [enroll_found]
    rfl

/-- An answer that puts an end to a start is always possible. -/
theorem step_fails {answered : Request} {result : Except Failure Unit} {failure : Failure}
    (found : before.callers[id]? = some ⟨call, point⟩)
    (fails : point.Fails answered result failure) (now : Nat) :
    ∃ final, before.step now (.answer id result) =
        some ({ before with state := .stopped }.moveTo id (.returned (.error failure)), final) ∧
      deeds id final = [.answered id answered result, .returned id (.error failure)] := by
  cases fails with
  | unacquired | sinkFailed =>
      simp [step, found, Caller.request?, answerCall, failStart, giveBack]
  | rolledBack =>
      cases result <;>
        simp [step, found, Caller.request?, answerCall, failStart, giveBack]

theorem step_launches (found : before.callers[id]? = some ⟨call, .startingSource⟩) (now : Nat) :
    ∃ after final, before.step now (.answer id (.ok ())) = some (after, final) ∧
      after.state = .running ∧ .returned id (.ok ()) ∈ final := by
  have launched : before.step now (.answer id (.ok ())) =
      some ((before.launch now id).1,
        .answered id .startSource (.ok ()) :: (before.launch now id).2) := by
    simp [step, found, Caller.request?, answerCall]
  exact ⟨_, _, launched, rfl, by simp [launch, giveBack]⟩

/-- A start that has begun and got that far. -/
structure Launching (reached : Accumulator M) (id : Nat) (moves : List (Nat × Move M))
    (point : CallPoint) (waiting : Accumulator M) : Prop where
  settled : waiting.Settled
  caller : waiting.callers[id]? = some ⟨.start, point⟩
  stays : { reached with state := .starting }.Stays moves waiting

theorem Settled.launching (settled : reached.Settled) (stopped : reached.state = .stopped)
    (began : reached.step now (.begin .start) = some (starting, first))
    (ran : starting.run? moves = some (waiting, events))
    (travels : CallPoint.acquiring.Travels reached.callers.length
      (answersTo reached.callers.length moves) point seen) :
    reached.Launching reached.callers.length moves point waiting ∧
      deeds reached.callers.length (first ++ events) =
        .requested reached.callers.length .acquireSource :: seen := by
  have kept : reached.dropped = false := by
    cases dropped : reached.dropped with
    | false => rfl
    | true => simp [Accumulator.step, dropped] at began
  obtain ⟨entered, accepted, found, life, policy, latest⟩ := step_starts stopped kept now
  obtain ⟨rfl, rfl⟩ := Prod.mk.inj (Option.some.inj (accepted.symm.trans began))
  obtain ⟨after, there, stays, same⟩ :=
    (settled.step began).travels found (by rfl) ran travels
  refine ⟨⟨after, there, ?_⟩, ?_⟩
  · exact
      { state := stays.state.trans (congrArg Life.state life)
        active := stays.active.trans (congrArg Life.active life)
        policy := stays.policy.trans policy
        dropped := stays.dropped.trans (congrArg Life.dropped life)
        latest := latest ▸ stays.latest
        crew := by
          have crew : entered.crew = reached.crew := congrArg Life.crew life
          exact crew ▸ stays.crew }
  · rw [deeds_append, same]
    simp

/-- A start succeeds if its collaborators do, whatever else happens meanwhile. -/
def Startable (accumulator : Accumulator M) : Prop :=
  ∀ now, ∃ starting first, accumulator.step now (.begin .start) = some (starting, first) ∧
    ∀ moves waiting events, starting.run? moves = some (waiting, events) →
      ∀ count ≤ 2, answersTo accumulator.callers.length moves = List.replicate count (.ok ()) →
        ∀ later, ∃ next final,
          waiting.step later (.answer accumulator.callers.length (.ok ())) = some (next, final) ∧
          (count = 2 → next.state = .running ∧
            .returned accumulator.callers.length (.ok ()) ∈ final)

theorem Settled.startable (settled : reached.Settled) (stopped : reached.state = .stopped)
    (kept : reached.dropped = false) : reached.Startable := by
  intro now
  obtain ⟨starting, began, -⟩ := step_starts stopped kept now
  refine ⟨starting, _, began, fun moves waiting events ran count few answers later => ?_⟩
  have launching {point : CallPoint} {seen : List (Event M)}
      (travels : CallPoint.acquiring.Travels reached.callers.length
        (List.replicate count (.ok ())) point seen) :
      waiting.callers[reached.callers.length]? = some ⟨.start, point⟩ :=
    (settled.launching stopped began ran (answers ▸ travels)).1.caller
  obtain rfl | rfl | rfl : count = 0 ∨ count = 1 ∨ count = 2 := by omega
  · exact ⟨_, _, step_leads (launching .stays) .acquired later, nofun⟩
  · exact ⟨_, _, step_leads (launching (.leads .acquired .stays)) .sinkStarted later, nofun⟩
  · obtain ⟨next, final, stepped, running⟩ :=
      step_launches (launching (.leads .acquired (.leads .sinkStarted .stays))) later
    exact ⟨next, final, stepped, fun _ => running⟩

/-- Whichever of its steps fails and whatever else happens meanwhile, a start that fails says
at which step and why, has hired nobody and lets no worker make a call, and has the sink
stopped again if it was started, even if that fails as well.  Its accumulator is stopped and
apart from what workers and joins have done it is what it was; a start can succeed again. -/
theorem failed_start_undone (name : String) (policy : Policy) (reporter : Reporter)
    {earlier meanwhile : List (Nat × Move M)} {answer : Except Failure Unit} {step : String}
    {failure : Failure} {calls : List (Event M)}
    (ran : (make name policy reporter).run? earlier = some (reached, seen))
    (stopped : reached.state = .stopped)
    (began : reached.step now (.begin .start) = some (starting, first))
    (others : starting.run? meanwhile = some (waiting, events))
    (fails : StartFails reached.callers.length (answersTo reached.callers.length meanwhile) answer
      step failure calls) (later : Nat) :
    ∃ last final,
      waiting.step later (.answer reached.callers.length answer) = some (last, final) ∧
      deeds reached.callers.length (first ++ events ++ final) =
        calls ++ [.returned reached.callers.length
          (.error (.startup (step ++ ": " ++ failure.bareText)))] ∧
      reached.Stays meanwhile last ∧ last.state = .stopped ∧ last.pending = 0 ∧
      (drills meanwhile = [] → last.crew = reached.crew) ∧
      ∀ more again shown, last.run? more = some (again, shown) → again.state = .stopped →
        again.dropped = false → again.Startable := by
  have settled := run?_settled name policy reporter ran
  obtain ⟨point, passed, answered, travels, ends, rfl⟩ := fails.travels
  obtain ⟨launching, same⟩ := settled.launching stopped began others travels
  obtain ⟨final, failed, told⟩ := step_fails launching.caller ends later
  have after := launching.settled.step failed
  have stays : reached.Stays meanwhile ({ waiting with state := .stopped }.moveTo
      reached.callers.length (.returned (.error (failure.atStartup step)))) :=
    { launching.stays with state := stopped.symm }
  refine ⟨_, final, failed, ?_, stays, rfl, ?_, fun idle => ?_,
    fun more again shown continued => ?_⟩
  · rw [deeds_append, same, told, ← atStartup_eq]
    simp
  · exact List.length_eq_zero_iff.mpr (after.orderly.still (.inl rfl))
  · obtain ⟨seen, drilled⟩ := stays.crew
    rw [idle] at drilled
    exact (congrArg Prod.fst (Option.some.inj drilled)).symm
  · exact (after.run? continued).startable

/-- A span that is stopped while its worker waits for a message. -/
def leftReceiving : List (Nat × Move Nat) :=
  [(0, .begin .start), (0, .answer 0 (.ok ())), (0, .answer 0 (.ok ())), (0, .answer 0 (.ok ())),
    (1, .worker 0 .resume), (1, .worker 0 .resume), (2, .begin .stop), (2, .answer 1 (.ok ())),
    (2, .answer 1 (.ok ()))]

/-- The next start up to the source, which refuses it; the message comes in the meantime. -/
def interruptedStart : List (Nat × Move Nat) :=
  [(3, .answer 2 (.ok ())), (3, .begin .stop), (4, .answer 2 (.ok ())),
    (4, .begin (.setPolicy ⟨3, none, 50⟩)), (5, .worker 0 (.received (.returned (some 7)))),
    (6, .answer 2 (.error (.startup "refused")))]

theorem failed_start_undone_of_rollback :
    ∃ (reached starting waiting last : Accumulator Nat)
      (seen first events final : List (Event Nat)),
      (make "pair" ⟨2, none, 50⟩ (.logging "pair")).run? leftReceiving = some (reached, seen) ∧
      reached.step 3 (.begin .start) = some (starting, first) ∧
      starting.run? interruptedStart = some (waiting, events) ∧
      waiting.step 7 (.answer 2 (.error (.shutdown "stuck"))) = some (last, final) ∧
      deeds 2 (first ++ events ++ final) =
        [.requested 2 .acquireSource, .answered 2 .acquireSource (.ok ()),
          .requested 2 .startSink, .answered 2 .startSink (.ok ()),
          .requested 2 .startSource, .answered 2 .startSource (.error (.startup "refused")),
          .requested 2 .stopSink, .answered 2 .stopSink (.error (.shutdown "stuck")),
          .returned 2 (.error (.startup "start source: refused"))] ∧
      last.state = .stopped ∧ last.policy = ⟨2, none, 50⟩ ∧ last.latest = some 0 ∧
      last.Startable := by
  obtain ⟨reached, starting, waiting, seen, first, events, ran, stopped, count, policy, slot,
      kept, began, others⟩ :
      ∃ (reached starting waiting : Accumulator Nat) (seen first events : List (Event Nat)),
        (make "pair" ⟨2, none, 50⟩ (.logging "pair")).run? leftReceiving = some (reached, seen) ∧
        reached.state = .stopped ∧ reached.callers.length = 2 ∧
        reached.policy = ⟨2, none, 50⟩ ∧ reached.latest = some 0 ∧ reached.dropped = false ∧
        reached.step 3 (.begin .start) = some (starting, first) ∧
        starting.run? interruptedStart = some (waiting, events) :=
    ⟨_, _, _, _, _, _, rfl, rfl, rfl, rfl, rfl, rfl, rfl, rfl⟩
  have fails : StartFails (M := Nat) 2 (answersTo 2 interruptedStart) (.error (.shutdown "stuck"))
      "start source" (.startup "refused") _ := .sourceFailed _ _
  obtain ⟨last, final, failed, told, stays, halted, _, _, again⟩ := failed_start_undone _ _ _ ran
    stopped began others (count ▸ fails) 7
  rw [count] at failed told
  refine ⟨reached, starting, waiting, last, seen, first, events, final, ran, began, others, failed,
    told, halted, stays.policy.trans policy, stays.latest.trans slot, ?_⟩
  exact again [] last [] rfl halted (stays.dropped.trans kept)

end Accumulator

end Batching

import Batching.Proofs.DemoWorld

namespace Batching.Demo

/-! The counters at the end of the demonstration.

The sink counts the messages that it has processed and those that have failed; the accumulator
counts those that it has dispatched and the cycles that have failed.  When the shutdown has
returned, no call is in progress.  So both have counted the deliveries on record and nothing
else, in whatever order the tasks were performed and whenever the shutdown came.
-/

open Relation Simulation

variable {failEvery : Nat} {before after final : World Nat} {options : Options} {config : Config}

/-! ### Runs of the demonstration -/

/-- Some task is performed, time passes, or the producer is stopped. -/
inductive Elapses (before : World Nat) : World Nat → Prop where
  | goes {after : World Nat} (went : World.machine.Goes before after) : Elapses before after
  | stops : Elapses before (stopProducer before)

/-- A run whose start has succeeded and whose shutdown has come at some time and has
returned. -/
inductive Completes (options : Options) (config : Config) (final : World Nat) : Prop where
  | completes {started running : World Nat}
      (starts : ReflTransGen World.machine.Goes
        ((world options config).move (.life (.begin .start))) started)
      (succeeded : started.accumulator.result? 0 = some (.ok ()))
      (runs : ReflTransGen Elapses (started.enqueue .produce) running)
      (shuts : ReflTransGen Elapses (running.move (.life (.begin .shutdown))) final)
      (returned : (final.accumulator.result? 1).isSome)

theorem elapses_of_goes (went : ReflTransGen World.machine.Goes before after) :
    ReflTransGen Elapses before after :=
  ReflTransGen.mono (fun _ _ => Elapses.goes) before after went

theorem call_goes (before : World Nat) (call : Call) :
    ReflTransGen World.machine.Goes (before.move (.life (.begin call))) (before.call call).1 := by
  unfold World.call World.run
  exact World.machine.run_goes ..

theorem runBefore_elapses (before : World Nat) (time : Nat) :
    ReflTransGen Elapses before (runBefore before time) := by
  have passes (past : World Nat) :
      Elapses past { past with agenda := past.agenda.passTo (some time) } :=
    have ⟨same, later⟩ := Agenda.tasks_passTo past.agenda (some time)
    .goes (.waits (.of_eq same.symm) later)
  unfold runBefore
  refine .tail ?_ (passes _)
  split
  · exact .refl
  · exact elapses_of_goes (World.machine.run_goes _ _ World.fuel before)

/-! ### The start

The source is a channel and the sink has no start of its own, so each request of the start is
answered at once. -/

/-- The world while the start waits at this point, and the answer is ready. -/
def asking (options : Options) (config : Config) (point : CallPoint) : World Nat :=
  let fresh := world options config
  { fresh with
    agenda := { ready := [.answer 0 (.ok ())] }
    outlet := { fresh.outlet with
      accumulator := { fresh.accumulator with state := .starting, callers := [⟨.start, point⟩] } }
    journal := { notices := [.starting config.name] } }

/-- The same world with the answer in hand. -/
def answering (options : Options) (config : Config) (point : CallPoint) : World Nat :=
  { asking options config point with agenda := {} }

theorem begin_start (options : Options) (config : Config) :
    (world options config).move (.life (.begin .start)) = asking options config .acquiring := by
  rfl

theorem answer_acquiring (options : Options) (config : Config) :
    (answering options config .acquiring).perform (.answer 0 (.ok ())) =
      asking options config .startingSink := by
  rfl

theorem answer_startingSink (options : Options) (config : Config) :
    (answering options config .startingSink).perform (.answer 0 (.ok ())) =
      asking options config .startingSource := by
  rfl

theorem answer_startingSource (options : Options) (config : Config) :
    ((answering options config .startingSource).perform
      (.answer 0 (.ok ()))).accumulator.result? 0 = some (.ok ()) := by
  rfl

theorem run_asking {done : World Nat → Bool} {point : CallPoint}
    (unfinished : done (asking options config point) = false)
    (answered : (answering options config point).perform (.answer 0 (.ok ())) = after)
    (fuel : Nat) :
    World.machine.run done none (fuel + 1) (asking options config point) =
      World.machine.run done none fuel after := by
  rw [Machine.run_performs unfinished rfl]
  exact congrArg _ answered

theorem start_succeeds (options : Options) (config : Config) :
    ((world options config).call .start).1.accumulator.result? 0 = some (.ok ()) := by
  have enough : World.fuel = World.fuel - 3 + 1 + 1 + 1 := rfl
  rw [World.call, World.run, begin_start, enough,
    run_asking rfl (answer_acquiring options config),
    run_asking rfl (answer_startingSink options config), run_asking rfl rfl, Machine.run_done]
  · exact answer_startingSource options config
  · exact congrArg Option.isSome (answer_startingSource options config)

/-- The demonstration is one of its runs, if its shutdown returns. -/
theorem finalWorld_completes
    (returned : ((finalWorld options config).accumulator.result? 1).isSome) :
    Completes options config (finalWorld options config) := by
  have starts := call_goes (world options config) .start
  have succeeded := start_succeeds options config
  unfold finalWorld at returned ⊢
  cases called : (world options config).call .start with
  | mk started result =>
      rw [called] at starts succeeded returned
      have runs := runBefore_elapses (started.enqueue .produce) (options.runSeconds * 1000)
      exact .completes starts succeeded (runs.tail .stops) (elapses_of_goes (call_goes ..))
        returned

/-! ### What a run keeps -/

theorem sound_world (options : Options) (config : Config) :
    Sound options.failEvery (world options config) [] [] where
  base := rfl
  channelled := ⟨_, rfl⟩
  kept := rfl
  counted := ⟨Outlet.orderly_make _ _ _ _ _, rfl, nofun⟩
  flight := .rests
  inOrder := by
    refine ⟨.nil, fun sender produces => ?_⟩
    cases produces
    exact ⟨rfl, fun _ member => absurd member List.not_mem_nil⟩
  kinds _ member := absurd member List.not_mem_nil
  tally := rfl

/-- A call begins. -/
theorem Sound.begins (sound : Sound failEvery before [] [])
    (undropped : before.accumulator.dropped = false) (call : Call) :
    Sound failEvery (before.move (.life (.begin call))) [] [] ∧
      (before.move (.life (.begin call))).accumulator = (before.accumulator.beginCall call).1 := by
  have own : (Move.begin (M := Nat) call).isOwn = true := rfl
  have begun : before.outlet.accumulator.step before.now (.begin call) =
      some (before.accumulator.beginCall call) := Accumulator.step_begin undropped call
  cases result : before.outlet.step before.now (.life (.begin call)) with
  | none =>
      change before.outlet.advance before.now (.begin call) = none at result
      rw [Outlet.advance, begun] at result
      cases result
  | some made =>
      obtain ⟨outlet, events⟩ := made
      obtain ⟨moved, reached⟩ := (sound.own own result).moved result
      obtain ⟨seen, stepped, _⟩ := (sound.counted.own own result).1.stepped
      refine ⟨moved, ?_⟩
      rw [World.accumulator, reached]
      exact (congrArg Prod.fst (Option.some.inj (begun.symm.trans stepped))).symm

theorem stopProducer_accumulator (before : World Nat) :
    (stopProducer before).accumulator = before.accumulator := by
  unfold stopProducer
  dsimp only
  split <;> rfl

/-- While tasks are performed, the accumulator keeps what it keeps when it goes on. -/
theorem Sound.elapses {Keeps : Accumulator Nat → Prop} (sound : Sound failEvery before [] [])
    (kept : ∀ {before after}, Keeps before → before.Goes after → Keeps after)
    (keeps : Keeps before.accumulator) (elapsed : ReflTransGen Elapses before after) :
    Sound failEvery after [] [] ∧ Keeps after.accumulator := by
  induction elapsed with
  | refl => exact ⟨sound, keeps⟩
  | tail _ last ih =>
      obtain ⟨sound, keeps⟩ := ih
      cases last with
      | goes went =>
          obtain ⟨sound, goes⟩ := sound.goes went
          exact ⟨sound, kept keeps goes⟩
      | stops => exact ⟨sound.stopProducer, (stopProducer_accumulator _).symm ▸ keeps⟩

theorem Completes.sound (completes : Completes options config final) :
    Sound options.failEvery final [] [] ∧ final.accumulator.state = .stopped ∧
      final.accumulator.pending = 0 ∧ final.accumulator.crew.current? = none := by
  obtain ⟨starts, succeeded, runs, shuts, returned⟩ := completes
  -- Each of the three stretches keeps a fact of its own about the accumulator.
  obtain ⟨sound, begun⟩ := (sound_world options config).begins rfl .start
  have opening := Accumulator.opening_of_begin (M := Nat) config.name
    (Policy.ofSettings config.batch) (.logging config.name)
  obtain ⟨sound, opening⟩ :=
    sound.elapses Accumulator.Opening.goes (begun ▸ opening) (elapses_of_goes starts)
  have begun := Accumulator.Started.mk opening succeeded
  obtain ⟨sound, started⟩ :=
    (sound.gains (World.enqueue_gains _ rfl) rfl).elapses Accumulator.Started.goes begun runs
  obtain ⟨worker, closing⟩ := started.closing
  obtain ⟨sound, begun⟩ := sound.begins started.opening.kept .shutdown
  obtain ⟨sound, closing⟩ := sound.elapses Accumulator.Closing.goes (begun ▸ closing) shuts
  obtain ⟨result, returned⟩ := Option.isSome_iff_exists.mp returned
  exact ⟨sound, closing.rests returned⟩

/-! ### What has been counted -/

/-- The messages whose delivery has ended in this way, in the order of their deliveries. -/
def ended (kind : ReplyKind) (final : World Nat) : List Nat :=
  ((final.journal.deliveries.filter (·.kind == kind)).map DeliveryRecord.message).reverse

/-- Both sides have counted the deliveries, which have failed where they were to fail. -/
structure Agrees (failEvery : Nat) (final : World Nat) : Prop where
  stopped : final.accumulator.stats.state = .stopped
  empty : final.accumulator.stats.pending = 0
  counts : final.sink.counts = [(final.accumulator.stats.counters.dispatched,
    final.accumulator.stats.counters.failedCycles)]
  processed : (ended .ok final).length = final.accumulator.stats.counters.dispatched
  failed : (ended .err final).length = final.accumulator.stats.counters.failedCycles
  ascending : (ended .ok final).Pairwise (· < ·)
  passes : ∀ message ∈ ended .ok final, 0 < failEvery → ¬ failEvery ∣ message
  fails : ∀ message ∈ ended .err final, 0 < failEvery ∧ failEvery ∣ message
  calm : failEvery = 0 → final.accumulator.stats.counters.failedCycles = 0

theorem replyTo_kind (failEvery message : Nat) :
    (replyTo failEvery message).kind =
      if 0 < failEvery ∧ failEvery ∣ message then .err else .ok := by
  unfold replyTo
  simp only [Reply.kind, Bool.and_eq_true, decide_eq_true_eq, beq_iff_eq, Nat.dvd_iff_mod_eq_zero]
  split <;> rfl

theorem length_ended (kind : ReplyKind) (final : World Nat) :
    (ended kind final).length = final.journal.deliveries.countP (·.kind == kind) := by
  rw [ended, List.length_reverse, List.length_map, List.countP_eq_length_filter]

theorem ended_sublist (kind : ReplyKind) (final : World Nat) :
    (ended kind final).Sublist (delivered final) :=
  (List.filter_sublist.map _).reverse

theorem Sound.kind_of_ended (sound : Sound failEvery final [] []) {kind : ReplyKind}
    {message : Nat} (member : message ∈ ended kind final) :
    (replyTo failEvery message).kind = kind := by
  obtain ⟨record, found, rfl⟩ := List.mem_map.mp (List.mem_reverse.mp member)
  obtain ⟨listed, same⟩ := List.mem_filter.mp found
  exact (sound.kinds record listed).symm.trans (eq_of_beq same)

/-- Between two calls, the deliveries on record are those that the accumulator has counted. -/
theorem Sound.counts (sound : Sound failEvery final [] [])
    (quiet : final.accumulator.crew.current? = none) :
    recorded final.journal.deliveries = final.accumulator.crew.pipeline.tally := by
  have flight := sound.flight
  rw [show final.outlet.crew.current? = none from quiet] at flight
  have tally := sound.tally
  rw [flight.of_rest.1, pending, Tally.plus_zero] at tally
  exact tally

theorem Sound.agrees (sound : Sound failEvery final [] [])
    (stopped : final.accumulator.state = .stopped) (empty : final.accumulator.pending = 0)
    (quiet : final.accumulator.crew.current? = none) : Agrees failEvery final := by
  have counts := sound.counts quiet
  have failed : (ended .err final).length = final.accumulator.stats.counters.failedCycles :=
    (length_ended .err final).trans (congrArg Tally.failed counts)
  have fails : ∀ message ∈ ended .err final, 0 < failEvery ∧ failEvery ∣ message := by
    intro message member
    have kind := (replyTo_kind failEvery message).symm.trans (sound.kind_of_ended member)
    split at kind
    · assumption
    · cases kind
  refine
    { stopped
      empty
      counts := ?_
      processed := (length_ended .ok final).trans (congrArg Tally.succeeded counts)
      failed
      ascending := ?_
      passes := fun message member positive divides => ?_
      fails
      calm := fun never => ?_ }
  · rw [ScriptedSink.counts, World.sink, sound.counted.layers]
    rfl
  · have first := sound.inOrder.ascending
    rw [stream, List.append_assoc, List.append_assoc, List.append_assoc] at first
    exact (List.pairwise_append.mp first).1.sublist (ended_sublist .ok final)
  · have kind := (replyTo_kind failEvery message).symm.trans (sound.kind_of_ended member)
    rw [if_pos ⟨positive, divides⟩] at kind
    cases kind
  · rw [← failed, List.length_eq_zero_iff]
    refine List.eq_nil_iff_forall_not_mem.mpr fun message member => ?_
    exact absurd (fails message member).1 (never ▸ Nat.lt_irrefl 0)

/-- In every run that is completed the two sides agree.  The run that the demonstration makes is
one of these if its shutdown has returned when it ends. -/
theorem counters_agree (options : Options) (config : Config) :
    (∀ final, Completes options config final → Agrees options.failEvery final) ∧
      (((finalWorld options config).accumulator.result? 1).isSome →
        Completes options config (finalWorld options config)) := by
  refine ⟨fun final completes => ?_, finalWorld_completes⟩
  obtain ⟨sound, stopped, empty, quiet⟩ := completes.sound
  exact sound.agrees stopped empty quiet

/-- Two cycles fail at their second message, and the shutdown comes while the fifth message is
alone in its batch. -/
theorem counters_agree_of_failures :
    let options : Options :=
      { batchSize := some 2, messages := 5, interval := 10, failEvery := 2, runSeconds := 1 }
    let config : Config := { name := "demo", batch := options.override {} }
    ((finalWorld options config).accumulator.result? 1).isSome ∧
      ended .ok (finalWorld options config) = [1, 3] ∧
      ended .err (finalWorld options config) = [2, 4] ∧
      Agrees 2 (finalWorld options config) := by
  intro options config
  have returned : ((finalWorld options config).accumulator.result? 1).isSome := by
    decide +kernel
  have agree := counters_agree options config
  exact ⟨returned, by decide +kernel, by decide +kernel, agree.1 _ (agree.2 returned)⟩

end Batching.Demo

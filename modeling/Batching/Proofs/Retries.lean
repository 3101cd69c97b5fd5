import Batching.LayeredSink

namespace Batching

/-! The law of nested retries.

The present attempts of the retry layers, the innermost first, are the digits of a counter of
the deliveries that have failed: a layer starts afresh when it hands a failure on, and the
layer outside it counts on.  So a stack of retry layers is one loop around the base sink.  It
delivers as often as the product of all attempts allows, and the pause after a failure is
that of the innermost layer which has attempts left.
-/

/-- The attempts and the backoff of a retry layer. -/
def Layer.repeats? : Layer → Option (Nat × Nat)
  | .instrumented _ _ => none
  | .retry limit backoff => some (limit, backoff)

def retriesOf (layers : List Layer) : List (Nat × Nat) :=
  layers.filterMap Layer.repeats?

theorem retriesOf_congr {layers others : List Layer}
    (same : layers.map Layer.repeats? = others.map Layer.repeats?) :
    retriesOf layers = retriesOf others := by
  have kept := congrArg (List.filterMap id) same
  rwa [List.filterMap_map, List.filterMap_map] at kept

/-- How often retry layers deliver a message together. -/
def allAttempts : List (Nat × Nat) → Nat
  | [] => 1
  | (limit, _) :: outer => Layer.attemptsOf limit * allAttempts outer

/-- The pause after that many failed deliveries. -/
def pauseAfter : List (Nat × Nat) → Nat → Nat
  | [], _ => 0
  | (limit, backoff) :: outer, count =>
      if Layer.attemptsOf limit ∣ count then pauseAfter outer (count / Layer.attemptsOf limit)
      else backoff

/-- The backoff belongs to the innermost layer whose attempts, multiplied by those of all
layers inside it, do not divide the number of deliveries that have failed. -/
def PausesFor (retries : List (Nat × Nat)) (count backoff : Nat) : Prop :=
  ∃ place limit, retries[place]? = some (limit, backoff) ∧
    ¬ allAttempts (retries.take (place + 1)) ∣ count ∧
    ∀ inner ≤ place, allAttempts (retries.take inner) ∣ count

variable {retries inner outer : List (Nat × Nat)} {count limit backoff : Nat}

theorem attemptsOf_pos (limit : Nat) : 0 < Layer.attemptsOf limit :=
  Nat.le_max_right ..

theorem allAttempts_pos (retries : List (Nat × Nat)) : 0 < allAttempts retries := by
  induction retries with
  | nil => exact Nat.one_pos
  | cons retry outer ih => exact Nat.mul_pos (attemptsOf_pos retry.1) ih

theorem allAttempts_append (inner outer : List (Nat × Nat)) :
    allAttempts (inner ++ outer) = allAttempts inner * allAttempts outer := by
  induction inner with
  | nil => exact (Nat.one_mul _).symm
  | cons retry inner ih => rw [List.cons_append, allAttempts, allAttempts, ih, Nat.mul_assoc]

theorem pauseAfter_rounds (rounds : Nat) :
    pauseAfter ((limit, backoff) :: outer) (Layer.attemptsOf limit * rounds) =
      pauseAfter outer rounds := by
  rw [pauseAfter, if_pos (Nat.dvd_mul_right ..), Nat.mul_div_cancel_left _ (attemptsOf_pos limit)]

theorem pauseAfter_within {rounds attempt : Nat} (begun : 0 < attempt)
    (left : attempt < Layer.attemptsOf limit) :
    pauseAfter ((limit, backoff) :: outer) (Layer.attemptsOf limit * rounds + attempt) =
      backoff := by
  have unfinished : ¬ Layer.attemptsOf limit ∣ Layer.attemptsOf limit * rounds + attempt := by
    rw [Nat.dvd_add_right (Nat.dvd_mul_right ..)]
    exact Nat.not_dvd_of_pos_of_lt begun left
  rw [pauseAfter, if_neg unfinished]

theorem pausesFor_pauseAfter (going : ¬ allAttempts retries ∣ count) :
    PausesFor retries count (pauseAfter retries count) := by
  induction retries generalizing count with
  | nil => exact absurd (Nat.one_dvd count) going
  | cons retry outer ih =>
      obtain ⟨limit, backoff⟩ := retry
      by_cases handed : Layer.attemptsOf limit ∣ count
      · obtain ⟨rounds, rfl⟩ := handed
        have divides (attempts : Nat) :
            Layer.attemptsOf limit * attempts ∣ Layer.attemptsOf limit * rounds ↔
              attempts ∣ rounds :=
          Nat.mul_dvd_mul_iff_left (attemptsOf_pos limit)
        rw [allAttempts, divides] at going
        obtain ⟨place, other, found, left, spent⟩ := ih going
        rw [pauseAfter_rounds]
        refine ⟨place + 1, other, found, ?_, fun inner within => ?_⟩
        · rwa [List.take_succ_cons, allAttempts, divides]
        · cases inner with
          | zero => exact Nat.one_dvd _
          | succ inner =>
              rw [List.take_succ_cons, allAttempts, divides]
              exact spent inner (Nat.le_of_succ_le_succ within)
      · rw [pauseAfter, if_neg handed]
        refine ⟨0, limit, rfl, ?_, fun inner within => ?_⟩
        · simpa [allAttempts] using handed
        · obtain rfl := Nat.le_zero.mp within
          exact Nat.one_dvd _

example : [1, 2, 3, 4, 5].map (pauseAfter [(2, 10), (0, 40), (3, 70)]) = [10, 70, 10, 70, 10] := by
  decide

/-! ### One passage through the layers -/

/-- Where every attempt has begun. -/
def Begun (attempts : List Nat) : Prop :=
  ∀ attempt ∈ attempts, 0 < attempt

variable {layers : List Layer} {attempts : List Nat} {sink : String} {failure : Failure}

theorem Begun.drop (begun : Begun attempts) : Begun (attempts.drop 1) :=
  fun attempt member => begun attempt (List.mem_of_mem_drop member)

theorem Begun.head (begun : Begun attempts) : 0 < attempts.headD 1 := by
  cases attempts with
  | nil => exact Nat.one_pos
  | cons attempt rest => exact begun attempt (.head rest)

theorem begun_cons {attempt : Nat} (positive : 0 < attempt) (begun : Begun attempts) :
    Begun (attempt :: attempts) :=
  List.forall_mem_cons.mpr ⟨positive, begun⟩

theorem attemptsLeft_lt (layers : List Layer) (begun : Begun attempts) :
    attemptsLeft layers attempts < allAttempts (retriesOf layers) := by
  induction layers generalizing attempts with
  | nil => exact Nat.one_pos
  | cons layer outer ih =>
      have fewer := ih begun.drop
      cases layer with
      | instrumented => exact fewer
      | retry limit backoff =>
          change Layer.attemptsOf limit * attemptsLeft outer (attempts.drop 1) +
              (Layer.attemptsOf limit - attempts.headD 1) <
            Layer.attemptsOf limit * allAttempts (retriesOf outer)
          have product := Nat.mul_le_mul_left (Layer.attemptsOf limit) (Nat.succ_le_of_lt fewer)
          rw [Nat.mul_succ] at product
          have positive := attemptsOf_pos limit
          have first := begun.head
          omega

theorem attemptsLeft_start (layers : List Layer) :
    attemptsLeft layers (layers.map fun _ => 1) + 1 = allAttempts (retriesOf layers) := by
  induction layers with
  | nil => rfl
  | cons layer outer ih =>
      cases layer with
      | instrumented => exact ih
      | retry limit backoff =>
          change Layer.attemptsOf limit * attemptsLeft outer (outer.map fun _ => 1) +
              (Layer.attemptsOf limit - 1) + 1 =
            Layer.attemptsOf limit * allAttempts (retriesOf outer)
          have positive := attemptsOf_pos limit
          rw [← ih, Nat.mul_succ]
          omega

/-- The layers stay what they are; only counters change. -/
theorem retries_passOut (sink : String) (layers : List Layer) (attempts : List Nat)
    (result : Except Failure Unit) :
    (passOut sink layers attempts result).layers.map Layer.repeats? =
      layers.map Layer.repeats? := by
  induction layers generalizing attempts with
  | nil => rfl
  | cons layer outer ih =>
      have same := ih (attempts.drop 1)
      cases layer with
      | instrumented => cases result <;> exact congrArg (none :: ·) same
      | retry limit backoff =>
          cases result with
          | ok => exact congrArg (some (limit, backoff) :: ·) same
          | error failure =>
              simp only [passOut]
              split
              · rfl
              · exact congrArg (some (limit, backoff) :: ·) same

theorem passOut_ok (layers : List Layer) (attempts : List Nat) :
    (passOut sink layers attempts (.ok ())).verdict = .ends (.ok ()) := by
  induction layers generalizing attempts with
  | nil => rfl
  | cons layer outer ih => cases layer <;> exact ih _

/-- A layer that has no attempt left hands the failure on. -/
theorem passOut_spent (spent : attemptsLeft layers attempts = 0) :
    (passOut sink layers attempts (.error failure)).verdict = .ends (.error failure) := by
  induction layers generalizing attempts with
  | nil => rfl
  | cons layer outer ih =>
      cases layer with
      | instrumented => exact ih spent
      | retry limit backoff =>
          obtain ⟨others, last⟩ := Nat.add_eq_zero_iff.mp spent
          have done : ¬ attempts.headD 1 < Layer.attemptsOf limit :=
            Nat.not_lt.mpr (Nat.sub_eq_zero_iff_le.mp last)
          rw [passOut, if_neg done]
          refine ih ((Nat.mul_eq_zero.mp others).resolve_left ?_)
          exact Nat.ne_of_gt (attemptsOf_pos limit)

/-- While attempts are left, a failure takes one of them, after the pause that is due then. -/
theorem passOut_again {left : Nat} (sink : String) (failure : Failure)
    (begun : Begun attempts)
    (more : attemptsLeft layers attempts = left + 1) :
    (passOut sink layers attempts (.error failure)).verdict =
        .again (pauseAfter (retriesOf layers) (allAttempts (retriesOf layers) - (left + 1))) ∧
      attemptsLeft (passOut sink layers attempts (.error failure)).layers
        (passOut sink layers attempts (.error failure)).attempts = left ∧
      Begun (passOut sink layers attempts (.error failure)).attempts := by
  induction layers generalizing attempts left with
  | nil => cases more
  | cons layer outer ih =>
      cases layer with
      | instrumented =>
          obtain ⟨verdict, fewer, on⟩ := ih begun.drop more
          exact ⟨verdict, fewer, begun_cons Nat.one_pos on⟩
      | retry limit backoff =>
          have first := begun.head
          have within := attemptsLeft_lt outer begun.drop
          change Layer.attemptsOf limit * attemptsLeft outer (attempts.drop 1) +
            (Layer.attemptsOf limit - attempts.headD 1) = left + 1 at more
          change _ = Verdict.again (pauseAfter ((limit, backoff) :: retriesOf outer)
            (Layer.attemptsOf limit * allAttempts (retriesOf outer) - (left + 1))) ∧ _
          by_cases goes : attempts.headD 1 < Layer.attemptsOf limit
          · -- This layer counts on, and its round of attempts is not over.
            obtain ⟨rounds, total⟩ := Nat.exists_eq_add_of_lt within
            have failed : Layer.attemptsOf limit * allAttempts (retriesOf outer) - (left + 1) =
                Layer.attemptsOf limit * rounds + attempts.headD 1 := by
              rw [total, Nat.mul_add, Nat.mul_add]
              omega
            rw [failed, pauseAfter_within first goes, passOut, if_pos goes]
            refine ⟨rfl, ?_, begun_cons (Nat.succ_pos _) begun.drop⟩
            simp only [attemptsLeft, List.headD_cons, List.drop_succ_cons, List.drop_zero]
            omega
          · obtain ⟨rest, others⟩ : ∃ rest, attemptsLeft outer (attempts.drop 1) = rest + 1 := by
              refine Nat.exists_eq_succ_of_ne_zero fun none => ?_
              rw [none] at more
              omega
            obtain ⟨verdict, fewer, on⟩ := ih begun.drop others
            rw [others, Nat.mul_succ] at more
            have failed : Layer.attemptsOf limit * allAttempts (retriesOf outer) - (left + 1) =
                Layer.attemptsOf limit * (allAttempts (retriesOf outer) - (rest + 1)) := by
              rw [Nat.mul_sub, Nat.mul_succ]
              omega
            rw [failed, pauseAfter_rounds, passOut, if_neg goes]
            refine ⟨verdict, ?_, begun_cons Nat.one_pos on⟩
            change Layer.attemptsOf limit * attemptsLeft
              (passOut sink outer (attempts.drop 1) (.error failure)).layers
              (passOut sink outer (attempts.drop 1) (.error failure)).attempts +
                (Layer.attemptsOf limit - 1) = left
            have positive := attemptsOf_pos limit
            rw [fewer]
            omega

/-! ### One loop around the base sink -/

variable {σ M : Type} {base : Base σ M} {message : M} {core : Core σ M}
  {sink : LayeredSink σ M} {delivery : Delivery M} {outcome : Outcome Unit}

/-- Delivers a message again after a failure, `left` times at most. -/
def Core.persist (core : Core σ M) (base : Base σ M) (message : M) (pause : Nat → Nat)
    (failed : Nat) : Nat → Outcome Unit × Core σ M
  | 0 => core.call base (.process message)
  | left + 1 =>
      match core.call base (.process message) with
      | (.failed _, next) =>
          (next.wait (pause (failed + 1))).persist base message pause (failed + 1) left
      | ended => ended

theorem retries_settle (delivery : Delivery M) (name : String) (layers : List Layer)
    (outcome : Outcome Unit) :
    (delivery.settle name layers outcome).2.1.map Layer.repeats? = layers.map Layer.repeats? := by
  cases outcome with
  | panicked => rfl
  | returned => exact retries_passOut ..
  | failed => exact retries_passOut ..

/-- The layers are content with a success, a panic, and a failure after the last attempt. -/
theorem attempt_ends
    (called : sink.toCore.call base (.process delivery.message) = (outcome, core))
    (final : (∃ failure, outcome = .failed failure) →
      attemptsLeft sink.layers delivery.attempts = 0) :
    ∃ after, sink.attempt base delivery = (.ends outcome, after) ∧ after.toCore = core ∧
      after.layers.map Layer.repeats? = sink.layers.map Layer.repeats? := by
  have ends : (delivery.settle base.name sink.layers outcome).1 = .ends outcome := by
    cases outcome with
    | panicked => rfl
    | returned => simp only [Delivery.settle, Delivery.settle.passed, Delivery.resume, passOut_ok]
    | failed failure =>
        simp only [Delivery.settle, Delivery.settle.passed, Delivery.resume,
          passOut_spent (final ⟨failure, rfl⟩)]
  simp only [LayeredSink.attempt, LayeredSink.call, called, ends]
  exact ⟨_, rfl, rfl, retries_settle ..⟩

/-- While attempts are left, another one follows a failure. -/
theorem attempt_again {left : Nat}
    (called : sink.toCore.call base (.process delivery.message) = (.failed failure, core))
    (begun : Begun delivery.attempts)
    (more : attemptsLeft sink.layers delivery.attempts = left + 1) :
    ∃ next after, sink.attempt base delivery =
        (.again (pauseAfter (retriesOf sink.layers)
          (allAttempts (retriesOf sink.layers) - (left + 1))) next, after) ∧
      next.message = delivery.message ∧ Begun next.attempts ∧
      attemptsLeft after.layers next.attempts = left ∧ after.toCore = core ∧
      after.layers.map Layer.repeats? = sink.layers.map Layer.repeats? := by
  obtain ⟨verdict, fewer, on⟩ := passOut_again base.name failure begun more
  have same := retries_passOut base.name sink.layers delivery.attempts (.error failure)
  simp only [LayeredSink.attempt, LayeredSink.call, called, Delivery.settle,
    Delivery.settle.passed, Delivery.resume, verdict]
  exact ⟨_, _, rfl, rfl, on, fewer, rfl, same⟩

/-- A stack of layers delivers as one loop does. -/
theorem deliver_persists {failed left : Nat} (begun : Begun delivery.attempts)
    (more : attemptsLeft sink.layers delivery.attempts = left)
    (sum : failed + left + 1 = allAttempts (retriesOf sink.layers)) :
    ∃ after, sink.deliver base delivery =
        ((sink.toCore.persist base delivery.message (pauseAfter (retriesOf sink.layers)) failed
          left).1, after) ∧
      after.toCore = (sink.toCore.persist base delivery.message
        (pauseAfter (retriesOf sink.layers)) failed left).2 ∧
      after.layers.map Layer.repeats? = sink.layers.map Layer.repeats? := by
  obtain ⟨outcome, called, calls⟩ : ∃ outcome called,
    sink.toCore.call base (.process delivery.message) = (outcome, called) := ⟨_, _, rfl⟩
  induction left generalizing sink delivery failed outcome called with
  | zero =>
      obtain ⟨after, ends, kept⟩ := attempt_ends calls fun _ => more
      rw [LayeredSink.deliver_of_ends ends, Core.persist, calls]
      exact ⟨after, rfl, kept⟩
  | succ left ih =>
      rw [Core.persist, calls]
      cases outcome with
      | returned =>
          obtain ⟨after, ends, kept⟩ := attempt_ends calls nofun
          exact ⟨after, LayeredSink.deliver_of_ends ends, kept⟩
      | panicked payload =>
          obtain ⟨after, ends, kept⟩ := attempt_ends calls nofun
          exact ⟨after, LayeredSink.deliver_of_ends ends, kept⟩
      | failed failure =>
          obtain ⟨next, after, again, same, on, fewer, rfl, kept⟩ :=
            attempt_again calls begun more
          have count : allAttempts (retriesOf sink.layers) - (left + 1) = failed + 1 := by omega
          have rest : failed + 1 + left + 1 = allAttempts (retriesOf after.layers) := by
            rw [retriesOf_congr kept]
            omega
          rw [LayeredSink.deliver_of_again again, count, ← same, ← kept, ← retriesOf_congr kept]
          exact ih on fewer rest _ _ rfl

/-! ### The retries of one message -/

/-- What a base that remembers `memory` answers to calls, one after the other. -/
def Base.Answers (base : Base σ M) (memory : σ) : List (BaseCall M) → σ → Prop
  | [], last => last = memory
  | record :: rest, last => ∃ next,
      base.answer record.time record.call memory = (record.answer, next) ∧
        base.Answers next rest last

/-- A message is delivered until it is not refused, `limit` times at most, with a pause after
each failure that another delivery follows. -/
structure Retried (base : Base σ M) (message : M) (limit : Nat) (Pauses : Nat → Nat → Prop)
    (before : Core σ M) (records : List (BaseCall M)) (outcome : Outcome Unit)
    (after : Core σ M) : Prop where
  kept : after.calls = before.calls ++ records
  answered : base.Answers before.memory records after.memory
  delivered : ∀ record ∈ records, record.call = .process message
  begins : records.head?.map BaseCall.time = some before.now
  within : records.length ≤ limit
  goesOn : ∀ count earlier later, records[count]? = some earlier →
    records[count + 1]? = some later →
    (∃ failure, earlier.answer.outcome = .failed failure) ∧
      ∃ backoff, Pauses (count + 1) backoff ∧
        later.time = earlier.time + earlier.answer.delay + backoff
  ends : ∃ last, records.getLast? = some last ∧ outcome = last.answer.outcome ∧
    after.now = last.time + last.answer.delay ∧
    ((∃ failure, outcome = .failed failure) → records.length = limit)

namespace Retried

variable {limit : Nat} {Pauses : Nat → Nat → Prop} {next after : Core σ M}
  {records : List (BaseCall M)}

theorem once (called : core.call base (.process message) = (outcome, after)) (positive : 0 < limit)
    (final : (∃ failure, outcome = .failed failure) → limit = 1) :
    ∃ records, Retried base message limit Pauses core records outcome after := by
  obtain ⟨rfl, rfl⟩ := Prod.mk.inj called
  refine ⟨_, rfl, ⟨_, rfl, rfl⟩, ?_, rfl, positive, ?_, _, rfl, rfl, rfl, fun failed => ?_⟩
  · simp
  · simp
  · exact (final failed).symm

theorem again (called : core.call base (.process message) = (.failed failure, next))
    {backoff : Nat} (pause : Pauses 1 backoff)
    (rest : Retried base message limit (fun count => Pauses (count + 1)) (next.wait backoff)
      records outcome after) :
    ∃ records, Retried base message (limit + 1) Pauses core records outcome after := by
  obtain ⟨failed, rfl⟩ := Prod.mk.inj called
  refine ⟨_ :: records, rest.kept.trans (List.append_assoc ..), ⟨_, rfl, rest.answered⟩, ?_, rfl,
    Nat.succ_le_succ rest.within, fun count earlier later => ?_, ?_⟩
  · exact List.forall_mem_cons.mpr ⟨rfl, rest.delivered⟩
  · cases count with
    | zero =>
        intro first second
        cases first
        rw [List.getElem?_cons_succ, ← List.head?_eq_getElem?] at second
        have begins := rest.begins
        rw [second] at begins
        exact ⟨⟨failure, failed⟩, backoff, pause, Option.some.inj begins⟩
    | succ count => exact rest.goesOn count earlier later
  · obtain ⟨last, ends, same, time, full⟩ := rest.ends
    refine ⟨last, ?_, same, time, fun failed => congrArg (· + 1) (full failed)⟩
    rw [List.getLast?_cons, ends]
    rfl

/-- The pauses only matter up to the last delivery but one. -/
theorem mono {Others : Nat → Nat → Prop} {records : List (BaseCall M)}
    (retried : Retried base message limit Pauses core records outcome after)
    (same : ∀ count backoff, count + 1 < limit → Pauses (count + 1) backoff →
      Others (count + 1) backoff) :
    Retried base message limit Others core records outcome after := by
  refine { retried with goesOn := fun count earlier later first second => ?_ }
  obtain ⟨failed, backoff, pause, time⟩ := retried.goesOn count earlier later first second
  have another := (List.getElem?_eq_some_iff.mp second).1
  exact ⟨failed, backoff, same _ _ (Nat.lt_of_lt_of_le another retried.within) pause, time⟩

end Retried

theorem persist_retried (base : Base σ M) (message : M) (core : Core σ M) (pause : Nat → Nat)
    (failed left : Nat) :
    ∃ records, Retried base message (left + 1)
      (fun count backoff => backoff = pause (failed + count)) core records
      (core.persist base message pause failed left).1
      (core.persist base message pause failed left).2 := by
  obtain ⟨outcome, next, called⟩ : ∃ outcome next,
    core.call base (.process message) = (outcome, next) := ⟨_, _, rfl⟩
  induction left generalizing core failed outcome next with
  | zero =>
      rw [Core.persist, called]
      exact Retried.once called Nat.one_pos fun _ => rfl
  | succ left ih =>
      rw [Core.persist, called]
      cases outcome with
      | returned => exact Retried.once called (Nat.succ_pos _) nofun
      | panicked payload => exact Retried.once called (Nat.succ_pos _) nofun
      | failed failure =>
          obtain ⟨records, rest⟩ := ih _ (failed + 1) _ _ rfl
          refine Retried.again called rfl (rest.mono fun count backoff _ pause => ?_)
          rw [pause, Nat.add_assoc, Nat.add_comm 1]

/-! ### Stacks that behave alike -/

namespace Core

/-- A call of retry layers around the base sink. -/
def perform (core : Core σ M) (base : Base σ M) (retries : List (Nat × Nat)) :
    SinkCall M → Outcome Unit × Core σ M
  | .start => core.call base .start
  | .stop => core.call base .stop
  | .process message =>
      core.persist base message (pauseAfter retries) 0 (allAttempts retries - 1)

def serve (core : Core σ M) (base : Base σ M) (retries : List (Nat × Nat)) :
    List (SinkCall M) → List (Outcome Unit) × Core σ M
  | [] => ([], core)
  | call :: rest =>
      let (outcome, next) := core.perform base retries call
      let (outcomes, last) := next.serve base retries rest
      (outcome :: outcomes, last)

end Core

theorem perform_core (base : Base σ M) (sink : LayeredSink σ M) (call : SinkCall M) :
    ∃ after, sink.perform base call =
        ((sink.toCore.perform base (retriesOf sink.layers) call).1, after) ∧
      after.toCore = (sink.toCore.perform base (retriesOf sink.layers) call).2 ∧
      after.layers.map Layer.repeats? = sink.layers.map Layer.repeats? := by
  cases call with
  | start => exact ⟨_, rfl, rfl, rfl⟩
  | stop => exact ⟨_, rfl, rfl, rfl⟩
  | process message =>
      have total := attemptsLeft_start sink.layers
      have begun : Begun (Delivery.start sink.layers message).attempts := by
        simp [Delivery.start, Begun]
      exact deliver_persists begun (Nat.sub_eq_of_eq_add total.symm).symm (by omega)

/-- What retry layers do to the base sink, and what they return, is decided by how often they
deliver and by their pauses; other layers have no part in it. -/
theorem serve_core (base : Base σ M) (sink : LayeredSink σ M)
    (calls : List (SinkCall M)) :
    ∃ last, sink.serve base calls =
        ((sink.toCore.serve base (retriesOf sink.layers) calls).1, last) ∧
      last.toCore = (sink.toCore.serve base (retriesOf sink.layers) calls).2 ∧
      last.layers.map Layer.repeats? = sink.layers.map Layer.repeats? := by
  induction calls generalizing sink with
  | nil => exact ⟨_, rfl, rfl, rfl⟩
  | cons call rest ih =>
      obtain ⟨after, performed, inside, kept⟩ := perform_core base sink call
      obtain ⟨last, served, result, still⟩ := ih after
      rw [inside, retriesOf_congr kept] at served result
      simp only [LayeredSink.serve, Core.serve, performed, served]
      exact ⟨last, rfl, result, still.trans kept⟩

/-- The layers of a stack of retries. -/
def retryLayers (retries : List (Nat × Nat)) : List Layer :=
  retries.map fun (limit, backoff) => .retry limit backoff

def LayeredSink.under (sink : LayeredSink σ M) (layers : List Layer) : LayeredSink σ M :=
  { sink with layers }

@[simp]
theorem under_layers (sink : LayeredSink σ M) (layers : List Layer) :
    (sink.under layers).layers = layers :=
  rfl

/-- Around every base sink and for all calls, the stacks return the same and call the base
sink at the same times and with the same. -/
def Alike (layers others : List Layer) : Prop :=
  ∀ {σ M : Type} (base : Base σ M) (sink : LayeredSink σ M) (calls : List (SinkCall M)),
    ((sink.under layers).serve base calls).1 = ((sink.under others).serve base calls).1 ∧
      ((sink.under layers).serve base calls).2.toCore =
        ((sink.under others).serve base calls).2.toCore

theorem retries_retryLayers (retries : List (Nat × Nat)) :
    (retryLayers retries).map Layer.repeats? = retries.map some := by
  simp [retryLayers, Layer.repeats?]

theorem retriesOf_retryLayers (retries : List (Nat × Nat)) :
    retriesOf (retryLayers retries) = retries := by
  rw [retriesOf, retryLayers, List.filterMap_map]
  exact List.filterMap_some

theorem eq_retryLayers {layers : List Layer} {retries : List (Nat × Nat)}
    (same : layers.map Layer.repeats? = retries.map some) : layers = retryLayers retries := by
  induction layers generalizing retries with
  | nil => cases retries <;> first | rfl | cases same
  | cons layer outer ih =>
      cases retries with
      | nil => cases same
      | cons retry rest =>
          obtain ⟨first, others⟩ := List.cons.inj same
          rw [ih others, retryLayers, retryLayers, List.map_cons]
          cases layer with
          | instrumented => cases first
          | retry limit backoff =>
              cases first
              rfl

theorem Core.serve_congr {retries others : List (Nat × Nat)}
    (attempts : allAttempts retries = allAttempts others)
    (pauses : pauseAfter retries = pauseAfter others) (base : Base σ M) (core : Core σ M)
    (calls : List (SinkCall M)) :
    core.serve base retries calls = core.serve base others calls := by
  induction calls generalizing core with
  | nil => rfl
  | cons call rest ih =>
      have same : core.perform base retries call = core.perform base others call := by
        cases call <;> simp only [Core.perform, attempts, pauses]
      simp only [Core.serve, same, ih]

theorem alike_of_pauses {layers others : List Layer}
    (attempts : allAttempts (retriesOf layers) = allAttempts (retriesOf others))
    (pauses : pauseAfter (retriesOf layers) = pauseAfter (retriesOf others)) :
    Alike layers others := by
  intro σ M base sink calls
  obtain ⟨last, served, inside, -⟩ := serve_core base (sink.under layers) calls
  obtain ⟨other, alike, same, -⟩ := serve_core base (sink.under others) calls
  have congr := Core.serve_congr attempts pauses base sink.toCore calls
  obtain ⟨outcomes, cores⟩ := Prod.ext_iff.mp congr
  rw [served, alike]
  exact ⟨outcomes, inside.trans (cores.trans same.symm)⟩

theorem pauseAfter_append (inner : List (Nat × Nat)) {stack others : List (Nat × Nat)}
    (same : pauseAfter stack = pauseAfter others) :
    pauseAfter (inner ++ stack) = pauseAfter (inner ++ others) := by
  induction inner with
  | nil => exact same
  | cons retry inner ih => funext count; simp only [List.cons_append, pauseAfter, ih]

/-- A layer with one attempt never pauses. -/
theorem pauseAfter_transparent (single : limit ≤ 1) (backoff : Nat) (outer : List (Nat × Nat)) :
    pauseAfter ((limit, backoff) :: outer) = pauseAfter outer := by
  have one : Layer.attemptsOf limit = 1 := Nat.max_eq_right single
  funext count
  rw [pauseAfter, one, if_pos (Nat.one_dvd count), Nat.div_one]

theorem attemptsOf_allAttempts (retries : List (Nat × Nat)) :
    Layer.attemptsOf (allAttempts retries) = allAttempts retries :=
  Nat.max_eq_left (allAttempts_pos retries)

/-- Layers with one backoff pause as a single layer with all their attempts does. -/
theorem pauseAfter_merged (limits : List Nat) (backoff : Nat) (outer : List (Nat × Nat)) :
    pauseAfter (limits.map (·, backoff) ++ outer) =
      pauseAfter ((allAttempts (limits.map (·, backoff)), backoff) :: outer) := by
  induction limits with
  | nil => exact (pauseAfter_transparent (Nat.le_refl 1) backoff outer).symm
  | cons limit rest ih =>
      funext count
      have positive := attemptsOf_pos limit
      rw [List.map_cons, List.cons_append, pauseAfter, ih, pauseAfter, pauseAfter,
        attemptsOf_allAttempts, attemptsOf_allAttempts, allAttempts]
      by_cases handed : Layer.attemptsOf limit ∣ count
      · obtain ⟨rounds, rfl⟩ := handed
        rw [if_pos (Nat.dvd_mul_right ..), Nat.mul_div_cancel_left _ positive,
          Nat.mul_div_mul_left _ _ positive]
        simp only [Nat.mul_dvd_mul_iff_left positive]
      · have unfinished : ¬ Layer.attemptsOf limit * allAttempts (rest.map (·, backoff)) ∣ count :=
          fun all => handed (Nat.dvd_trans (Nat.dvd_mul_right ..) all)
        rw [if_neg handed, if_neg unfinished]

/-- Retry layers around a base sink deliver a message until it is not refused, as often as the
product of their attempts allows.  After a failure that another delivery follows they pause for
the backoff of the innermost layer whose attempts, with those of the layers inside it, are not
all used up.  They return how the last delivery ended, and stay what they are.

Layers with the same backoff therefore behave as one layer with the product of the attempts,
and layers with a single attempt behave as if they were not there. -/
theorem nested_retries (base : Base σ M) (sink : LayeredSink σ M) (message : M)
    (retries : List (Nat × Nat)) :
    (∃ records outcome after,
      (sink.under (retryLayers retries)).perform base (.process message) = (outcome, after) ∧
      Retried base message (allAttempts retries) (PausesFor retries) sink.toCore records outcome
        after.toCore ∧
      after.layers = retryLayers retries) ∧
    (∀ inner (limits : List Nat) backoff outer,
      retries = inner ++ limits.map (·, backoff) ++ outer → Alike (retryLayers retries)
        (retryLayers (inner ++ (allAttempts (limits.map (·, backoff)), backoff) :: outer))) ∧
    (∀ inner limit backoff outer, retries = inner ++ (limit, backoff) :: outer → limit ≤ 1 →
      Alike (retryLayers retries) (retryLayers (inner ++ outer))) := by
  refine ⟨?_, fun inner limits backoff outer stack => ?_,
    fun inner limit backoff outer stack single => ?_⟩
  · obtain ⟨after, performed, inside, kept⟩ :=
      perform_core base (sink.under (retryLayers retries)) (.process message)
    rw [under_layers, retries_retryLayers] at kept
    rw [under_layers, retriesOf_retryLayers] at performed inside
    have positive := allAttempts_pos retries
    obtain ⟨records, retried⟩ := persist_retried base message sink.toCore (pauseAfter retries) 0
      (allAttempts retries - 1)
    rw [Nat.sub_add_cancel positive] at retried
    refine ⟨records, _, after, performed, ?_, eq_retryLayers kept⟩
    rw [inside]
    refine retried.mono fun count backoff fewer pause => ?_
    rw [pause, Nat.zero_add]
    exact pausesFor_pauseAfter (Nat.not_dvd_of_pos_of_lt (Nat.succ_pos count) fewer)
  · subst stack
    apply alike_of_pauses <;> rw [retriesOf_retryLayers, retriesOf_retryLayers]
    · simp only [allAttempts_append, allAttempts, attemptsOf_allAttempts, Nat.mul_assoc]
    · rw [List.append_assoc]
      exact pauseAfter_append inner (pauseAfter_merged limits backoff outer)
  · subst stack
    apply alike_of_pauses <;> rw [retriesOf_retryLayers, retriesOf_retryLayers]
    · have one : Layer.attemptsOf limit = 1 := Nat.max_eq_right single
      simp only [allAttempts_append, allAttempts, one, Nat.one_mul]
    · exact pauseAfter_append inner (pauseAfter_transparent single backoff outer)

theorem nested_retries_of_three :
    Alike (retryLayers [(2, 10), (0, 40), (3, 70)]) (retryLayers [(2, 10), (3, 70)]) :=
  (nested_retries (⟨"base", fun _ _ _ => (⟨0, .returned ()⟩, ())⟩ : Base Unit Unit)
    { memory := () } () [(2, 10), (0, 40), (3, 70)]).2.2 [(2, 10)] 0 40 [(3, 70)] rfl (by decide)

end Batching

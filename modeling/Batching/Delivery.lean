import Batching.Notice

namespace Batching

/-! Delivery of one message through layers around a base sink.

Layers are listed from the inside out.  An instrumented layer counts how the calls
it makes end; a retry layer calls again after a failure, up to a number of attempts
and with a pause before each further one.  A panic passes all layers by.

A delivery waits in the base sink and in the pauses between attempts only, so a
delivery under way is the message and, per layer, the number of the present attempt.
-/

inductive Layer where
  | instrumented (processed failed : Nat)
  | retry (attempts backoff : Nat)
deriving DecidableEq, Repr

namespace Layer

/-- The first delivery counts as an attempt, so there is always at least one. -/
def attemptsOf (attempts : Nat) : Nat :=
  max attempts 1

def counts? : Layer → Option (Nat × Nat)
  | .instrumented processed failed => some (processed, failed)
  | .retry _ _ => none

end Layer

/-- What follows when a call of the base sink has ended. -/
inductive Verdict where
  | ends (result : Except Failure Unit)
  | again (backoff : Nat)

/-- The layers after a call of the base sink has passed through them, with the
attempts that the delivery goes on with. -/
structure Passage where
  layers : List Layer
  attempts : List Nat
  verdict : Verdict
  notices : List Notice

namespace Passage

/-- One more layer on the inside, at its first attempt. -/
def around (layer : Layer) (passage : Passage) : Passage :=
  { passage with
    layers := layer :: passage.layers
    attempts := 1 :: passage.attempts }

def noting (notice : Notice) (passage : Passage) : Passage :=
  { passage with notices := notice :: passage.notices }

end Passage

/-- Passes the result of a call of the base sink through the layers.  A retry layer
that calls again starts the layers inside it afresh and leaves those outside alone. -/
def passOut (sink : String) : List Layer → List Nat → Except Failure Unit → Passage
  | [], _, result => ⟨[], [], .ends result, []⟩
  | .instrumented processed failed :: outer, attempts, .ok () =>
      ((passOut sink outer (attempts.drop 1) (.ok ())).around
        (.instrumented (processed + 1) failed)).noting (.delivered sink)
  | .instrumented processed failed :: outer, attempts, .error failure =>
      ((passOut sink outer (attempts.drop 1) (.error failure)).around
        (.instrumented processed (failed + 1))).noting (.deliveryFailed sink failure)
  | .retry limit backoff :: outer, attempts, .ok () =>
      (passOut sink outer (attempts.drop 1) (.ok ())).around (.retry limit backoff)
  | .retry limit backoff :: outer, attempts, .error failure =>
      let attempt := attempts.headD 1
      if attempt < Layer.attemptsOf limit then
        { layers := .retry limit backoff :: outer
          attempts := (attempt + 1) :: attempts.drop 1
          verdict := .again backoff
          notices := [.deliveryRetried sink attempt (Layer.attemptsOf limit) failure] }
      else
        (passOut sink outer (attempts.drop 1) (.error failure)).around (.retry limit backoff)

/-- How often the layers can still call the base sink again for this delivery. -/
def attemptsLeft : List Layer → List Nat → Nat
  | [], _ => 0
  | .instrumented _ _ :: outer, attempts => attemptsLeft outer (attempts.drop 1)
  | .retry limit _ :: outer, attempts =>
      Layer.attemptsOf limit * attemptsLeft outer (attempts.drop 1) +
        (Layer.attemptsOf limit - attempts.headD 1)

theorem attemptsLeft_again {sink : String} {layers : List Layer} {attempts : List Nat}
    {result : Except Failure Unit} {backoff : Nat}
    (again : (passOut sink layers attempts result).verdict = .again backoff) :
    attemptsLeft (passOut sink layers attempts result).layers
      (passOut sink layers attempts result).attempts < attemptsLeft layers attempts := by
  induction layers generalizing attempts with
  | nil => cases again
  | cons layer outer ih =>
      cases layer with
      | instrumented processed failed =>
          cases result <;> exact ih again
      | retry limit backoff =>
          have positive : 1 ≤ Layer.attemptsOf limit := Nat.le_max_right ..
          have spent {left : Nat} (less : left < attemptsLeft outer (attempts.drop 1)) :
              Layer.attemptsOf limit * left + (Layer.attemptsOf limit - 1) <
                Layer.attemptsOf limit * attemptsLeft outer (attempts.drop 1) +
                  (Layer.attemptsOf limit - attempts.headD 1) := by
            have product := Nat.mul_le_mul_left (Layer.attemptsOf limit) less
            rw [Nat.mul_succ] at product
            omega
          cases result with
          | ok => exact spent (ih again)
          | error failure =>
              simp only [passOut] at again ⊢
              split
              · rename_i fewer
                simp only [attemptsLeft, List.headD_cons, List.drop_succ_cons, List.drop_zero]
                omega
              · rename_i used
                rw [if_neg used] at again
                exact spent (ih again)

/-- A message on its way, with the present attempt of each layer. -/
structure Delivery (M : Type) where
  message : M
  attempts : List Nat
deriving Repr

namespace Delivery

variable {M : Type}

def start (layers : List Layer) (message : M) : Delivery M where
  message := message
  attempts := layers.map fun _ => 1

end Delivery

/-- A call of the base sink has ended: either the delivery is over, or it goes on
after a pause. -/
inductive Continuation (M : Type) where
  | ends (outcome : Outcome Unit)
  | again (backoff : Nat) (delivery : Delivery M)

namespace Delivery

variable {M : Type}

def resume (delivery : Delivery M) (passage : Passage) : Continuation M :=
  match passage.verdict with
  | .ends (.ok ()) => .ends (.returned ())
  | .ends (.error failure) => .ends (.failed failure)
  | .again backoff => .again backoff { delivery with attempts := passage.attempts }

/-- Passes the end of a call of the base sink through the layers.  A panic passes
them by. -/
def settle (sink : String) (layers : List Layer) (delivery : Delivery M) :
    Outcome Unit → Continuation M × List Layer × List Notice
  | .panicked payload => (.ends (.panicked payload), layers, [])
  | .returned () => passed (.ok ())
  | .failed failure => passed (.error failure)
where
  passed (result : Except Failure Unit) : Continuation M × List Layer × List Notice :=
    let passage := passOut sink layers delivery.attempts result
    (delivery.resume passage, passage.layers, passage.notices)

theorem settle_message {sink : String} {layers after : List Layer}
    {delivery paused : Delivery M} {outcome : Outcome Unit} {backoff : Nat} {notices : List Notice}
    (settled : delivery.settle sink layers outcome = (.again backoff paused, after, notices)) :
    paused.message = delivery.message := by
  have resumed {passage : Passage} (again : delivery.resume passage = .again backoff paused) :
      paused.message = delivery.message := by
    unfold resume at again
    split at again <;> cases again
    rfl
  cases outcome with
  | returned => exact resumed (congrArg Prod.fst settled)
  | failed failure => exact resumed (congrArg Prod.fst settled)
  | panicked payload => cases settled

/-- The layers let another delivery follow only while they have attempts left. -/
theorem settle_again {sink : String} {layers after : List Layer} {delivery next : Delivery M}
    {outcome : Outcome Unit} {backoff : Nat} {notices : List Notice}
    (passed : delivery.settle sink layers outcome = (.again backoff next, after, notices)) :
    attemptsLeft after next.attempts < attemptsLeft layers delivery.attempts := by
  have goes {result : Except Failure Unit}
      (passed : settle.passed sink layers delivery result =
        (.again backoff next, after, notices)) :
      attemptsLeft after next.attempts < attemptsLeft layers delivery.attempts := by
    unfold settle.passed resume at passed
    cases verdict : (passOut sink layers delivery.attempts result).verdict with
    | ends result =>
        cases result <;> simp [verdict] at passed
    | again pause =>
        simp only [verdict, Prod.mk.injEq, Continuation.again.injEq] at passed
        obtain ⟨⟨rfl, rfl⟩, rfl, rfl⟩ := passed
        exact attemptsLeft_again verdict
  cases outcome with
  | panicked payload => cases passed
  | returned => exact goes passed
  | failed failure => exact goes passed

end Delivery

end Batching

import Batching.Delivery

namespace Batching

/-! A layered sink by itself, called again and again.

The base sink is known only by its answers: how long a call of it takes and how it ends may
depend on the time and on everything that it was called with before.  The layers pass a
start or a stop on; a message is delivered to the base until they are content, with a pause
before each delivery that follows a failure.
-/

/-- The calls of a sink. -/
inductive SinkCall (M : Type) where
  | start
  | stop
  | process (message : M)
deriving Repr

/-- How long a call of a base sink takes, and how it ends. -/
structure Answer where
  delay : Nat := 0
  outcome : Outcome Unit
deriving Repr

/-- A sink without layers: its name, and its answer to a call that begins at some time.
What it remembers of earlier calls is of type `σ`. -/
structure Base (σ M : Type) where
  name : String
  answer : Nat → SinkCall M → σ → Answer × σ

/-- A call of a base sink: when it began, of what, and how it was answered. -/
structure BaseCall (M : Type) where
  time : Nat
  call : SinkCall M
  answer : Answer

/-- The inside of a layered sink: the time, what the base remembers and how it has been
called so far. -/
structure Core (σ M : Type) where
  now : Nat := 0
  memory : σ
  calls : List (BaseCall M) := []

namespace Core

variable {σ M : Type}

def call (core : Core σ M) (base : Base σ M) (call : SinkCall M) : Outcome Unit × Core σ M :=
  let (answer, memory) := base.answer core.now call core.memory
  (answer.outcome,
    { now := core.now + answer.delay
      memory
      calls := core.calls ++ [⟨core.now, call, answer⟩] })

def wait (core : Core σ M) (delay : Nat) : Core σ M :=
  { core with now := core.now + delay }

end Core

structure LayeredSink (σ M : Type) extends Core σ M where
  layers : List Layer := []
  notices : List Notice := []

/-- Every layer goes by the name of the sink inside it. -/
def Layer.nameAround (inner : String) : Layer → String
  | .instrumented _ _ => inner
  | .retry _ _ => inner

namespace LayeredSink

variable {σ M : Type}

def name (sink : LayeredSink σ M) (base : Base σ M) : String :=
  sink.layers.foldl Layer.nameAround base.name

/-- One call of the base sink. -/
def call (sink : LayeredSink σ M) (base : Base σ M) (call : SinkCall M) :
    Outcome Unit × LayeredSink σ M :=
  let (outcome, core) := sink.toCore.call base call
  (outcome, { sink with toCore := core })

def noting (sink : LayeredSink σ M) (notices : List Notice) : LayeredSink σ M :=
  { sink with notices := sink.notices ++ notices }

def wait (sink : LayeredSink σ M) (delay : Nat) : LayeredSink σ M :=
  { sink with toCore := sink.toCore.wait delay }

/-- One call of the base sink for a delivery, passed on to the layers. -/
def attempt (sink : LayeredSink σ M) (base : Base σ M) (delivery : Delivery M) :
    Continuation M × LayeredSink σ M :=
  let (outcome, called) := sink.call base (.process delivery.message)
  let (continuation, layers, notices) := delivery.settle base.name sink.layers outcome
  (continuation, { called with layers }.noting notices)

variable {sink after : LayeredSink σ M} {base : Base σ M} {delivery next : Delivery M}
  {result : Outcome Unit} {backoff : Nat}

theorem attemptsLeft_attempt (again : sink.attempt base delivery = (.again backoff next, after)) :
    attemptsLeft after.layers next.attempts < attemptsLeft sink.layers delivery.attempts := by
  obtain ⟨continuation, rfl⟩ := Prod.mk.inj again
  exact Delivery.settle_again (Prod.ext continuation rfl)

/-- Goes on with a delivery until the layers are content. -/
def deliver (sink : LayeredSink σ M) (base : Base σ M) (delivery : Delivery M) :
    Outcome Unit × LayeredSink σ M :=
  match _attempt : sink.attempt base delivery with
  | (.ends result, after) => (result, after)
  | (.again backoff next, after) => (after.wait backoff).deliver base next
termination_by attemptsLeft sink.layers delivery.attempts
decreasing_by
  have fewer := attemptsLeft_attempt _attempt
  exact fewer

theorem deliver_of_ends (ended : sink.attempt base delivery = (.ends result, after)) :
    sink.deliver base delivery = (result, after) := by
  rw [deliver]
  split
  · rename_i same
    cases same.symm.trans ended
    rfl
  · rename_i other
    cases other.symm.trans ended

theorem deliver_of_again (again : sink.attempt base delivery = (.again backoff next, after)) :
    sink.deliver base delivery = (after.wait backoff).deliver base next := by
  rw [deliver]
  split
  · rename_i other
    cases other.symm.trans again
  · rename_i same
    cases same.symm.trans again
    rfl

/-- A call of the outermost layer. -/
def perform (sink : LayeredSink σ M) (base : Base σ M) :
    SinkCall M → Outcome Unit × LayeredSink σ M
  | .start => sink.call base .start
  | .stop => sink.call base .stop
  | .process message => sink.deliver base (Delivery.start sink.layers message)

/-- Performs calls one after the other, and keeps how each ended. -/
def serve (sink : LayeredSink σ M) (base : Base σ M) :
    List (SinkCall M) → List (Outcome Unit) × LayeredSink σ M
  | [] => ([], sink)
  | call :: rest =>
      let (outcome, next) := sink.perform base call
      let (outcomes, last) := next.serve base rest
      (outcome :: outcomes, last)

end LayeredSink

end Batching

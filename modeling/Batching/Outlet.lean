import Batching.Accumulator
import Batching.Delivery

namespace Batching

/-! An accumulator whose sink passes each message through layers to a base sink.

The accumulator knows of one call of its sink for each message.  That call is under way
from its first delivery to the base sink until the layers are content with how a
delivery ended; in between, the layers may pause and deliver the same message again.
-/

/-- Where a call of the layered sink waits: for the base sink, or for a pause to pass. -/
inductive Stage (M : Type) where
  | delivering (delivery : Delivery M)
  | resting (delivery : Delivery M)
deriving Repr

def Stage.delivery {M : Type} : Stage M → Delivery M
  | .delivering delivery => delivery
  | .resting delivery => delivery

structure Outlet (M : Type) where
  accumulator : Accumulator M
  sink : String
  layers : List Layer := []
  /-- The calls of the sink that have not returned, by the runner that waits for each. -/
  underway : List (Nat × Stage M) := []

/-- One thing that may happen next. -/
inductive OutletMove (M : Type) where
  | life (move : Move M)
  | delivered (runner : Nat) (outcome : Outcome Unit)
  | redeliver (runner : Nat)

/-- What a move does that can be seen from outside, in order. -/
inductive OutletEvent (M : Type) where
  | seen (event : Event M)
  | noted (notice : Notice)
  | deliveryBegan (runner : Nat) (message : M)
  | paused (runner backoff : Nat)

namespace Outlet

variable {M : Type}

def stage? (outlet : Outlet M) (runner : Nat) : Option (Stage M) :=
  outlet.underway.lookup runner

def finish (outlet : Outlet M) (runner : Nat) : Outlet M :=
  { outlet with underway := outlet.underway.filter fun entry => entry.1 != runner }

def enter (outlet : Outlet M) (runner : Nat) (stage : Stage M) : Outlet M :=
  { outlet with underway := (runner, stage) :: (outlet.finish runner).underway }

/-- A call of the sink begins with a first delivery to the base sink. -/
def follow (outlet : Outlet M) : Event M → Outlet M × List (OutletEvent M)
  | .processBegan runner cycle message =>
      (outlet.enter runner (.delivering (Delivery.start outlet.layers message)),
        [.seen (.processBegan runner cycle message), .deliveryBegan runner message])
  | event => (outlet, [.seen event])

def followAll (outlet : Outlet M) : List (Event M) → Outlet M × List (OutletEvent M)
  | [] => (outlet, [])
  | event :: rest =>
      let (next, first) := outlet.follow event
      let (after, others) := next.followAll rest
      (after, first ++ others)

/-- The accumulator moves, and the calls of the sink that it begins are entered. -/
def advance (now : Nat) (outlet : Outlet M) (move : Move M) :
    Option (Outlet M × List (OutletEvent M)) :=
  match outlet.accumulator.step now move with
  | none => none
  | some (accumulator, events) => some ({ outlet with accumulator }.followAll events)

def settle (now : Nat) (outlet : Outlet M) (runner : Nat) (delivery : Delivery M)
    (outcome : Outcome Unit) : Option (Outlet M × List (OutletEvent M)) :=
  let (continuation, layers, notices) := delivery.settle outlet.sink outlet.layers outcome
  let settled := { outlet with layers }
  match continuation with
  | .ends result =>
      match (settled.finish runner).advance now (.worker runner (.processed result)) with
      | none => none
      | some (after, events) => some (after, notices.map OutletEvent.noted ++ events)
  | .again backoff delivery =>
      some (settled.enter runner (.resting delivery),
        notices.map OutletEvent.noted ++ [.paused runner backoff])

/-- Performs one move at time `now`; nothing if it is not possible here.  A call of the
sink returns only by way of the base sink. -/
def step (now : Nat) (outlet : Outlet M) :
    OutletMove M → Option (Outlet M × List (OutletEvent M))
  | .life (.worker _ (.processed _)) => none
  | .life move => outlet.advance now move
  | .delivered runner outcome =>
      match outlet.stage? runner with
      | some (.delivering delivery) => outlet.settle now runner delivery outcome
      | _ => none
  | .redeliver runner =>
      match outlet.stage? runner with
      | some (.resting delivery) =>
          some (outlet.enter runner (.delivering delivery),
            [.deliveryBegan runner delivery.message])
      | _ => none

end Outlet

end Batching

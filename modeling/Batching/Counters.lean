import Batching.Failure

namespace Batching

/-! What an accumulator has done since it was made. -/

structure Counters where
  cycles : Nat := 0
  failedCycles : Nat := 0
  received : Nat := 0
  dispatched : Nat := 0
  discarded : Nat := 0
  startedAt : Option Nat := none
deriving DecidableEq, Repr

namespace Counters

def nextCycle (counters : Counters) : Counters :=
  { counters with cycles := counters.cycles + 1 }

def countReceived (counters : Counters) : Counters :=
  { counters with received := counters.received + 1 }

def countDispatched (counters : Counters) : Counters :=
  { counters with dispatched := counters.dispatched + 1 }

/-- Messages dropped undelivered because the accumulator is stopping. -/
def countDropped (counters : Counters) (dropped : Nat) : Counters :=
  { counters with discarded := counters.discarded + dropped }

/-- An abandoned cycle and the messages that went with it. -/
def countFailure (counters : Counters) (discarded : Nat) : Counters :=
  { counters with
    failedCycles := counters.failedCycles + 1
    discarded := counters.discarded + discarded }

def markStarted (counters : Counters) (now : Nat) : Counters :=
  { counters with startedAt := some now }

end Counters

/-- The counters together with the state and the messages held at the same moment. -/
structure Stats where
  state : RunState
  pending : Nat
  counters : Counters
deriving DecidableEq, Repr

end Batching

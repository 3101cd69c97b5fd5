import Batching.Settings

namespace Batching

/-! When a fill phase is complete.

Two caps end it by size: the content cap looks at the messages the batch holds and
is asked first, the size cap looks at the number of messages taken in this cycle.
The time budget is watched by the cycle itself.
-/

inductive FillExit where
  | batchSize
  | outBatchSize
  | deadlineExpired
  | receiveTimedOut
  | stopped
deriving DecidableEq, Repr

def FillExit.text : FillExit → String
  | .batchSize => "batch_size"
  | .outBatchSize => "out_batch_size"
  | .deadlineExpired => "deadline_expired"
  | .receiveTimedOut => "receive_timed_out"
  | .stopped => "stopped"

/-- A cap on content allows at least one message. -/
abbrev Cap := { size : Nat // 0 < size }

def Cap.ofNat? (size : Nat) : Option Cap :=
  if positive : 0 < size then some ⟨size, positive⟩ else none

/-- Limits of one cycle; the time budget counts milliseconds.  A budget is meant to be below
2 ^ 64, as all are that a file, the environment or an option gives.  The clock has a moment at
which such a budget runs out.  For one of about 2 ^ 63 seconds it has none, and a cycle could
not set its deadline. -/
structure Policy where
  batchSize : Nat := 100
  outBatchSize : Option Cap := none
  batchTimeout : Nat := 1000
deriving DecidableEq, Repr

namespace Policy

def ofSettings (settings : Settings) : Policy where
  batchSize := settings.batchSize
  outBatchSize := Cap.ofNat? settings.outBatchSize
  batchTimeout := settings.batchTimeout

def withBatchSize (policy : Policy) (size : Nat) : Policy :=
  { policy with batchSize := size }

def withOutBatchSize (policy : Policy) (size : Nat) : Policy :=
  { policy with outBatchSize := Cap.ofNat? size }

def withBatchTimeout (policy : Policy) (timeout : Nat) : Policy :=
  { policy with batchTimeout := timeout }

/-- The content cap as a number, zero where there is none. -/
def outBatchSizeOrZero (policy : Policy) : Nat :=
  match policy.outBatchSize with
  | some cap => cap.val
  | none => 0

def contentCapReached (policy : Policy) (held : Nat) : Bool :=
  match policy.outBatchSize with
  | some cap => cap.val ≤ held
  | none => false

/-- The cap, if any, that ends the fill phase before message `index` is asked for,
while the batch holds `held` messages. -/
def completion (policy : Policy) (index held : Nat) : Option FillExit :=
  if policy.contentCapReached held then some .outBatchSize
  else if policy.batchSize ≤ index then some .batchSize
  else none

def isCompleted (policy : Policy) (index held : Nat) : Bool :=
  (policy.completion index held).isSome

end Policy

end Batching

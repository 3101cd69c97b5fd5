import Batching.Batch

namespace Batching.Batch

/-! The operations on a batch as data, with gates that may panic.

The batch stands behind a lock, which every operation holds from its beginning to its
end.  A gate runs while the lock is held.  If it panics the operation ends there, with
the batch as it was before, and the lock is poisoned from then on.  An operation that
finds the lock poisoned goes on with the batch that it guards.
-/

/-- What a gate does when it is asked. -/
inductive Gate where
  | answers (allowed : Bool)
  | panics (message : String)
deriving DecidableEq, Repr

inductive Operation (M : Type) where
  | append (message : M)
  | appendIf (message : M) (gate : Gate)
  | popFront
  | popFrontIf (gate : Gate)
  | size
  | isEmpty
  | clear
deriving Repr

inductive Reply (M : Type) where
  | done
  | message (message : Option M)
  | truth (value : Bool)
  | count (value : Nat)
  | panicked (message : String)
deriving DecidableEq, Repr

/-- A batch and whether a panic has poisoned its lock. -/
structure Guarded (M : Type) where
  batch : Batch M := {}
  poisoned : Bool := false
deriving Repr

namespace Guarded

variable {M : Type}

/-- What taking the lock gives: the batch, as an error if the lock is poisoned. -/
def lock (guarded : Guarded M) : Except (Batch M) (Batch M) :=
  if guarded.poisoned then .error guarded.batch else .ok guarded.batch

/-- The batch.  No panic leaves it half changed, so a poisoned lock is as good as any. -/
def items (guarded : Guarded M) : Batch M :=
  match guarded.lock with
  | .ok batch => batch
  | .error batch => batch

/-- Puts the batch that an operation leaves in the place of the one it found. -/
def store (guarded : Guarded M) (result : Reply M × Batch M) : Reply M × Guarded M :=
  (result.1, { guarded with batch := result.2 })

/-- Asks a gate with the lock held and goes on with its answer, if it gives one. -/
def ask (guarded : Guarded M) (gate : Gate) (proceed : Bool → Reply M × Batch M) :
    Reply M × Guarded M :=
  match gate with
  | .answers allowed => guarded.store (proceed allowed)
  | .panics text => (.panicked text, { guarded with poisoned := true })

end Guarded

namespace Operation

variable {M : Type}

/-- The message that leaves the batch, if there is one, and what remains. -/
def pop (allowed : Bool) (batch : Batch M) : Reply M × Batch M :=
  match batch.popFrontIf? allowed with
  | some (message, rest) => (.message (some message), rest)
  | none => (.message none, batch)

def apply (guarded : Guarded M) : Operation M → Reply M × Guarded M
  | .append message => guarded.store (.done, guarded.items.append message)
  | .appendIf message gate =>
      guarded.ask gate fun allowed => (.truth allowed, guarded.items.appendIf allowed message)
  | .popFront => guarded.store (pop true guarded.items)
  | .popFrontIf gate => guarded.ask gate fun allowed => pop allowed guarded.items
  | .size => (.count guarded.items.size, guarded)
  | .isEmpty => (.truth guarded.items.isEmpty, guarded)
  | .clear => guarded.store (.count guarded.items.size, Batch.empty)

/-- Applies the operations in order and keeps, for each, its reply and what it leaves. -/
def trace (guarded : Guarded M) : List (Operation M) → List (Reply M × Guarded M)
  | [] => []
  | operation :: rest =>
      let (reply, next) := apply guarded operation
      (reply, next) :: trace next rest

/-- Applies the operations to a batch behind a new lock: each reply and the batch after it. -/
def applyAll (batch : Batch M) (operations : List (Operation M)) : List (Reply M × Batch M) :=
  (trace { batch } operations).map fun (reply, guarded) => (reply, guarded.items)

end Operation

end Batching.Batch

namespace Batching

/-! The messages that a cycle has received and not yet handed on.

A batch is a first-in first-out queue; `toList` is its content, oldest message
first.  Appending and popping may hang on a gate, whose answer is taken together
with the change: what the gate refuses leaves the batch as it was.
-/

structure Batch (M : Type) where
  pending : List M := []
deriving Repr

namespace Batch

variable {M : Type}

def empty : Batch M := {}

def toList (batch : Batch M) : List M :=
  batch.pending

def size (batch : Batch M) : Nat :=
  batch.pending.length

def isEmpty (batch : Batch M) : Bool :=
  batch.pending.isEmpty

def append (batch : Batch M) (message : M) : Batch M :=
  { pending := batch.pending ++ [message] }

/-- The oldest message and the batch without it. -/
def popFront? (batch : Batch M) : Option (M × Batch M) :=
  match batch.pending with
  | [] => none
  | message :: rest => some (message, { pending := rest })

def appendIf (batch : Batch M) (allowed : Bool) (message : M) : Batch M :=
  if allowed then batch.append message else batch

def popFrontIf? (batch : Batch M) (allowed : Bool) : Option (M × Batch M) :=
  if allowed then batch.popFront? else none

theorem toList_empty : (empty : Batch M).toList = [] := rfl

theorem toList_append (batch : Batch M) (message : M) :
    (batch.append message).toList = batch.toList ++ [message] := rfl

theorem toList_appendIf (batch : Batch M) (allowed : Bool) (message : M) :
    (batch.appendIf allowed message).toList =
      batch.toList ++ (if allowed then [message] else []) := by
  cases allowed <;> simp [appendIf, append, toList]

theorem popFront?_eq_some_iff {batch rest : Batch M} {message : M} :
    batch.popFront? = some (message, rest) ↔ batch.toList = message :: rest.toList := by
  cases batch with
  | mk pending =>
      cases rest with
      | mk left =>
          cases pending with
          | nil => simp [popFront?, toList]
          | cons first others => simp [popFront?, toList]

theorem popFront?_eq_none_iff {batch : Batch M} :
    batch.popFront? = none ↔ batch.toList = [] := by
  cases batch with
  | mk pending => cases pending <;> simp [popFront?, toList]

theorem size_eq_length (batch : Batch M) : batch.size = batch.toList.length := rfl

theorem ext_toList {left right : Batch M} (same : left.toList = right.toList) :
    left = right := by
  cases left
  cases right
  exact congrArg Batch.mk same

end Batch

end Batching

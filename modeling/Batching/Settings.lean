namespace Batching

/-! The settings of an accumulator as a file or the environment gives them. -/

/-- Limits of one batch cycle.  A content cap of zero stands for none. -/
structure Settings where
  batchSize : Nat := 100
  outBatchSize : Nat := 0
  batchTimeout : Nat := 1000
deriving DecidableEq, Repr

structure Config where
  name : String := "batch-accumulator"
  batch : Settings := {}
deriving DecidableEq, Repr

end Batching

import Batching.Batch.Operation
import Batching.Demo.Report
import Batching.Demo.Run
import Batching.Endpoint
import Batching.History
import Batching.Logger
import Batching.Main
import Batching.Proofs.Accounting
import Batching.Proofs.BatchQueue
import Batching.Proofs.Brackets
import Batching.Proofs.ChannelOrder
import Batching.Proofs.ContentCap
import Batching.Proofs.CyclesInTurn
import Batching.Proofs.Deadline
import Batching.Proofs.DemoCounters
import Batching.Proofs.EmptyBatch
import Batching.Proofs.FailedStart
import Batching.Proofs.FailureIsolation
import Batching.Proofs.FillPhase
import Batching.Proofs.Instrumentation
import Batching.Proofs.Joining
import Batching.Proofs.Journal
import Batching.Proofs.LayeredConfig
import Batching.Proofs.LockLine
import Batching.Proofs.PolicyInForce
import Batching.Proofs.Quiescence
import Batching.Proofs.ReceiveTime
import Batching.Proofs.Reports
import Batching.Proofs.RunStates
import Batching.Proofs.StopCompletes
import Batching.Proofs.StopSafety
import Batching.Proofs.UsableConfig
import Batching.Proofs.WholeCycle
import Batching.Simulation.ChannelWorld
import Batching.Simulation.Folder
import Batching.Simulation.SinkBench
import Batching.Simulation.World

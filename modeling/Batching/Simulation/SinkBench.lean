import Batching.LayeredSink
import Batching.Simulation.World

namespace Batching.Simulation

/-! A layered sink on its own, whose base follows a script. -/

namespace ScriptedBase

variable {M : Type}

/-- How the script answers a call, whatever the time. -/
def answer [BEq M] (script : ScriptedBase M) : SinkCall M → Answer × ScriptedBase M
  | .start => lived script.start
  | .stop => lived script.stop
  | .process message =>
      let (reply, after) := script.deliver message
      (⟨after.delayOf reply, reply.outcome⟩, after)
where
  lived (call : Life × ScriptedBase M) : Answer × ScriptedBase M :=
    (⟨call.1.delay,
      match call.1.failure with
      | some failure => .failed failure
      | none => .returned ()⟩, call.2)

def base [BEq M] (script : ScriptedBase M) : Base (ScriptedBase M) M where
  name := script.name
  answer _ call script := script.answer call

end ScriptedBase

/-- The deliveries among the calls of a base sink. -/
def deliveryOf? {M : Type} (call : BaseCall M) : Option (DeliveryRecord M) :=
  match call.call with
  | .process message => some ⟨call.time, message, ReplyKind.ofOutcome call.answer.outcome⟩
  | _ => none

structure SinkBench (M : Type) where
  now : Nat := 0
  sink : ScriptedSink M
  deliveries : List (DeliveryRecord M) := []
  notices : List Notice := []

namespace SinkBench

variable {M : Type}

/-- The bench after a call holds the records of that call only. -/
def perform [BEq M] (bench : SinkBench M) (call : SinkCall M) : Outcome Unit × SinkBench M :=
  let sink : LayeredSink (ScriptedBase M) M :=
    { now := bench.now
      memory := bench.sink.toScriptedBase
      layers := bench.sink.layers }
  let (outcome, after) := sink.perform bench.sink.toScriptedBase.base call
  (outcome,
    { now := after.now
      sink := { toScriptedBase := after.memory, layers := after.layers }
      deliveries := after.calls.filterMap deliveryOf?
      notices := after.notices })

/-- Performs the calls in order and keeps, for each, its end and the bench after it. -/
def performAll [BEq M] (bench : SinkBench M) :
    List (SinkCall M) → List (Outcome Unit × SinkBench M)
  | [] => []
  | call :: rest =>
      let (outcome, after) := bench.perform call
      (outcome, after) :: after.performAll rest

end SinkBench

end Batching.Simulation

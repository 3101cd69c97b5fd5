import Batching.ConfigFile
import Batching.Demo.Options
import Batching.Dotenv
import Batching.Plan
import Batching.Simulation.World

namespace Batching.Demo

/-! The demonstration: a producer sends numbered messages through a channel into a sink
that may fail every so many of them, for a time, and then the accumulator shuts down. -/

open Simulation

/-- The configuration before the options: that of a file, or that of the environment
under a name of its own. -/
def startingConfig (options : Options) (files : Files) (environment : Environment) :
    Except ConfigFault Config × List Notice :=
  match options.config with
  | some path =>
      let (result, inquiry) := Config.ofFile files path environment
      (result, inquiry.notices)
  | none =>
      let (batch, inquiry) := environment.settings
      (.ok { name := "demo", batch }, inquiry.notices)

/-- The settings with what the options override. -/
def Options.override (options : Options) (settings : Settings) : Settings where
  batchSize := options.batchSize.getD settings.batchSize
  outBatchSize := options.outBatchSize.getD settings.outBatchSize
  batchTimeout := options.batchTimeout.getD settings.batchTimeout

def loadConfig (options : Options) (files : Files) (environment : Environment) :
    Except ConfigFault Config × List Notice :=
  match startingConfig options files environment with
  | (.error fault, notices) => (.error fault, notices)
  | (.ok config, notices) =>
      let (result, more) := Config.validate { config with batch := options.override config.batch }
      (result, notices ++ more)

def channelCapacity : Nat := 1024

/-- How the delivery of a message ends. -/
def replyTo (failEvery seq : Nat) : Reply where
  outcome :=
    if 0 < failEvery && seq % failEvery == 0 then
      .failed (.process ("synthetic failure on message " ++ toString seq))
    else .returned ()

/-- The sink of the demonstration counts what it does. -/
def sink (failEvery : Nat) : ScriptedSink Nat where
  name := "log"
  layers := [.instrumented 0 0]
  otherwise := replyTo failEvery
  counted := false

/-- The world before anything has happened in it.  The channel has two senders: its own
and the producer. -/
def world (options : Options) (config : Config) : World Nat :=
  let supply : Supply Nat := .channel { channel := { capacity := channelCapacity, senders := 2 } }
  { World.ofSupply (Plan.configuredBy {} config).build supply (sink options.failEvery) with
    producer := some { message := id, total := options.messages, interval := options.interval } }

/-- Lets everything happen before a time, and lets that time come. -/
def runBefore (world : World Nat) (time : Nat) : World Nat :=
  let past := if time = 0 then world else world.run (fun _ => false) (some (time - 1))
  { past with agenda := past.agenda.passTo (some time) }

/-- The producer sends no more.  A slot that it waits for goes to the next. -/
def stopProducer (world : World Nat) : World Nat :=
  let stopped := { world with
    agenda := world.agenda.cancel Task.isProducer
    producer := none }
  match world.supply with
  | .channel source =>
      { stopped with
        supply := .channel { source with channel := (source.channel.forget 0).1.leave } }
  | .scripted _ => stopped

def finalWorld (options : Options) (config : Config) : World Nat :=
  let (started, _) := (world options config).call .start
  let running := runBefore (started.enqueue .produce) (options.runSeconds * 1000)
  ((stopProducer running).call .shutdown).1

inductive Ending where
  | finished (stats : Stats)
  | refused (refusal : Refusal)
  | misconfigured (fault : ConfigFault)
  /-- The file of variables holds one that cannot be set. -/
  | crashed
deriving Repr

def Ending.exitCode : Ending → Nat
  | .finished _ => 0
  | .refused refusal => refusal.exitCode
  | .misconfigured _ => 1
  | .crashed => 101

def dotenvName : String := ".env"

/-- The environment with the variables that the file of that name adds to it. -/
def extendedEnvironment (files : Files) (environment : Environment) : Option Environment :=
  match files dotenvName with
  | .error _ => some environment
  | .ok bytes => Dotenv.load environment bytes

def run (arguments : List String) (files : Files) (environment : Environment) : Ending :=
  match extendedEnvironment files environment with
  | none => .crashed
  | some environment =>
      match Options.ofArguments arguments environment with
      | .error refusal => .refused refusal
      | .ok options =>
          match (loadConfig options files environment).1 with
          | .error fault => .misconfigured fault
          | .ok config => .finished (finalWorld options config).accumulator.stats

end Batching.Demo

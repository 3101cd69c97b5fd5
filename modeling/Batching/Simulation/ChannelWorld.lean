import Batching.Channel
import Batching.Simulation.Agenda
import Batching.Simulation.World

namespace Batching.Simulation

/-! A channel with its source, read by its owner and written by tasks of their own. -/

/-- A task that waits, sends its message if it has one, and lets its sender go. -/
structure Sender (M : Type) where
  delay : Nat
  message : Option M

inductive ChannelTask where
  | wait (sender : Nat)
  | send (sender : Nat)
  | sendGranted (sender : Nat)
  | poll (call : Nat)
deriving DecidableEq, Repr

def ChannelTask.isPollOf (call : Nat) (task : ChannelTask) : Bool :=
  task == .poll call

/-- The answer of a receive, and when it came. -/
structure Received (M : Type) where
  call : Nat
  message : Option M
  time : Nat

inductive SendResult where
  | sent
  | full
  | noSender
deriving DecidableEq, Repr

structure ChannelWorld (M : Type) where
  agenda : Agenda ChannelTask := {}
  source : ChannelSource M
  /-- Whether the owner still has a sender. -/
  holdsSender : Bool := true
  senders : List (Sender M) := []
  calls : Nat := 0
  answers : List (Received M) := []
  notices : List Notice := []

namespace ChannelWorld

variable {M : Type}

/-- A channel of some capacity.  An endpoint keeps a sender of its own, so that its
channel never closes. -/
def make (capacity : Nat) (endpoint : Bool) : Except PanicPayload (ChannelWorld M) := do
  let channel ← Channel.make capacity (if endpoint then 2 else 1)
  return { source := { channel } }

def now (world : ChannelWorld M) : Nat :=
  world.agenda.now

def enqueue (world : ChannelWorld M) (task : ChannelTask) : ChannelWorld M :=
  { world with agenda := world.agenda.enqueue task }

/-- Makes a listening receive look at the channel again, once. -/
def wakeListener (world : ChannelWorld M) : ChannelWorld M :=
  match world.source.listener? with
  | none => world
  | some call =>
      if world.agenda.isReady (ChannelTask.isPollOf call) then world
      else { world with agenda := world.agenda.enqueueOwned (.poll call) }

def setChannel (world : ChannelWorld M) (channel : Channel M) : ChannelWorld M :=
  { world with source := { world.source with channel } }

def letGo (world : ChannelWorld M) : ChannelWorld M :=
  let channel := world.source.channel.leave
  let after := world.setChannel channel
  if channel.isClosed then after.wakeListener else after

def applyEffect (world : ChannelWorld M) : ChannelEffect M → ChannelWorld M
  | .answered call message =>
      { world with answers := world.answers ++ [⟨call, message, world.now⟩] }
  | .wakeAt due call => { world with agenda := world.agenda.setTimer due (.poll call) }
  | .calmed call => { world with agenda := world.agenda.cancel (ChannelTask.isPollOf call) }
  | .granted call => { world with agenda := world.agenda.goFirst [.poll call] }
  | .freed sender => world.enqueue (.sendGranted sender)
  | .logged notice => { world with notices := world.notices ++ [notice] }

def applyEffects (world : ChannelWorld M)
    (result : ChannelSource M × List (ChannelEffect M)) : ChannelWorld M :=
  result.2.foldl applyEffect { world with source := result.1 }

def perform (world : ChannelWorld M) : ChannelTask → ChannelWorld M
  | .wait id =>
      match world.senders[id]? with
      | none => world
      | some sender => { world with agenda := world.agenda.after sender.delay (.send id) }
  | .send id =>
      match world.senders[id]? with
      | none => world
      | some { message := none, .. } => world.letGo
      | some { message := some message, .. } =>
          let (channel, sent) := world.source.channel.send id message
          if sent then (world.setChannel channel).wakeListener.letGo
          else world.setChannel channel
  | .sendGranted id =>
      match world.senders[id]? with
      | some { message := some message, .. } =>
          (world.setChannel (world.source.channel.sendGranted id message)).wakeListener.letGo
      | _ => world
  | .poll call => world.applyEffects (world.source.poll world.now call)

/-- The owner waits for its receives. -/
def machine : Machine (ChannelWorld M) ChannelTask where
  agenda := agenda
  setAgenda := fun world agenda => { world with agenda }
  isOwned := fun _ task => match task with
    | .poll _ => true
    | _ => false
  perform := perform

def run (world : ChannelWorld M) (done : ChannelWorld M → Bool) (limit : Option Nat) :
    ChannelWorld M :=
  machine.run done limit World.fuel world

def advance (world : ChannelWorld M) (ms : Nat) : ChannelWorld M :=
  world.run (fun _ => false) (some (world.now + ms))

def send (world : ChannelWorld M) (message : M) : ChannelWorld M × SendResult :=
  if world.holdsSender then
    match world.source.channel.trySend? message with
    | some channel => ((world.setChannel channel).wakeListener, .sent)
    | none => (world, .full)
  else (world, .noSender)

def close (world : ChannelWorld M) : ChannelWorld M :=
  if world.holdsSender then letGo { world with holdsSender := false } else world

/-- Starts a task that sends a message after a delay, with a sender of its own; without
a message the task takes the owner's sender over and only lets it go. -/
def later (world : ChannelWorld M) (delay : Nat) (message : Option M) : ChannelWorld M :=
  if world.holdsSender then
    let id := world.senders.length
    let started := enqueue { world with senders := world.senders ++ [⟨delay, message⟩] } (.wait id)
    match message with
    | some _ => started.setChannel started.source.channel.join
    | none => { started with holdsSender := false }
  else world

/-- The owner makes receives with these timeouts together and waits for all of them. -/
def receive (world : ChannelWorld M) (timeouts : List Nat) :
    ChannelWorld M × List (Received M) :=
  let first := world.calls
  let begun := timeouts.foldl
    (fun world timeout =>
      applyEffects { world with calls := world.calls + 1 }
        (world.source.receive world.now world.calls timeout))
    { world with answers := [] }
  let count := timeouts.length
  let complete (world : ChannelWorld M) : Bool := count ≤ world.answers.length
  let after := begun.run complete none
  let answerOf (call : Nat) : Option (Received M) := after.answers.find? fun a => a.call == call
  (after, (List.range count).filterMap fun index => answerOf (first + index))

def takeNotices (world : ChannelWorld M) : List Notice × ChannelWorld M :=
  (world.notices, { world with notices := [] })

end ChannelWorld

end Batching.Simulation

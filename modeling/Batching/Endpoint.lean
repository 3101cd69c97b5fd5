import Batching.Channel
import Batching.History

namespace Batching

/-! A channel with its reading end and everything that may happen to it.

Senders send, wait for a slot, are given up or let go; receives are begun, and each goes on
whenever it is looked after.  `Endpoint.step` performs one move at a time; a history of an
endpoint is a sequence of moves, in any order that the moves themselves allow.  In a paced
history time passes only while every receive in progress waits, and no further than to the
time at which one of them is due.
-/

/-- A channel source whose receives are numbered as they are made. -/
structure Endpoint (M : Type) where
  source : ChannelSource M
  made : Nat := 0

/-- One thing that may happen to an endpoint. -/
inductive EndpointMove (M : Type) where
  | receive (timeout : Nat)
  | poll (call : Nat)
  | trySend (message : M)
  | send (sender : Nat) (message : M)
  | sendGranted (sender : Nat) (message : M)
  | forget (sender : Nat)
  | join
  | leave

def EndpointMove.isReceive {M : Type} : EndpointMove M → Bool
  | .receive _ => true
  | _ => false

/-- What can be seen of a move, in order. -/
inductive EndpointEvent (M : Type) where
  | called (call timeout : Nat)
  | turned (call : Nat)
  | caused (effect : ChannelEffect M)
  | entered (message : M)
  /-- The last sender has gone, and so many messages are left to receive. -/
  | closed (left : Nat)

namespace ChannelSource

variable {M : Type}

/-- Nothing takes this receive further before `until`. -/
def rests (source : ChannelSource M) (horizon : Nat) (call : Nat) : ReceivePoint → Bool
  | .queued _ => source.lock.holder != some call
  | .listening deadline _ =>
      source.channel.buffer.isEmpty && !source.channel.isClosed && decide (horizon ≤ deadline)
  | .idling due => decide (horizon ≤ due)

/-- No receive in progress goes on before `horizon`. -/
def restsUntil (source : ChannelSource M) (horizon : Nat) : Bool :=
  source.calls.all fun (call, point) => source.rests horizon call point

end ChannelSource

namespace Endpoint

variable {M : Type}

/-- An endpoint over a new channel with some senders, if the channel can be made. -/
def make (capacity senders : Nat) : Except PanicPayload (Endpoint M) :=
  (Channel.make capacity senders).map fun channel => { source := { channel } }

def channel (endpoint : Endpoint M) : Channel M :=
  endpoint.source.channel

def setChannel (endpoint : Endpoint M) (channel : Channel M) : Endpoint M :=
  { endpoint with source := { endpoint.source with channel } }

/-- A new receive has its turn at once if no other has it. -/
def receive (endpoint : Endpoint M) (now timeout : Nat) :
    Endpoint M × List (EndpointEvent M) :=
  let call := endpoint.made
  let turned := if endpoint.source.lock.holder.isNone then [.turned call] else []
  let (source, effects) := endpoint.source.receive now call timeout
  ({ source, made := call + 1 }, .called call timeout :: turned ++ effects.map .caused)

/-- Lets a sender go; with the last one the channel is closed. -/
def leave (endpoint : Endpoint M) : Endpoint M × List (EndpointEvent M) :=
  let channel := endpoint.channel.leave
  (endpoint.setChannel channel, if channel.isClosed then [.closed channel.buffer.length] else [])

/-- Performs one move at time `now`; nothing if it is not possible here.  Whoever sends has a
sender, so the last one goes only when nobody waits for a slot. -/
def step (now : Nat) (endpoint : Endpoint M) :
    EndpointMove M → Option (Endpoint M × List (EndpointEvent M))
  | .receive timeout => some (endpoint.receive now timeout)
  | .poll call =>
      let (source, effects) := endpoint.source.poll now call
      some ({ endpoint with source }, effects.map .caused)
  | .trySend message =>
      if endpoint.channel.isClosed then none
      else match endpoint.channel.trySend? message with
        | none => some (endpoint, [])
        | some channel => some (endpoint.setChannel channel, [.entered message])
  | .send sender message =>
      if endpoint.channel.isClosed then none
      else
        let (channel, sent) := endpoint.channel.send sender message
        some (endpoint.setChannel channel, if sent then [.entered message] else [])
  | .sendGranted sender message =>
      if endpoint.channel.granted.contains sender then
        some (endpoint.setChannel (endpoint.channel.sendGranted sender message),
          [.entered message])
      else none
  | .forget sender =>
      let (channel, freed) := endpoint.channel.forget sender
      some (endpoint.setChannel channel, freed.toList.map fun sender => .caused (.freed sender))
  | .join =>
      if endpoint.channel.isClosed then none
      else some (endpoint.setChannel endpoint.channel.join, [])
  | .leave =>
      if 1 < endpoint.channel.senders ∨ endpoint.channel.senders = 1 ∧
          endpoint.channel.waiting = [] ∧ endpoint.channel.granted = [] then
        some endpoint.leave
      else none

/-- A history of an endpoint. -/
def run? (endpoint : Endpoint M) (moves : List (Nat × EndpointMove M)) :
    Option (Endpoint M × List (EndpointEvent M)) :=
  follow? step endpoint moves

/-- An endpoint and the time on its clock. -/
structure Paced (M : Type) where
  clock : Nat
  endpoint : Endpoint M

/-- A step of which the clock allows that it is made now. -/
def pacedStep (now : Nat) (paced : Paced M) (move : EndpointMove M) :
    Option (Paced M × List (Nat × EndpointEvent M)) :=
  if paced.clock = now ∨
      paced.clock < now ∧ paced.endpoint.source.restsUntil now = true then
    match step now paced.endpoint move with
    | none => none
    | some (endpoint, events) =>
        some ({ clock := now, endpoint }, events.map fun event => (now, event))
  else none

/-- A paced history, with the time of all that is seen. -/
def pace? (paced : Paced M) (moves : List (Nat × EndpointMove M)) :
    Option (Paced M × List (Nat × EndpointEvent M)) :=
  follow? pacedStep paced moves

end Endpoint

end Batching

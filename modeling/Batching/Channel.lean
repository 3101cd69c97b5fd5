import Batching.Lock
import Batching.Notice

namespace Batching

/-! A channel of bounded capacity, and the source that reads from it.

A message enters the buffer when its sender has a slot.  A slot that a receive frees
goes to the sender that has waited longest, whose message enters when that sender
runs next; until then the slot is taken.  The channel is closed once no sender is
left, and what it still holds can be received.
-/

structure Channel (M : Type) where
  capacity : Nat
  buffer : List M := []
  waiting : List Nat := []
  granted : List Nat := []
  senders : Nat := 1
deriving Repr

namespace Channel

variable {M : Type}

/-- A new channel with some senders.  One without room cannot be made. -/
def make (capacity senders : Nat) : Except PanicPayload (Channel M) :=
  if capacity = 0 then .error (.text "mpsc bounded channel requires buffer > 0")
  else .ok { capacity, senders }

/-- The slots that nobody has. -/
def room (channel : Channel M) : Nat :=
  channel.capacity - channel.buffer.length - channel.granted.length

def isClosed (channel : Channel M) : Bool :=
  channel.senders == 0

def push (channel : Channel M) (message : M) : Channel M :=
  { channel with buffer := channel.buffer ++ [message] }

def trySend? (channel : Channel M) (message : M) : Option (Channel M) :=
  if 0 < channel.room then some (channel.push message) else none

/-- The sender sends if there is room, and otherwise joins the queue for a slot. -/
def send (channel : Channel M) (sender : Nat) (message : M) : Channel M × Bool :=
  if 0 < channel.room then (channel.push message, true)
  else ({ channel with waiting := channel.waiting ++ [sender] }, false)

def sendGranted (channel : Channel M) (sender : Nat) (message : M) : Channel M :=
  push { channel with granted := channel.granted.erase sender } message

/-- Gives a freed slot to the sender that has waited longest. -/
def grant (channel : Channel M) : Channel M × Option Nat :=
  match channel.waiting with
  | [] => (channel, none)
  | sender :: rest =>
      ({ channel with waiting := rest, granted := channel.granted ++ [sender] }, some sender)

/-- The oldest message, the channel without it, and the sender that has the slot now. -/
def take? (channel : Channel M) : Option (M × Channel M × Option Nat) :=
  match channel.buffer with
  | [] => none
  | message :: rest =>
      let (after, sender) := grant { channel with buffer := rest }
      some (message, after, sender)

def join (channel : Channel M) : Channel M :=
  { channel with senders := channel.senders + 1 }

def leave (channel : Channel M) : Channel M :=
  { channel with senders := channel.senders - 1 }

/-- A sender that is given up waits no longer; a slot that it was given goes on. -/
def forget (channel : Channel M) (sender : Nat) : Channel M × Option Nat :=
  if channel.granted.contains sender then
    grant { channel with granted := channel.granted.erase sender }
  else ({ channel with waiting := channel.waiting.erase sender }, none)

end Channel

/-- Where a receive waits: for its turn, for a message, or for its time to be up. -/
inductive ReceivePoint where
  | queued (timeout : Nat)
  | listening (deadline timeout : Nat)
  | idling (due : Nat)
deriving DecidableEq, Repr

/-- The reading end: receives take turns, and the time of each starts with its turn. -/
structure ChannelSource (M : Type) where
  channel : Channel M
  lock : FairLock := {}
  calls : List (Nat × ReceivePoint) := []
deriving Repr

/-- What a step of a receive asks of those who run it. -/
inductive ChannelEffect (M : Type) where
  | answered (call : Nat) (message : Option M)
  | wakeAt (due call : Nat)
  | calmed (call : Nat)
  | granted (call : Nat)
  | freed (sender : Nat)
  | logged (notice : Notice)

namespace ChannelSource

variable {M : Type}

def point? (source : ChannelSource M) (call : Nat) : Option ReceivePoint :=
  (source.calls.find? fun entry => entry.1 == call).map Prod.snd

def stand (source : ChannelSource M) (call : Nat) (point : ReceivePoint) : ChannelSource M :=
  { source with
    calls := source.calls.map fun entry => if entry.1 == call then (call, point) else entry }

def retire (source : ChannelSource M) (call : Nat) : ChannelSource M :=
  { source with calls := source.calls.filter fun entry => entry.1 != call }

def release (source : ChannelSource M) : ChannelSource M × List (ChannelEffect M) :=
  ({ source with lock := source.lock.release },
    source.lock.release.holder.toList.map ChannelEffect.granted)

def listener? (source : ChannelSource M) : Option Nat :=
  match source.lock.holder with
  | none => none
  | some call =>
      match source.point? call with
      | some (.listening _ _) => some call
      | _ => none

/-- A receive that has its turn looks at the channel: a message answers it, a closed
channel makes it idle for its whole time again, and else it waits until the deadline. -/
def look (source : ChannelSource M) (now call deadline timeout : Nat) :
    ChannelSource M × List (ChannelEffect M) :=
  match source.channel.take? with
  | some (message, channel, sender) =>
      let (after, granted) := release ({ source with channel }.retire call)
      (after,
        .calmed call :: sender.toList.map ChannelEffect.freed ++ granted ++
          [.answered call (some message)])
  | none =>
      if source.channel.isClosed then
        if timeout = 0 then
          let (after, granted) := (source.retire call).release
          (after,
            .calmed call :: granted ++ [.logged .channelClosed, .answered call none])
        else
          let (after, granted) := (source.stand call (.idling (now + timeout))).release
          (after,
            .calmed call :: granted ++ [.logged .channelClosed, .wakeAt (now + timeout) call])
      else if deadline ≤ now then
        let (after, granted) := (source.retire call).release
        (after, .calmed call :: granted ++ [.answered call none])
      else (source.stand call (.listening deadline timeout),
        [.calmed call, .wakeAt deadline call])

def poll (source : ChannelSource M) (now call : Nat) :
    ChannelSource M × List (ChannelEffect M) :=
  match source.point? call with
  | none => (source, [])
  | some (.queued timeout) =>
      if source.lock.holder = some call then source.look now call (now + timeout) timeout
      else (source, [])
  | some (.listening deadline timeout) => source.look now call deadline timeout
  | some (.idling due) =>
      if due ≤ now then (source.retire call, [.calmed call, .answered call none])
      else (source, [])

def receive (source : ChannelSource M) (now call timeout : Nat) :
    ChannelSource M × List (ChannelEffect M) :=
  poll
    { source with
      lock := source.lock.request call
      calls := source.calls ++ [(call, .queued timeout)] }
    now call

end ChannelSource

end Batching

import Mathlib.Data.List.Basic
import Batching.Endpoint

namespace Batching

/-! The order of what goes through a channel.

A message leaves the buffer only as the answer of the receive that has the turn, and the
receives have their turns in the order in which they were begun.  So what has entered the
channel is what the receives were given, in the order of their turns, followed by what is
still in the buffer; and a receive finds the channel closed only when nothing is left and
nothing can enter any more.
-/

variable {M : Type}

/-! ### The record of an endpoint -/

def EndpointEvent.entry? : EndpointEvent M → Option M
  | .entered message => some message
  | _ => none

def EndpointEvent.turn? : EndpointEvent M → Option Nat
  | .turned call | .caused (.granted call) => some call
  | _ => none

def EndpointEvent.gift? : EndpointEvent M → Option (Nat × M)
  | .caused (.answered call (some message)) => some (call, message)
  | _ => none

/-- The messages that have entered the channel, in order. -/
def entries (events : List (EndpointEvent M)) : List M :=
  events.filterMap EndpointEvent.entry?

/-- The receives in the order in which they had their turns. -/
def turns (events : List (EndpointEvent M)) : List Nat :=
  events.filterMap EndpointEvent.turn?

/-- The receives that were answered with a message, and the message of each. -/
def gifts (events : List (EndpointEvent M)) : List (Nat × M) :=
  events.filterMap EndpointEvent.gift?

/-- The message that a receive was answered with. -/
def gift? (events : List (EndpointEvent M)) (call : Nat) : Option M :=
  (gifts events).lookup call

section

variable {first rest events : List (EndpointEvent M)}

theorem entries_append : entries (first ++ rest) = entries first ++ entries rest :=
  List.filterMap_append

theorem turns_append : turns (first ++ rest) = turns first ++ turns rest :=
  List.filterMap_append

theorem gifts_append : gifts (first ++ rest) = gifts first ++ gifts rest :=
  List.filterMap_append

theorem entries_caused (effects : List (ChannelEffect M)) :
    entries (effects.map .caused) = [] := by
  simp [entries, EndpointEvent.entry?]

end

/-- Looking up each key in turn gives the values back, if they were given in that order. -/
theorem filterMap_lookup {keys : List Nat} {pairs : List (Nat × M)} (distinct : keys.Nodup)
    (ordered : (pairs.map Prod.fst).Sublist keys) :
    keys.filterMap (fun key => pairs.lookup key) = pairs.map Prod.snd := by
  induction keys generalizing pairs with
  | nil => rw [List.map_eq_nil_iff.mp (List.sublist_nil.mp ordered)]; rfl
  | cons key rest ih =>
      obtain ⟨absent, unique⟩ := List.nodup_cons.mp distinct
      rcases List.sublist_cons_iff.mp ordered with later | ⟨others, same, later⟩
      · have unknown : pairs.lookup key = none := by
          refine List.lookup_eq_none_iff.mpr fun pair member => ?_
          have different : key ≠ pair.1 := by
            rintro rfl
            exact absent (later.subset (List.mem_map_of_mem member))
          simpa using different
        simp only [List.filterMap_cons, unknown]
        exact ih unique later
      · obtain ⟨⟨first, message⟩, pairs, rfl, rfl, rfl⟩ := List.map_eq_cons_iff.mp same
        have found : ((first, message) :: pairs).lookup first = some message := by simp
        have others : rest.filterMap (fun key => ((first, message) :: pairs).lookup key) =
            rest.filterMap fun key => pairs.lookup key := by
          refine List.filterMap_congr fun key member => ?_
          have different : key ≠ first := fun same => absent (same ▸ member)
          simp [List.lookup_cons, beq_false_of_ne different]
        simp only [List.filterMap_cons, found, others, ih unique later, List.map_cons]

/-! ### How a receive goes on -/

namespace Channel

theorem take?_cases {channel after : Channel M} {message : M} {freed : Option Nat}
    (taken : channel.take? = some (message, after, freed)) :
    channel.buffer = message :: after.buffer ∧ after.senders = channel.senders ∧
      (channel.waiting = [] → after.waiting = [] ∧ after.granted = channel.granted) := by
  unfold take? at taken
  split at taken
  · cases taken
  · rename_i first rest held
    cases queue : channel.waiting with
    | nil =>
        simp only [grant, queue, Option.some.injEq, Prod.mk.injEq] at taken
        obtain ⟨rfl, rfl, _⟩ := taken
        exact ⟨held, rfl, fun _ => ⟨rfl, rfl⟩⟩
    | cons sender others =>
        simp only [grant, queue, Option.some.injEq, Prod.mk.injEq] at taken
        obtain ⟨rfl, rfl, _⟩ := taken
        exact ⟨held, rfl, nofun⟩

theorem take?_eq_none {channel : Channel M} (untaken : channel.take? = none) :
    channel.buffer = [] := by
  unfold take? at untaken
  split at untaken
  · assumption
  · cases untaken

end Channel

namespace ChannelSource

variable {source after : ChannelSource M} {now call deadline timeout : Nat}
  {effects : List (ChannelEffect M)}

theorem point?_retire (source : ChannelSource M) (call other : Nat) :
    (source.retire call).point? other = if other = call then none else source.point? other := by
  unfold point? retire
  induction source.calls with
  | nil => split <;> rfl
  | cons entry rest ih =>
      by_cases removed : entry.1 = call
      · rw [List.filter_cons_of_neg (by simp [removed]), ih]
        split
        · rfl
        · rename_i different
          rw [List.find?_cons_of_neg (by simp [removed, Ne.symm different])]
      · rw [List.filter_cons_of_pos (by simp [removed])]
        by_cases wanted : entry.1 = other
        · rw [List.find?_cons_of_pos (by simp [wanted]),
            List.find?_cons_of_pos (by simp [wanted]), if_neg (wanted ▸ removed)]
        · rw [List.find?_cons_of_neg (by simp [wanted]),
            List.find?_cons_of_neg (by simp [wanted]), ih]

theorem point?_stand (source : ChannelSource M) (call other : Nat) (point : ReceivePoint) :
    (source.stand call point).point? other =
      if other = call then (source.point? call).map fun _ => point else source.point? other := by
  unfold point? stand
  by_cases same : other = call
  · subst same
    rw [if_pos rfl]
    induction source.calls with
    | nil => rfl
    | cons entry rest ih =>
        rw [List.map_cons]
        by_cases moved : entry.1 = other
        · rw [if_pos (beq_iff_eq.mpr moved), List.find?_cons_of_pos (by simp),
            List.find?_cons_of_pos (by simp [moved])]
          rfl
        · rw [if_neg (by simp [moved]), List.find?_cons_of_neg (by simp [moved]),
            List.find?_cons_of_neg (by simp [moved]), ih]
  · rw [if_neg same]
    induction source.calls with
    | nil => rfl
    | cons entry rest ih =>
        rw [List.map_cons]
        by_cases moved : entry.1 = call
        · rw [if_pos (beq_iff_eq.mpr moved), List.find?_cons_of_neg (by simp [Ne.symm same]),
            List.find?_cons_of_neg (by simp [moved, Ne.symm same]), ih]
        · rw [if_neg (by simp [moved])]
          by_cases wanted : entry.1 = other
          · rw [List.find?_cons_of_pos (by simp [wanted]),
              List.find?_cons_of_pos (by simp [wanted])]
          · rw [List.find?_cons_of_neg (by simp [wanted]),
              List.find?_cons_of_neg (by simp [wanted]), ih]

theorem point?_of_begun {source : ChannelSource M} {call other : Nat} {begun point : ReceivePoint}
    (stood : ({ source with calls := source.calls ++ [(call, begun)] } : ChannelSource M).point?
      other = some point) :
    source.point? other = some point ∨ other = call ∧ point = begun := by
  unfold point? at stood ⊢
  rw [List.find?_append] at stood
  cases found : source.calls.find? fun entry => entry.1 == other with
  | some entry => exact .inl (by simpa [found] using stood)
  | none =>
      by_cases same : call = other
      · refine .inr ⟨same.symm, ?_⟩
        simpa [found, same, eq_comm] using stood
      · simp [found, same] at stood

/-- What a receive that has the turn finds, and what becomes of it. -/
inductive Looks (source : ChannelSource M) (now call deadline timeout : Nat) :
    ChannelSource M → List (ChannelEffect M) → Prop where
  | takes {message : M} {channel : Channel M} {freed : Option Nat}
      (taken : source.channel.take? = some (message, channel, freed)) :
      Looks source now call deadline timeout
        { source.retire call with channel, lock := source.lock.release }
        (.calmed call :: freed.toList.map .freed ++
          source.lock.release.holder.toList.map .granted ++ [.answered call (some message)])
  | closes (empty : source.channel.buffer = []) (closed : source.channel.isClosed = true)
      (instant : timeout = 0) :
      Looks source now call deadline timeout
        { source.retire call with lock := source.lock.release }
        (.calmed call :: source.lock.release.holder.toList.map .granted ++
          [.logged .channelClosed, .answered call none])
  | idles (empty : source.channel.buffer = []) (closed : source.channel.isClosed = true)
      (lasting : timeout ≠ 0) :
      Looks source now call deadline timeout
        { source.stand call (.idling (now + timeout)) with lock := source.lock.release }
        (.calmed call :: source.lock.release.holder.toList.map .granted ++
          [.logged .channelClosed, .wakeAt (now + timeout) call])
  | expires (empty : source.channel.buffer = []) (opened : source.channel.isClosed = false)
      (late : deadline ≤ now) :
      Looks source now call deadline timeout
        { source.retire call with lock := source.lock.release }
        (.calmed call :: source.lock.release.holder.toList.map .granted ++
          [.answered call none])
  | listens (empty : source.channel.buffer = []) (opened : source.channel.isClosed = false)
      (early : now < deadline) :
      Looks source now call deadline timeout
        (source.stand call (.listening deadline timeout))
        [.calmed call, .wakeAt deadline call]

theorem look_looks (source : ChannelSource M) (now call deadline timeout : Nat) :
    source.Looks now call deadline timeout (source.look now call deadline timeout).1
      (source.look now call deadline timeout).2 := by
  unfold look
  split
  · rename_i message channel freed taken
    exact .takes taken
  · rename_i untaken
    have empty := Channel.take?_eq_none untaken
    split
    · rename_i closed
      split
      · rename_i instant
        exact .closes empty closed instant
      · rename_i lasting
        exact .idles empty closed lasting
    · rename_i opened
      have opened := eq_false_of_ne_true opened
      split
      · rename_i late
        exact .expires empty opened late
      · rename_i early
        exact .listens empty opened (Nat.lt_of_not_le early)

/-- Everything that polling a receive can do. -/
inductive Polls (source : ChannelSource M) (now call : Nat) :
    ChannelSource M → List (ChannelEffect M) → Prop where
  | nothing : Polls source now call source []
  | turns {timeout : Nat} {after : ChannelSource M} {effects : List (ChannelEffect M)}
      (stood : source.point? call = some (.queued timeout)) (holds : source.lock.holder = some call)
      (looked : source.Looks now call (now + timeout) timeout after effects) :
      Polls source now call after effects
  | looks {deadline timeout : Nat} {after : ChannelSource M} {effects : List (ChannelEffect M)}
      (stood : source.point? call = some (.listening deadline timeout))
      (looked : source.Looks now call deadline timeout after effects) :
      Polls source now call after effects
  | wakes {due : Nat} (stood : source.point? call = some (.idling due)) (late : due ≤ now) :
      Polls source now call (source.retire call) [.calmed call, .answered call none]

theorem poll_polls (source : ChannelSource M) (now call : Nat) :
    source.Polls now call (source.poll now call).1 (source.poll now call).2 := by
  unfold poll
  split
  · exact .nothing
  · rename_i timeout stood
    split
    · rename_i holds
      exact .turns stood holds (look_looks ..)
    · exact .nothing
  · rename_i deadline timeout stood
    exact .looks stood (look_looks ..)
  · rename_i due stood
    split
    · rename_i late
      exact .wakes stood late
    · exact .nothing

end ChannelSource

namespace FairLock

theorem release_waiting (lock : FairLock) :
    lock.release.holder.toList ++ lock.release.waiting = lock.waiting := by
  cases queue : lock.waiting <;> simp [release, queue, free]

end FairLock

namespace ChannelSource

variable {source after : ChannelSource M} {now call deadline timeout : Nat}
  {effects : List (ChannelEffect M)}

/-! ### Who has the turn -/

/-- A receive that waits for a message has the turn, one that idles has found the channel
closed and empty, and nobody waits for a slot of a closed channel. -/
structure Orderly (source : ChannelSource M) : Prop where
  wellFormed : source.lock.WellFormed
  listens : ∀ {call deadline timeout : Nat},
    source.point? call = some (.listening deadline timeout) → source.lock.holder = some call
  idles : ∀ {call due : Nat}, source.point? call = some (.idling due) →
    source.channel.isClosed = true ∧ source.channel.buffer = []
  closed : source.channel.isClosed = true →
    source.channel.waiting = [] ∧ source.channel.granted = []

/-- The turn is given up: nobody listens until the next receive looks. -/
theorem Orderly.gives_up (orderly : source.Orderly) (holds : source.lock.holder = some call)
    (lock : after.lock = source.lock.release)
    (stays : ∀ {other : Nat} {point : ReceivePoint}, after.point? other = some point →
      other ≠ call ∧ source.point? other = some point ∨
        ∃ due, point = .idling due ∧ after.channel.isClosed = true ∧ after.channel.buffer = [])
    (idles : source.channel.isClosed = true → source.channel.buffer = [] →
      after.channel.isClosed = true ∧ after.channel.buffer = [])
    (closed : after.channel.isClosed = true →
      after.channel.waiting = [] ∧ after.channel.granted = []) : after.Orderly where
  wellFormed := lock ▸ FairLock.wellFormed_release _
  listens stood := by
    rcases stays stood with ⟨different, there⟩ | ⟨due, other, _⟩
    · exact absurd (Option.some.inj ((orderly.listens there).symm.trans holds)) different
    · cases other
  idles stood := by
    rcases stays stood with ⟨_, there⟩ | ⟨_, _, found⟩
    · obtain ⟨shut, empty⟩ := orderly.idles there
      exact idles shut empty
    · exact found
  closed := closed

theorem retired {other : Nat} {point : ReceivePoint}
    (stood : (source.retire call).point? other = some point) :
    other ≠ call ∧ source.point? other = some point := by
  rw [point?_retire] at stood
  split at stood
  · cases stood
  · rename_i different
    exact ⟨different, stood⟩

theorem Looks.orderly (orderly : source.Orderly) (holds : source.lock.holder = some call)
    (looked : source.Looks now call deadline timeout after effects) : after.Orderly := by
  cases looked with
  | takes taken =>
      obtain ⟨buffer, senders, waiting⟩ := Channel.take?_cases taken
      refine orderly.gives_up holds rfl (fun stood => .inl (retired stood)) ?_ ?_
      · intro _ empty
        rw [empty] at buffer
        cases buffer
      · intro shut
        obtain ⟨unwaited, ungranted⟩ := orderly.closed (by rwa [Channel.isClosed, ← senders])
        obtain ⟨still, same⟩ := waiting unwaited
        exact ⟨still, same.trans ungranted⟩
  | closes | expires =>
      exact orderly.gives_up holds rfl (fun stood => .inl (retired stood))
        (fun shut empty => ⟨shut, empty⟩) orderly.closed
  | idles empty closed =>
      refine orderly.gives_up holds rfl (fun {other point} stood => ?_)
        (fun shut empty => ⟨shut, empty⟩) orderly.closed
      have there := (point?_stand source call other _).symm.trans stood
      split at there
      · obtain ⟨_, _, rfl⟩ := Option.map_eq_some_iff.mp there
        exact .inr ⟨_, rfl, closed, empty⟩
      · rename_i different
        exact .inl ⟨different, there⟩
  | listens empty opened =>
      refine ⟨orderly.wellFormed, fun {other _ _} stood => ?_, fun {other _} stood => ?_,
        orderly.closed⟩
      · rw [point?_stand] at stood
        split at stood
        · rename_i same
          exact same ▸ holds
        · exact orderly.listens stood
      · rw [point?_stand] at stood
        split at stood
        · obtain ⟨_, _, same⟩ := Option.map_eq_some_iff.mp stood
          cases same
        · exact orderly.idles stood

theorem Polls.orderly (orderly : source.Orderly) (polled : source.Polls now call after effects) :
    after.Orderly := by
  cases polled with
  | nothing => exact orderly
  | turns _ holds looked => exact looked.orderly orderly holds
  | looks stood looked => exact looked.orderly orderly (orderly.listens stood)
  | wakes =>
      exact ⟨orderly.wellFormed, fun stood => orderly.listens (retired stood).2,
        fun stood => orderly.idles (retired stood).2, orderly.closed⟩

/-- A receive has gone on: it keeps its turn or has none, or it gives its turn up, perhaps
with a message. -/
inductive Passes (source : ChannelSource M) (call : Nat) (after : ChannelSource M)
    (seen : List (EndpointEvent M)) : Prop where
  | stays (lock : after.lock = source.lock)
      (buffer : after.channel.buffer = source.channel.buffer) (turned : turns seen = [])
      (given : gifts seen = [])
  | passes (message? : Option M) (holds : source.lock.holder = some call)
      (lock : after.lock = source.lock.release)
      (buffer : source.channel.buffer = message?.toList ++ after.channel.buffer)
      (turned : turns seen = source.lock.release.holder.toList)
      (given : gifts seen = message?.toList.map fun message => (call, message))

theorem Looks.passes (holds : source.lock.holder = some call)
    (looked : source.Looks now call deadline timeout after effects) :
    source.Passes call after (effects.map .caused) := by
  cases looked with
  | @takes message channel freed taken =>
      obtain ⟨buffer, _⟩ := Channel.take?_cases taken
      refine .passes (some message) holds rfl buffer ?_ ?_
      · cases freed <;> cases source.lock.release.holder <;> rfl
      · cases freed <;> cases source.lock.release.holder <;> rfl
  | closes empty | idles empty | expires empty =>
      refine .passes none holds rfl rfl ?_ ?_
      · cases source.lock.release.holder <;> rfl
      · cases source.lock.release.holder <;> rfl
  | listens => exact .stays rfl rfl rfl rfl

/-- A receive takes a message from the channel or leaves the channel as it is. -/
theorem Looks.channel_cases (looked : source.Looks now call deadline timeout after effects) :
    (∃ message rest, source.channel.buffer = message :: rest ∧ .answered call none ∉ effects) ∨
      after.channel = source.channel ∧ source.channel.buffer = [] := by
  cases looked with
  | @takes message channel freed taken =>
      obtain ⟨buffer, _⟩ := Channel.take?_cases taken
      refine .inl ⟨message, channel.buffer, buffer, ?_⟩
      cases freed <;> cases source.lock.release.holder <;> simp
  | closes empty | idles empty | expires empty | listens empty => exact .inr ⟨rfl, empty⟩

theorem Polls.channel_of_empty (polled : source.Polls now call after effects)
    (empty : source.channel.buffer = []) : after.channel = source.channel := by
  cases polled with
  | nothing | wakes => rfl
  | turns _ _ looked | looks _ looked =>
      rcases looked.channel_cases with ⟨_, _, held, _⟩ | ⟨same, _⟩
      · cases empty.symm.trans held
      · exact same

/-- A receive that is answered without a message leaves the channel as it is, and finds it
empty if it is closed. -/
theorem Polls.unanswered (orderly : source.Orderly)
    (polled : source.Polls now call after effects) {other : Nat}
    (answered : .answered other none ∈ effects) :
    after.channel = source.channel ∧
      (source.channel.isClosed = true → source.channel.buffer = []) := by
  have looked {deadline timeout : Nat}
      (looked : source.Looks now call deadline timeout after effects) :
      after.channel = source.channel ∧
        (source.channel.isClosed = true → source.channel.buffer = []) := by
    rcases looked.channel_cases with ⟨_, _, _, unanswered⟩ | ⟨same, empty⟩
    · cases looked with
      | @takes message channel freed =>
          cases freed <;> cases source.lock.release.holder <;> simp at answered
      | closes | idles | expires | listens => simp_all
    · exact ⟨same, fun _ => empty⟩
  cases polled with
  | nothing => cases answered
  | turns _ _ found | looks _ found => exact looked found
  | wakes stood => exact ⟨rfl, fun _ => (orderly.idles stood).2⟩

theorem Polls.passes (orderly : source.Orderly) (polled : source.Polls now call after effects) :
    source.Passes call after (effects.map .caused) := by
  cases polled with
  | nothing => exact .stays rfl rfl rfl rfl
  | turns _ holds looked => exact looked.passes holds
  | looks stood looked => exact looked.passes (orderly.listens stood)
  | wakes => exact .stays rfl rfl rfl rfl

end ChannelSource

namespace Endpoint

variable {endpoint next start last : Endpoint M} {now call : Nat} {move : EndpointMove M}
  {events past seen more : List (EndpointEvent M)} {moves : List (Nat × EndpointMove M)}
  {effects : List (ChannelEffect M)} {source : ChannelSource M}

/-! ### What a move does -/

/-- A receive that has been made and not yet looked after. -/
def begun (endpoint : Endpoint M) (timeout : Nat) : Endpoint M where
  source := { endpoint.source with
    lock := endpoint.source.lock.request endpoint.made
    calls := endpoint.source.calls ++ [(endpoint.made, .queued timeout)] }
  made := endpoint.made + 1

def begunEvents (endpoint : Endpoint M) (timeout : Nat) : List (EndpointEvent M) :=
  .called endpoint.made timeout ::
    if endpoint.source.lock.holder.isNone then [.turned endpoint.made] else []

theorem mem_begunEvents {event : EndpointEvent M} {timeout : Nat}
    (member : event ∈ endpoint.begunEvents timeout) :
    event = .called endpoint.made timeout ∨ event = .turned endpoint.made := by
  rcases List.mem_cons.mp member with first | others
  · exact .inl first
  · split at others
    · exact .inr (List.mem_singleton.mp others)
    · cases others

@[simp]
theorem gifts_begunEvents (endpoint : Endpoint M) (timeout : Nat) :
    gifts (endpoint.begunEvents timeout) = [] := by
  unfold begunEvents
  split <;> rfl

@[simp]
theorem entries_begunEvents (endpoint : Endpoint M) (timeout : Nat) :
    entries (endpoint.begunEvents timeout) = [] := by
  unfold begunEvents
  split <;> rfl

theorem turns_begunEvents (endpoint : Endpoint M) (timeout : Nat) :
    turns (endpoint.begunEvents timeout) =
      if endpoint.source.lock.holder.isNone then [endpoint.made] else [] := by
  unfold begunEvents
  split <;> rfl

/-- Nothing is seen of a receive. -/
structure Unanswering (seen : List (EndpointEvent M)) : Prop where
  turned : turns seen = []
  given : gifts seen = []
  silent : ∀ call message?, .caused (.answered call message?) ∉ seen

theorem unanswering_nil : Unanswering ([] : List (EndpointEvent M)) :=
  ⟨rfl, rfl, nofun⟩

theorem unanswering_entered (message : M) : Unanswering [.entered message] :=
  ⟨rfl, rfl, by simp⟩

/-- Everything that a move can do to an endpoint. -/
inductive Steps (endpoint : Endpoint M) (now : Nat) :
    EndpointMove M → Endpoint M → List (EndpointEvent M) → Prop where
  | begins {timeout : Nat} {source : ChannelSource M} {effects : List (ChannelEffect M)}
      (polled : (endpoint.begun timeout).source.Polls now endpoint.made source effects) :
      Steps endpoint now (.receive timeout) { endpoint.begun timeout with source }
        (endpoint.begunEvents timeout ++ effects.map .caused)
  | polls {call : Nat} {source : ChannelSource M} {effects : List (ChannelEffect M)}
      (polled : endpoint.source.Polls now call source effects) :
      Steps endpoint now (.poll call) { endpoint with source } (effects.map .caused)
  | writes {move : EndpointMove M} {channel : Channel M} {seen : List (EndpointEvent M)}
      (stays : endpoint.channel.isClosed = true →
        channel.isClosed = true ∧ entries seen = [])
      (closed : channel.isClosed = true → channel.waiting = [] ∧ channel.granted = [])
      (buffer : channel.buffer = endpoint.channel.buffer ++ entries seen)
      (unanswering : Unanswering seen)
      (closes : ∀ left, .closed left ∈ seen ↔ endpoint.channel.isClosed = false ∧
        channel.isClosed = true ∧ left = channel.buffer.length) :
      Steps endpoint now move (endpoint.setChannel channel) seen

theorem forget_steps (orderly : endpoint.source.Orderly) (sender : Nat) :
    endpoint.Steps now (.forget sender) (endpoint.setChannel (endpoint.channel.forget sender).1)
      ((endpoint.channel.forget sender).2.toList.map fun sender => .caused (.freed sender)) := by
  have unseen (freed : Option Nat) :
      entries (M := M) (freed.toList.map fun sender => .caused (.freed sender)) = [] ∧
      turns (M := M) (freed.toList.map fun sender => .caused (.freed sender)) = [] ∧
      gifts (M := M) (freed.toList.map fun sender => .caused (.freed sender)) = [] := by
    cases freed <;> exact ⟨rfl, rfl, rfl⟩
  obtain ⟨unentered, unturned, ungiven⟩ := unseen (endpoint.channel.forget sender).2
  have kept : (endpoint.channel.forget sender).1.buffer = endpoint.channel.buffer ∧
      (endpoint.channel.forget sender).1.senders = endpoint.channel.senders := by
    unfold Channel.forget Channel.grant
    split
    · split <;> exact ⟨rfl, rfl⟩
    · exact ⟨rfl, rfl⟩
  obtain ⟨buffer, senders⟩ := kept
  have same : (endpoint.channel.forget sender).1.isClosed = endpoint.channel.isClosed :=
    congrArg (· == 0) senders
  refine .writes (fun shut => ⟨same.trans shut, unentered⟩) (fun shut => ?_) ?_
    ⟨unturned, ungiven, by simp⟩ fun left => ?_
  · obtain ⟨unwaited, ungranted⟩ := orderly.closed (same.symm.trans shut)
    simp only [channel] at unwaited ungranted ⊢
    simp [Channel.forget, unwaited, ungranted]
  · rw [buffer, unentered, List.append_nil]
  · rw [same]
    cases endpoint.channel.isClosed <;> simp

/-- What is done to a channel that is open, and no sender leaves. -/
theorem steps_of_open {channel : Channel M} (opened : ¬ endpoint.channel.isClosed = true)
    (senders : endpoint.channel.senders ≤ channel.senders)
    (buffer : channel.buffer = endpoint.channel.buffer ++ entries seen)
    (unanswering : Unanswering seen) (unclosing : ∀ left, .closed left ∉ seen) :
    endpoint.Steps now move (endpoint.setChannel channel) seen := by
  have still : channel.isClosed ≠ true := by
    intro shut
    simp only [Channel.isClosed, beq_iff_eq] at opened shut
    omega
  refine .writes (fun shut => absurd shut opened) (fun shut => absurd shut still) buffer
    unanswering fun left => ?_
  simp [unclosing left, still]

theorem leave_steps
    (held : 1 < endpoint.channel.senders ∨ endpoint.channel.senders = 1 ∧
      endpoint.channel.waiting = [] ∧ endpoint.channel.granted = []) :
    endpoint.Steps now .leave (endpoint.setChannel endpoint.channel.leave)
      (if endpoint.channel.leave.isClosed then [.closed endpoint.channel.leave.buffer.length]
        else []) := by
  have opened : endpoint.channel.isClosed = false := by
    simp only [Channel.isClosed, beq_eq_false_iff_ne]
    omega
  refine .writes (fun shut => ?_) (fun shut => ?_) ?_ ?_ fun left => ?_
  · cases opened.symm.trans shut
  · -- with another sender left the channel would still be open
    rcases held with several | ⟨_, unheld⟩
    · simp only [Channel.isClosed, Channel.leave, beq_iff_eq] at shut
      omega
    · exact unheld
  · split <;> exact (List.append_nil _).symm
  · split
    · exact ⟨rfl, rfl, by simp⟩
    · exact unanswering_nil
  · split
    · rename_i shut
      simp [opened, shut]
    · rename_i shut
      simp [shut]

theorem step_steps (orderly : endpoint.source.Orderly)
    (stepped : endpoint.step now move = some (next, seen)) :
    endpoint.Steps now move next seen := by
  cases move with
  | receive timeout =>
      cases stepped
      exact .begins (ChannelSource.poll_polls ..)
  | poll call =>
      cases stepped
      exact .polls (ChannelSource.poll_polls ..)
  | trySend message =>
      simp only [step] at stepped
      split at stepped
      · cases stepped
      · rename_i opened
        split at stepped
        · cases stepped
          exact steps_of_open opened (Nat.le_refl _) (List.append_nil _).symm unanswering_nil nofun
        · rename_i channel sent
          cases stepped
          unfold Channel.trySend? at sent
          split at sent <;> cases sent
          refine steps_of_open opened ?_ ?_ (unanswering_entered message) (by simp)
          · exact Nat.le_refl _
          · rfl
  | send sender message =>
      simp only [step] at stepped
      split at stepped
      · cases stepped
      · rename_i opened
        cases stepped
        unfold Channel.send
        split
        · refine steps_of_open opened ?_ ?_ (unanswering_entered message) (by simp)
          · exact Nat.le_refl _
          · rfl
        · refine steps_of_open opened ?_ ?_ unanswering_nil nofun
          · exact Nat.le_refl _
          · exact (List.append_nil _).symm
  | sendGranted sender message =>
      simp only [step] at stepped
      split at stepped
      · rename_i granted
        cases stepped
        -- the permit of a sender keeps the channel open
        have opened : ¬ endpoint.channel.isClosed = true := by
          intro shut
          have ungranted : endpoint.channel.granted = [] := (orderly.closed shut).2
          rw [ungranted] at granted
          cases granted
        refine steps_of_open opened ?_ ?_ (unanswering_entered message) (by simp)
        · exact Nat.le_refl _
        · rfl
      · cases stepped
  | forget sender =>
      cases stepped
      exact forget_steps orderly sender
  | join =>
      simp only [step] at stepped
      split at stepped
      · cases stepped
      · rename_i opened
        cases stepped
        exact steps_of_open opened (Nat.le_succ _) (List.append_nil _).symm unanswering_nil nofun
  | leave =>
      simp only [step] at stepped
      split at stepped
      · rename_i held
        cases stepped
        exact leave_steps held
      · cases stepped

/-! ### The order of the turns and of the messages -/

/-- What has been seen so far: the receives have their turns in the order in which they were
made, and what has entered went to them in that order or is still in the buffer. -/
structure Fifo (endpoint : Endpoint M) (past : List (EndpointEvent M)) : Prop where
  line : turns past ++ endpoint.source.lock.waiting = List.range endpoint.made
  conserved : entries past = (gifts past).map Prod.snd ++ endpoint.channel.buffer
  ordered : ∃ done, turns past = done ++ endpoint.source.lock.holder.toList ∧
    ((gifts past).map Prod.fst).Sublist done

theorem Fifo.passes (fifo : endpoint.Fifo past)
    (passes : endpoint.source.Passes call source (effects.map .caused)) :
    ({ endpoint with source } : Endpoint M).Fifo (past ++ effects.map .caused) := by
  obtain ⟨done, turned, ordered⟩ := fifo.ordered
  cases passes with
  | stays lock buffer unturned ungiven =>
      refine ⟨?_, ?_, done, ?_, ?_⟩
      · rw [turns_append, unturned, List.append_nil, lock]
        exact fifo.line
      · rw [entries_append, entries_caused, gifts_append, ungiven, List.append_nil,
          List.append_nil, fifo.conserved]
        exact congrArg _ buffer.symm
      · rw [turns_append, unturned, List.append_nil, lock, turned]
      · rwa [gifts_append, ungiven, List.append_nil]
  | passes message? holds lock buffer passed given =>
      rw [holds, Option.toList_some] at turned
      refine ⟨?_, ?_, turns past, ?_, ?_⟩
      · rw [turns_append, passed, List.append_assoc, lock, FairLock.release_waiting]
        exact fifo.line
      · rw [entries_append, entries_caused, gifts_append, given, List.append_nil,
          List.map_append, List.append_assoc, fifo.conserved]
        refine congrArg _ (buffer.trans ?_)
        cases message? <;> rfl
      · rw [turns_append, passed, lock]
      · rw [gifts_append, given, List.map_append, turned]
        refine ordered.append ?_
        cases message? with
        | none => exact List.nil_sublist _
        | some message => exact List.Sublist.refl _

theorem Fifo.begins (fifo : endpoint.Fifo past) (orderly : endpoint.source.Orderly)
    (timeout : Nat) :
    (endpoint.begun timeout).Fifo (past ++ endpoint.begunEvents timeout) := by
  obtain ⟨done, turned, ordered⟩ := fifo.ordered
  have line := fifo.line
  have conserved : entries (past ++ endpoint.begunEvents timeout) =
      (gifts (past ++ endpoint.begunEvents timeout)).map Prod.snd ++
        (endpoint.begun timeout).channel.buffer := by
    rw [entries_append, entries_begunEvents, gifts_append, gifts_begunEvents, List.append_nil,
      List.append_nil]
    exact fifo.conserved
  cases held : endpoint.source.lock.holder with
  | none =>
      -- the turn passes to the receive at once, as nobody waits for a free lock
      have free := orderly.wellFormed held
      have turn : turns (endpoint.begunEvents timeout) = [endpoint.made] := by
        rw [turns_begunEvents, held]
        rfl
      have lock : (endpoint.begun timeout).source.lock =
          { holder := some endpoint.made, waiting := [] } := by
        simp [begun, FairLock.request, held, free]
      rw [held, Option.toList_none, List.append_nil] at turned
      rw [free, List.append_nil] at line
      refine ⟨?_, conserved, done, ?_, ?_⟩
      · rw [turns_append, turn, lock, List.append_nil, line]
        exact List.range_succ.symm
      · rw [turns_append, turn, lock, turned]
        rfl
      · rwa [gifts_append, gifts_begunEvents, List.append_nil]
  | some holder =>
      have turn : turns (endpoint.begunEvents timeout) = [] := by
        rw [turns_begunEvents, held]
        rfl
      have lock : (endpoint.begun timeout).source.lock =
          { holder := some holder
            waiting := endpoint.source.lock.waiting ++ [endpoint.made] } := by
        simp [begun, FairLock.request, held]
      refine ⟨?_, conserved, done, ?_, ?_⟩
      · rw [turns_append, turn, lock, List.append_nil, ← List.append_assoc, line]
        exact List.range_succ.symm
      · rw [turns_append, turn, lock, turned, held, List.append_nil]
      · rwa [gifts_append, gifts_begunEvents, List.append_nil]

theorem begun_orderly (orderly : endpoint.source.Orderly) (timeout : Nat) :
    (endpoint.begun timeout).source.Orderly where
  wellFormed := FairLock.wellFormed_request _ _
  listens stood := by
    rcases ChannelSource.point?_of_begun stood with there | ⟨_, other⟩
    · have holds := orderly.listens there
      simp [begun, FairLock.request, holds]
    · cases other
  idles stood := by
    rcases ChannelSource.point?_of_begun stood with there | ⟨_, other⟩
    · exact orderly.idles there
    · cases other
  closed := orderly.closed

theorem Steps.orderly (orderly : endpoint.source.Orderly)
    (steps : endpoint.Steps now move next seen) : next.source.Orderly := by
  cases steps with
  | begins polled => exact polled.orderly (begun_orderly orderly _)
  | polls polled => exact polled.orderly orderly
  | writes stays closed buffer =>
      refine ⟨orderly.wellFormed, orderly.listens, fun stood => ?_, closed⟩
      obtain ⟨shut, empty⟩ := orderly.idles stood
      obtain ⟨still, none⟩ := stays shut
      refine ⟨still, buffer.trans ?_⟩
      rw [none, List.append_nil]
      exact empty

theorem Steps.fifo (orderly : endpoint.source.Orderly) (fifo : endpoint.Fifo past)
    (steps : endpoint.Steps now move next seen) : next.Fifo (past ++ seen) := by
  cases steps with
  | begins polled =>
      have passed := polled.passes (begun_orderly orderly _)
      rw [← List.append_assoc]
      exact (fifo.begins orderly _).passes passed
  | polls polled => exact fifo.passes (polled.passes orderly)
  | writes _ _ buffer unanswering =>
      obtain ⟨turned, given, _⟩ := unanswering
      obtain ⟨done, turns, ordered⟩ := fifo.ordered
      refine ⟨?_, ?_, done, ?_, ?_⟩
      · rw [turns_append, turned, List.append_nil]
        exact fifo.line
      · rw [entries_append, gifts_append, given, List.append_nil, fifo.conserved,
          List.append_assoc]
        exact congrArg _ buffer.symm
      · rw [turns_append, turned, List.append_nil]
        exact turns
      · rwa [gifts_append, given, List.append_nil]

/-- Nothing enters a channel that is closed and empty. -/
theorem Steps.stays_closed (shut : endpoint.channel.isClosed = true)
    (empty : endpoint.channel.buffer = []) (steps : endpoint.Steps now move next seen) :
    next.channel.isClosed = true ∧ next.channel.buffer = [] ∧ entries seen = [] := by
  cases steps with
  | @begins timeout source effects polled =>
      have same : source.channel = endpoint.channel := polled.channel_of_empty empty
      refine ⟨?_, ?_, ?_⟩
      · exact (congrArg Channel.isClosed same).trans shut
      · exact (congrArg Channel.buffer same).trans empty
      · rw [entries_append, entries_begunEvents, entries_caused]
        rfl
  | @polls call source effects polled =>
      have same : source.channel = endpoint.channel := polled.channel_of_empty empty
      refine ⟨?_, ?_, entries_caused _⟩
      · exact (congrArg Channel.isClosed same).trans shut
      · exact (congrArg Channel.buffer same).trans empty
  | writes stays _ buffer =>
      obtain ⟨still, none⟩ := stays shut
      refine ⟨still, buffer.trans ?_, none⟩
      rw [none, List.append_nil]
      exact empty

/-- A move that answers a receive without a message takes nothing and lets nothing in. -/
theorem Steps.unanswered (orderly : endpoint.source.Orderly)
    (steps : endpoint.Steps now move next seen)
    (answered : .caused (.answered call none) ∈ seen) :
    next.channel = endpoint.channel ∧ entries seen = [] ∧
      (endpoint.channel.isClosed = true → endpoint.channel.buffer = []) := by
  have caused {effects : List (ChannelEffect M)}
      (answered : .caused (.answered call none) ∈ effects.map EndpointEvent.caused) :
      .answered call none ∈ effects := by
    obtain ⟨effect, member, same⟩ := List.mem_map.mp answered
    cases same
    exact member
  cases steps with
  | @begins timeout source effects polled =>
      rcases List.mem_append.mp answered with early | late
      · rcases mem_begunEvents early with same | same <;> cases same
      · obtain ⟨same, empty⟩ := polled.unanswered (begun_orderly orderly _) (caused late)
        refine ⟨same, ?_, empty⟩
        rw [entries_append, entries_begunEvents, entries_caused]
        rfl
  | polls polled =>
      obtain ⟨same, empty⟩ := polled.unanswered orderly (caused answered)
      exact ⟨same, entries_caused _, empty⟩
  | writes _ _ _ unanswering => exact absurd answered (unanswering.silent call none)

/-! ### Whole histories -/

theorem orderly_make {capacity senders : Nat} (made : make capacity senders = .ok start) :
    start.source.Orderly ∧ start.Fifo ([] : List (EndpointEvent M)) := by
  unfold make Channel.make at made
  split at made
  · cases made
  · cases made
    refine ⟨⟨FairLock.wellFormed_free, nofun, nofun, fun _ => ⟨rfl, rfl⟩⟩, rfl, rfl, [], rfl, ?_⟩
    exact List.Sublist.refl _

theorem Orderly.run? (orderly : start.source.Orderly) (fifo : start.Fifo past)
    (ran : start.run? moves = some (last, events)) :
    last.source.Orderly ∧ last.Fifo (past ++ events) := by
  refine follow?_carries past (fun past (endpoint : Endpoint M) =>
    endpoint.source.Orderly ∧ endpoint.Fifo past) (fun _ ⟨orderly, fifo⟩ stepped => ?_)
    ⟨orderly, fifo⟩ ran
  have steps := step_steps orderly stepped
  exact ⟨steps.orderly orderly, steps.fifo orderly fifo⟩

theorem run?_stays_closed (orderly : start.source.Orderly)
    (shut : start.channel.isClosed = true) (empty : start.channel.buffer = [])
    (ran : start.run? moves = some (last, events)) : entries events = [] := by
  refine (follow?_carries [] (fun past (endpoint : Endpoint M) =>
    endpoint.source.Orderly ∧ endpoint.channel.isClosed = true ∧
      endpoint.channel.buffer = [] ∧ entries past = [])
    (fun _ ⟨orderly, shut, empty, past⟩ stepped => ?_) ⟨orderly, shut, empty, rfl⟩ ran).2.2.2
  have steps := step_steps orderly stepped
  obtain ⟨still, bare, silent⟩ := steps.stays_closed shut empty
  refine ⟨steps.orderly orderly, still, bare, ?_⟩
  rw [entries_append, past, silent]
  rfl

/-- Whatever is sent, given up and received, and in whatever order: the messages that have
entered are those that the receives were answered with, in the order in which the receives had
their turns, followed by those in the buffer.  An answer without a message removes nothing, and
if the channel is closed by then, everything that ever enters it has been received. -/
theorem messages_in_turn_order (capacity senders : Nat) {reached : Endpoint M}
    (made : make capacity senders = .ok start)
    (ran : start.run? moves = some (reached, events)) :
    entries events = (turns events).filterMap (gift? events) ++ reached.channel.buffer ∧
    (turns events).Nodup ∧ ((gifts events).map Prod.fst).Nodup ∧
    (∀ call message, (call, message) ∈ gifts events → call ∈ turns events) ∧
    ∀ now move next seen call, reached.step now move = some (next, seen) →
      .caused (.answered call none) ∈ seen →
        next.channel.buffer = reached.channel.buffer ∧ entries seen = [] ∧
        (reached.channel.isClosed = true → ∀ later last more,
          next.run? later = some (last, more) →
            entries (events ++ (seen ++ more)) = (turns events).filterMap (gift? events)) := by
  obtain ⟨orderly, fifo⟩ := orderly_make (M := M) made
  obtain ⟨orderly, fifo⟩ := Orderly.run? orderly fifo ran
  rw [List.nil_append] at fifo
  obtain ⟨done, turned, ordered⟩ := fifo.ordered
  have given : ((gifts events).map Prod.fst).Sublist (turns events) :=
    turned ▸ ordered.trans (List.sublist_append_left ..)
  have once : (turns events).Nodup := by
    have numbered : (turns events ++ reached.source.lock.waiting).Nodup :=
      fifo.line ▸ List.nodup_range
    exact numbered.sublist (List.sublist_append_left ..)
  have answers : (turns events).filterMap (gift? events) = (gifts events).map Prod.snd :=
    filterMap_lookup once given
  refine ⟨answers ▸ fifo.conserved, once, once.sublist given, ?_, ?_⟩
  · intro call message member
    exact given.subset (List.mem_map_of_mem (f := Prod.fst) member)
  · intro now move next seen call stepped answered
    have steps := step_steps orderly stepped
    obtain ⟨same, silent, empty⟩ := steps.unanswered orderly answered
    refine ⟨congrArg Channel.buffer same, silent, fun shut later last more ran => ?_⟩
    have nothing := empty shut
    obtain ⟨still, bare, _⟩ := steps.stays_closed shut nothing
    have none := run?_stays_closed (steps.orderly orderly) still bare ran
    rw [entries_append, entries_append, silent, none, answers, fifo.conserved, nothing]
    simp

/-- Two receives at once, a sender that waits for a slot, and the end of the only sender. -/
def twoReceives : List (Nat × EndpointMove Nat) :=
  [(0, .receive 50), (0, .receive 10), (1, .trySend 7), (1, .send 3 8), (2, .poll 0), (3, .poll 1),
    (4, .sendGranted 3 8), (4, .poll 1), (5, .leave)]

/-- What is seen of a third receive, which finds the channel closed. -/
def closedAnswer : List (EndpointEvent Nat) :=
  [.called 2 0, .turned 2, .caused (.calmed 2), .caused (.logged .channelClosed),
    .caused (.answered 2 none)]

theorem messages_in_turn_order_of_closed :
    ∃ (start reached next : Endpoint Nat) (events : List (EndpointEvent Nat)),
      make 1 1 = .ok start ∧ start.run? twoReceives = some (reached, events) ∧
      entries events = [7, 8] ∧
      entries events = (turns events).filterMap (gift? events) ++ reached.channel.buffer ∧
      reached.step 6 (.receive 0) = some (next, closedAnswer) ∧
      ∀ later last more, next.run? later = some (last, more) →
        entries (events ++ (closedAnswer ++ more)) = (turns events).filterMap (gift? events) := by
  obtain ⟨start, reached, next, events, made, ran, entered, stepped, shut⟩ :
      ∃ (start reached next : Endpoint Nat) (events : List (EndpointEvent Nat)),
        make 1 1 = .ok start ∧ start.run? twoReceives = some (reached, events) ∧
        entries events = [7, 8] ∧ reached.step 6 (.receive 0) = some (next, closedAnswer) ∧
        reached.channel.isClosed = true :=
    ⟨_, _, _, _, rfl, rfl, rfl, rfl, rfl⟩
  have answered : .caused (.answered 2 none) ∈ closedAnswer := by simp [closedAnswer]
  obtain ⟨conserved, _, _, _, unanswered⟩ := messages_in_turn_order 1 1 made ran
  obtain ⟨_, _, finished⟩ := unanswered 6 _ _ _ 2 stepped answered
  exact ⟨start, reached, next, events, made, ran, entered, conserved, stepped, finished shut⟩

end Endpoint

end Batching

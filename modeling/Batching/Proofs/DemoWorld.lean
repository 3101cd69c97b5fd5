import Batching.Demo.Run
import Batching.Proofs.Errands

namespace Batching.Demo

/-! What every task of the demonstration keeps.

Between two tasks there is at most one call of the source or the sink, and its answer is the
one that the channel or the sink owes.  So every answer is taken, the counts on both sides
agree with what is on record, and the messages pass from the producer to the sink in the order
of their numbers.  `Sound` says so, and `Sound.goes` that it stays so whatever is done next.
-/

open Simulation

variable {failEvery : Nat} {world next : World Nat} {hand tasks : List (Simulation.Task Nat)}
  {events : List (OutletEvent Nat)} {current : Option (Nat × Await Nat)}

/-! ### What is on its way -/

/-- The messages that the answers bring. -/
def brought (tasks : List (Simulation.Task Nat)) : List Nat :=
  tasks.flatMap fun
    | .received _ (.returned answer) => answer.toList
    | _ => []

/-- What the answers will add to the tally. -/
def pending : List (Simulation.Task Nat) → Tally
  | [] => {}
  | .delivered _ outcome :: rest => outcome.tally.plus (pending rest)
  | _ :: rest => pending rest

/-- How the deliveries on record ended, or will end. -/
def recorded (records : List (DeliveryRecord Nat)) : Tally :=
  ⟨records.countP (·.kind == .ok), records.countP (·.kind == .err)⟩

/-- The answer that is owed to a call. -/
inductive Answers (failEvery : Nat) : Nat × Await Nat → Simulation.Task Nat → Prop where
  | received {runner cycle index deadline timeout : Nat} {answer : Option Nat} :
      Answers failEvery (runner, .receive cycle index deadline timeout)
        (.received runner (.returned answer))
  | delivered {runner cycle received dispatched message : Nat} {reason : FillExit} :
      Answers failEvery (runner, .process cycle received reason dispatched message)
        (.delivered runner (replyTo failEvery message).outcome)

/-- The call in progress and what is on its way for it: it is due to begin, a receive of the
channel, or answered. -/
inductive Flight (failEvery : Nat) : Option (Nat × Await Nat) → List (OutletEvent Nat) →
    List (Simulation.Task Nat) → List Nat → Prop where
  | rests : Flight failEvery none [] [] []
  | due {runner : Nat} {await : Await Nat} :
      Flight failEvery (some (runner, await)) [await.errand runner] [] []
  | asking {runner cycle index deadline timeout : Nat} :
      Flight failEvery (some (runner, .receive cycle index deadline timeout)) [] [] [runner]
  | answered {call : Nat × Await Nat} {task : Simulation.Task Nat}
      (answers : Answers failEvery call task) : Flight failEvery (some call) [] [task] []

/-- The messages are in the order of their numbers, and those to come are numbered higher. -/
structure InOrder (producer : Option (Producer Nat)) (messages : List Nat) : Prop where
  ascending : messages.Pairwise (· < ·)
  numbered : ∀ sender, producer = some sender →
    sender.message = id ∧ ∀ message ∈ messages, message < sender.next

theorem InOrder.sublist {producer : Option (Producer Nat)} {messages fewer : List Nat}
    (inOrder : InOrder producer messages) (sublist : fewer.Sublist messages) :
    InOrder producer fewer where
  ascending := inOrder.ascending.sublist sublist
  numbered sender produces :=
    ⟨(inOrder.numbered sender produces).1,
      fun message member => (inOrder.numbered sender produces).2 message (sublist.subset member)⟩

/-- The receives that the channel is working on. -/
def callers (world : World Nat) : List Nat :=
  match world.supply with
  | .channel source => source.callers
  | .scripted _ => []

def buffer (world : World Nat) : List Nat :=
  match world.supply with
  | .channel source => source.channel.buffer
  | .scripted _ => []

def delivered (world : World Nat) : List Nat :=
  (world.journal.deliveries.map DeliveryRecord.message).reverse

/-- All messages from the first one delivered to the last one in the channel. -/
def stream (world : World Nat) (hand : List (Simulation.Task Nat))
    (events : List (OutletEvent Nat)) : List Nat :=
  delivered world ++ (dues events).filterMap OutletEvent.given? ++
    world.outlet.crew.pipeline.batch.toList ++ brought (hand ++ world.errands) ++ buffer world

/-- The world while a task is in hand, if it is an answer, and `events` are still to be reacted
to. -/
structure Sound (failEvery : Nat) (world : World Nat) (hand : List (Simulation.Task Nat))
    (events : List (OutletEvent Nat)) : Prop where
  base : world.base = (sink failEvery).toScriptedBase
  channelled : ∃ source, world.supply = .channel source
  kept : world.released = false
  counted : world.outlet.Counted
  flight : Flight failEvery world.outlet.crew.current? (dues events) (hand ++ world.errands)
    (callers world)
  inOrder : InOrder world.producer (stream world hand events)
  kinds : ∀ record ∈ world.journal.deliveries,
    record.kind = (replyTo failEvery record.message).kind
  tally : recorded world.journal.deliveries =
    world.outlet.tally.plus (pending (hand ++ world.errands))

theorem Flight.of_perm {due : List (OutletEvent Nat)} {calls : List Nat}
    {more : List (Simulation.Task Nat)} (flight : Flight failEvery current due tasks calls)
    (same : more.Perm tasks) : more = tasks := by
  cases flight with
  | rests | due | asking => exact same.eq_nil
  | answered => exact same.eq_singleton

theorem Flight.of_rest {due : List (OutletEvent Nat)} {calls : List Nat}
    (flight : Flight failEvery none due tasks calls) : tasks = [] ∧ calls = [] := by
  cases flight
  exact ⟨rfl, rfl⟩

theorem Flight.of_task {due : List (OutletEvent Nat)} {calls : List Nat}
    {task : Simulation.Task Nat} (flight : Flight failEvery current due (task :: tasks) calls) :
    ∃ call, current = some call ∧ Answers failEvery call task ∧ due = [] ∧ tasks = [] ∧
      calls = [] := by
  cases flight with
  | answered answers => exact ⟨_, rfl, answers, rfl, rfl, rfl⟩

theorem Flight.of_due {event : OutletEvent Nat} {rest : List (OutletEvent Nat)}
    {calls : List Nat} (flight : Flight failEvery current (event :: rest) tasks calls) :
    ∃ runner await, current = some (runner, await) ∧ event = await.errand runner ∧ rest = [] ∧
      tasks = [] ∧ calls = [] := by
  cases flight
  exact ⟨_, _, rfl, rfl, rfl, rfl, rfl⟩

/-- The errands in hand come on the agenda, and nothing else changes that a call depends on. -/
theorem Sound.gains (sound : Sound failEvery world hand events) (gains : world.Gains hand next)
    {more : List (OutletEvent Nat)} (same : dues more = dues events) :
    Sound failEvery next [] more := by
  have errands : [] ++ next.errands = hand ++ world.errands :=
    sound.flight.of_perm gains.errands
  have callers : callers next = callers world := by rw [Demo.callers, gains.supply]; rfl
  have stream : stream next [] more = stream world hand events := by
    simp only [Demo.stream, delivered, buffer, errands, same, gains.supply, gains.outlet,
      gains.deliveries]
  exact
    { base := gains.base.trans sound.base
      channelled := gains.supply ▸ sound.channelled
      kept := gains.released.trans sound.kept
      counted := gains.outlet ▸ sound.counted
      flight := by rw [gains.outlet, same, errands, callers]; exact sound.flight
      inOrder := by rw [gains.producer, stream]; exact sound.inOrder
      kinds := by rw [gains.deliveries]; exact sound.kinds
      tally := by rw [gains.deliveries, gains.outlet, errands]; exact sound.tally }

/-! ### What an accumulator makes happen -/

theorem Sound.react_idle {event : OutletEvent Nat} (idle : event.isErrand = false)
    (sound : Sound failEvery world [] (event :: events)) :
    Sound failEvery (world.react event) [] events := by
  obtain ⟨source, supplied⟩ := sound.channelled
  have lifeless : world.base.counted = false := by rw [sound.base]; rfl
  refine sound.gains (World.react_gains supplied lifeless idle) ?_
  rw [dues, dues, List.filter_cons_of_neg (by simp [idle])]

theorem replyTo_calm (failEvery message : Nat) (payload : PanicPayload) :
    (replyTo failEvery message).outcome ≠ .panicked payload := by
  unfold replyTo
  split <;> simp

theorem recorded_cons (time message : Nat) (records : List (DeliveryRecord Nat))
    {outcome : Outcome Unit} (calm : ∀ payload, outcome ≠ .panicked payload) :
    recorded (⟨time, message, ReplyKind.ofOutcome outcome⟩ :: records) =
      (recorded records).plus outcome.tally := by
  cases outcome with
  | returned | failed =>
      simp [recorded, ReplyKind.ofOutcome, Outcome.tally, Tally.plus]
  | panicked payload => exact absurd rfl (calm payload)

/-- The delivery that is due goes on record, and its answer is on the way. -/
theorem Sound.react_delivery {runner message : Nat}
    (sound : Sound failEvery world [] (.deliveryBegan runner message :: events)) :
    Sound failEvery (world.react (.deliveryBegan runner message)) [] events := by
  have flight := sound.flight
  rw [dues_cons rfl] at flight
  obtain ⟨caller, await, current, same, quiet, free, unasked⟩ := flight.of_due
  have otherwise : world.base.otherwise = replyTo failEvery := by rw [sound.base]; rfl
  have unruled : world.base.rules = [] := by rw [sound.base]; rfl
  have gains := World.beginDelivery_gains unruled runner message
  rw [otherwise] at gains
  cases await with
  | receive => cases same
  | process cycle received reason dispatched given =>
      cases same
      have alone : world.errands = [] := free
      refine Sound.gains ?_ gains rfl
      refine
        { base := sound.base
          channelled := sound.channelled
          kept := sound.kept
          counted := sound.counted
          flight := ?_
          inOrder := ?_
          kinds := List.forall_mem_cons.mpr ⟨rfl, sound.kinds⟩
          tally := ?_ }
      · change Flight failEvery world.outlet.crew.current? _ (_ ++ world.errands)
          (callers world)
        rw [current, quiet, alone, unasked]
        exact .answered .delivered
      · have same : stream (world.putDown ⟨world.now, message, (replyTo failEvery message).kind⟩)
            [.delivered runner (replyTo failEvery message).outcome] events =
              stream world [] (.deliveryBegan runner message :: events) := by
          have longer : delivered (world.putDown
              ⟨world.now, message, (replyTo failEvery message).kind⟩) =
                delivered world ++ [message] := List.reverse_cons
          rw [stream, stream, dues_cons rfl, quiet, longer, List.filterMap_nil, List.append_nil]
          rfl
        exact same ▸ sound.inOrder
      · have tally := sound.tally
        change recorded (_ :: _) = world.outlet.tally.plus (pending (_ ++ world.errands))
        rw [alone] at tally ⊢
        refine (recorded_cons _ _ _ (replyTo_calm failEvery message)).trans ?_
        rw [tally]
        rfl

theorem Flight.of_call {due : List (OutletEvent Nat)} {calls : List Nat} {call : Nat}
    (flight : Flight failEvery current due tasks calls) (called : call ∈ calls) :
    ∃ cycle index deadline timeout,
      current = some (call, .receive cycle index deadline timeout) ∧ due = [] ∧ tasks = [] ∧
        calls = [call] := by
  cases flight with
  | rests | due | answered => cases called
  | asking =>
      cases List.mem_singleton.mp called
      exact ⟨_, _, _, _, rfl, rfl, rfl, rfl⟩

/-- The receives of the channel change, and nothing that is held or given. -/
theorem Sound.resupply (sound : Sound failEvery world [] events) {source : ChannelSource Nat}
    {more : List (OutletEvent Nat)}
    (called : Flight failEvery world.outlet.crew.current? (dues more) world.errands source.callers)
    (given : (dues more).filterMap OutletEvent.given? =
      (dues events).filterMap OutletEvent.given?)
    (held : source.channel.buffer = buffer world) :
    Sound failEvery (world.resupply source) [] more :=
  { sound with
    channelled := ⟨source, rfl⟩
    flight := called
    inOrder := by
      have same : stream (world.resupply source) [] more = stream world [] events := by
        rw [stream, stream, given, ← held]
        rfl
      exact same ▸ sound.inOrder }

/-- A receive goes on, or has its answer, which is in hand. -/
theorem Sound.serves {source after : ChannelSource Nat} {call : Nat}
    {answers : List (Nat × Option Nat)} (sound : Sound failEvery world [] events)
    (supplied : world.supply = .channel source) (serves : source.Serves call after answers) :
    Sound failEvery (world.resupply after) (answersOf answers) events := by
  have callers : callers world = source.callers := by rw [Demo.callers, supplied]
  have buffer : buffer world = source.channel.buffer := by rw [Demo.buffer, supplied]
  cases serves with
  | waits same held =>
      refine sound.resupply ?_ rfl (held.trans buffer.symm)
      rw [same, ← callers]
      exact sound.flight
  | @answers answer called fewer held =>
      obtain ⟨cycle, index, deadline, timeout, current, quiet, none, alone⟩ :=
        sound.flight.of_call (callers ▸ called)
      have free : world.errands = [] := none
      have idle : after.callers = [] := by
        rw [fewer, ← callers, alone]
        simp
      have same : stream (world.resupply after) [.received call (.returned answer)] events =
          stream world [] events := by
        have whole : brought [.received call (.returned answer)] = answer.toList :=
          List.append_nil _
        change _ ++ brought ([.received call (.returned answer)] ++ world.errands) ++
          after.channel.buffer = _
        rw [stream, free, List.append_nil, whole, buffer, ← held, List.append_assoc]
        simp [brought, World.resupply, delivered]
      exact
        { sound with
          channelled := ⟨after, rfl⟩
          flight := by
            change Flight failEvery world.outlet.crew.current? _ ([_] ++ world.errands)
              after.callers
            rw [current, quiet, free, idle]
            exact .answered .received
          inOrder := same ▸ sound.inOrder }

/-- The receive that is due is taken to the channel, which may have an answer at once. -/
theorem Sound.react_receive {runner cycle timeout : Nat}
    (sound : Sound failEvery world [] (.seen (.receiveBegan runner cycle timeout) :: events)) :
    Sound failEvery (world.react (.seen (.receiveBegan runner cycle timeout))) [] events := by
  obtain ⟨source, supplied⟩ := sound.channelled
  have flight := sound.flight
  rw [dues_cons rfl] at flight
  obtain ⟨caller, await, current, same, quiet, free, unasked⟩ := flight.of_due
  have gains := World.beginReceive_gains supplied runner timeout
  cases await with
  | process => cases same
  | receive cycle index deadline limit =>
      cases same
      rw [callers, supplied] at unasked
      let queued : ChannelSource Nat :=
        { source with
          lock := source.lock.request runner
          calls := source.calls ++ [(runner, .queued timeout)] }
      have waiting : queued.callers = [runner] := by
        simpa [ChannelSource.callers, queued] using unasked
      have entered : Sound failEvery (world.resupply queued) [] events := by
        refine sound.resupply ?_ ?_ ?_
        · rw [current, quiet, waiting, show world.errands = [] from free]
          exact .asking
        · rw [dues_cons rfl, quiet]
          rfl
        · rw [buffer, supplied]
      have polled := (queued.poll_polls world.now runner).serves
      exact (entered.serves rfl polled).gains gains rfl

theorem Sound.react {event : OutletEvent Nat} (sound : Sound failEvery world [] (event :: events)) :
    Sound failEvery (world.react event) [] events := by
  cases errand : event.isErrand with
  | false => exact sound.react_idle errand
  | true =>
      have flight := sound.flight
      rw [dues_cons errand] at flight
      obtain ⟨caller, await, _, same, _⟩ := flight.of_due
      subst same
      cases await with
      | receive => exact sound.react_receive
      | process => exact sound.react_delivery

theorem Sound.reacts (sound : Sound failEvery world [] events) :
    Sound failEvery (events.foldl World.react world) [] [] := by
  induction events generalizing world with
  | nil => exact sound
  | cons event rest ih => exact ih sound.react

/-! ### Moves -/

variable {outlet : Outlet Nat} {now : Nat} {move : Move Nat}

/-- A call is over and the next one is due, if there is one.  What the call brought is in the
batch or given to the sink, and what it added is counted. -/
theorem Sound.turns (sound : Sound failEvery world hand [])
    (yields : world.outlet.Yields now move outlet events)
    (told : dues events = outlet.crew.errand?.toList) (free : world.errands = [])
    (unasked : callers world = []) (brings : brought hand = move.brought)
    (adds : pending hand = move.tally) :
    Sound failEvery { world with outlet } [] events where
  base := sound.base
  channelled := sound.channelled
  kept := sound.kept
  counted := yields.counted
  flight := by
    change Flight failEvery outlet.crew.current? (dues events) world.errands (callers world)
    rw [told, free, unasked, Crew.errand?]
    cases outlet.crew.current? with
    | none => exact .rests
    | some call => exact .due
  inOrder := by
    refine sound.inOrder.sublist ?_
    have messages := (yields.messages.append_right (buffer world)).append_left (delivered world)
    change (delivered world ++ _ ++ _ ++ brought world.errands ++ buffer world).Sublist
      (delivered world ++ [] ++ _ ++ brought (hand ++ world.errands) ++ buffer world)
    rw [free, List.append_nil, List.append_nil, brings]
    simpa only [brought, List.flatMap_nil, List.append_nil, List.append_assoc] using messages
  kinds := sound.kinds
  tally := by
    have tally := sound.tally
    rw [free, List.append_nil, adds, ← yields.tally] at tally
    change recorded world.journal.deliveries = outlet.tally.plus (pending world.errands)
    rw [free]
    exact tally

/-- Nothing begins and nothing ends, and at most some messages are dropped. -/
theorem Sound.passes (sound : Sound failEvery world [] [])
    (yields : world.outlet.Yields now move outlet events) (own : move.isOwn = true)
    (silent : dues events = []) (same : outlet.crew.current? = world.outlet.crew.current?) :
    Sound failEvery { world with outlet } [] events where
  base := sound.base
  channelled := sound.channelled
  kept := sound.kept
  counted := yields.counted
  flight := by
    change Flight failEvery outlet.crew.current? (dues events) world.errands (callers world)
    rw [silent, same]
    exact sound.flight
  inOrder := by
    refine sound.inOrder.sublist ?_
    have messages := yields.messages
    rw [silent, (Move.of_isOwn own).2, List.filterMap_nil, List.nil_append, List.append_nil]
      at messages
    change (delivered world ++ (dues events).filterMap _ ++ _ ++ _ ++ _).Sublist
      (delivered world ++ [] ++ _ ++ _ ++ _)
    rw [silent]
    exact ((messages.append_left _).append_right _).append_right _
  kinds := sound.kinds
  tally := by
    have same := yields.tally
    rw [(Move.of_isOwn own).1, Tally.plus_zero] at same
    change recorded world.journal.deliveries = outlet.tally.plus (pending world.errands)
    rw [same]
    exact sound.tally

theorem Sound.own (sound : Sound failEvery world [] []) (own : move.isOwn = true)
    (stepped : world.outlet.step world.now (.life move) = some (outlet, events)) :
    Sound failEvery { world with outlet } [] events := by
  obtain ⟨yields, ⟨told, rests⟩ | ⟨silent, same⟩⟩ := sound.counted.own own stepped
  · have flight := sound.flight
    rw [rests] at flight
    obtain ⟨free, unasked⟩ := flight.of_rest
    have none : world.errands = [] := free
    obtain ⟨adds, brings⟩ := Move.of_isOwn own
    exact sound.turns yields told none unasked brings.symm adds.symm
  · exact sound.passes yields own silent same

/-! ### Tasks -/

/-- Everything that a move makes happen has been reacted to. -/
theorem Sound.moved {move : OutletMove Nat}
    (sound : Sound failEvery { world with outlet } [] events)
    (stepped : world.outlet.step world.now move = some (outlet, events)) :
    Sound failEvery (world.move move) [] [] ∧ (world.move move).outlet = outlet := by
  have moved : world.move move = events.foldl World.react { world with outlet } := by
    simp only [World.move, stepped]
  rw [moved]
  exact ⟨sound.reacts, World.foldl_react_outlet ..⟩

theorem Sound.move_own (sound : Sound failEvery world [] []) (own : move.isOwn = true) :
    Sound failEvery (world.move (.life move)) [] [] ∧
      (move.goesOn = true → world.accumulator.Goes (world.move (.life move)).accumulator) := by
  cases result : world.outlet.step world.now (.life move) with
  | none =>
      have same : world.move (.life move) = world := by simp only [World.move, result]
      rw [same]
      exact ⟨sound, fun _ => .rests⟩
  | some made =>
      obtain ⟨outlet, events⟩ := made
      obtain ⟨after, reached⟩ := (sound.own own result).moved result
      obtain ⟨seen, stepped, _⟩ := (sound.counted.own own result).1.stepped
      have advanced : world.accumulator.step world.now move =
          some ((world.move (.life move)).accumulator, seen) := by
        rw [World.accumulator, World.accumulator, reached]
        exact stepped
      exact ⟨after, fun ongoing => .goes ongoing advanced⟩

theorem Sound.carryOn (sound : Sound failEvery world [] []) (runner : Nat) :
    Sound failEvery (world.carryOn runner) [] [] ∧
      (world.carryOn runner).accumulator = world.accumulator :=
  have gains := World.carryOn_gains world runner
  ⟨sound.gains gains rfl, congrArg Outlet.accumulator gains.outlet⟩

theorem Sound.finish {move : OutletMove Nat} {life : Move Nat}
    (sound : Sound failEvery world hand [])
    (free : world.errands = []) (unasked : callers world = [])
    (stepped : world.outlet.step world.now move = some (outlet, events))
    (yields : world.outlet.Yields world.now life outlet events)
    (told : dues events = outlet.crew.errand?.toList) (brings : brought hand = life.brought)
    (adds : pending hand = life.tally) (ongoing : life.goesOn = true) (runner : Nat) :
    Sound failEvery ((world.move move).carryOn runner) [] [] ∧
      world.accumulator.Goes ((world.move move).carryOn runner).accumulator := by
  obtain ⟨after, reached⟩ := (sound.turns yields told free unasked brings adds).moved stepped
  obtain ⟨seen, moved, _⟩ := yields.stepped
  obtain ⟨last, same⟩ := after.carryOn runner
  have advanced : world.accumulator.step world.now life =
      some (((world.move move).carryOn runner).accumulator, seen) := by
    rw [same, World.accumulator, World.accumulator, reached]
    exact moved
  exact ⟨last, .goes ongoing advanced⟩

/-- The runner that waits for the answer takes it. -/
theorem Sound.perform_answer {task : Simulation.Task Nat}
    (sound : Sound failEvery world [task] []) :
    Sound failEvery (world.perform task) [] [] ∧
      world.accumulator.Goes (world.perform task).accumulator := by
  obtain ⟨call, current, answers, _, free, unasked⟩ := sound.flight.of_task
  have waits := (Crew.current?_eq_some_iff.mp current).2
  cases answers with
  | @received runner _ _ _ _ answer =>
      obtain ⟨outlet, events, stepped, yields, told⟩ :=
        sound.counted.received waits world.now answer
      exact sound.finish free unasked stepped yields told (List.append_nil _) rfl rfl runner
  | @delivered runner _ _ _ message =>
      obtain ⟨outlet, events, stepped, yields, told⟩ :=
        sound.counted.delivered waits world.now (replyTo_calm failEvery message)
      exact sound.finish free unasked stepped yields told rfl rfl rfl runner

theorem Sound.perform_own (sound : Sound failEvery world [] []) (own : move.isOwn = true)
    (ongoing : move.goesOn = true) :
    Sound failEvery (world.move (.life move)).dropIfReleased [] [] ∧
      world.accumulator.Goes (world.move (.life move)).dropIfReleased.accumulator := by
  obtain ⟨after, goes⟩ := sound.move_own own
  have same : (world.move (.life move)).dropIfReleased = world.move (.life move) := by
    simp [World.dropIfReleased, after.kept]
  rw [same]
  exact ⟨after, goes ongoing⟩

/-! ### The producer -/

theorem InOrder.push {sender : Producer Nat} {messages : List Nat}
    (inOrder : InOrder (some sender) messages) :
    InOrder (some { sender with next := sender.next + 1 }) (messages ++ [sender.next]) := by
  obtain ⟨plain, below⟩ := inOrder.numbered sender rfl
  constructor
  · refine List.pairwise_append.mpr ⟨inOrder.ascending, List.pairwise_singleton .., ?_⟩
    intro earlier member last same
    cases List.mem_singleton.mp same
    exact below earlier member
  · intro later same
    cases same
    refine ⟨plain, fun message member => ?_⟩
    rcases List.mem_append.mp member with earlier | last
    · exact Nat.lt_succ_of_lt (below message earlier)
    · cases List.mem_singleton.mp last
      exact Nat.lt_succ_self _

/-- The next message is in the channel, and the one after it will be numbered higher. -/
theorem Sound.produced (sound : Sound failEvery world [] []) {sender : Producer Nat}
    {source : ChannelSource Nat} (sends : world.producer = some sender)
    (called : source.callers = callers world)
    (held : source.channel.buffer = buffer world ++ [sender.next]) :
    Sound failEvery (world.produced sender source) [] [] := by
  let sent : World Nat := { world with
    supply := .channel source
    producer := some { sender with next := sender.next + 1 } }
  have longer : stream sent [] [] = stream world [] [] ++ [sender.next] := by
    change _ ++ source.channel.buffer = _
    rw [held, ← List.append_assoc]
    rfl
  have entered : Sound failEvery sent [] [] :=
    { sound with
      channelled := ⟨source, rfl⟩
      flight := by
        change Flight failEvery _ _ _ source.callers
        rw [called]
        exact sound.flight
      inOrder := by
        rw [longer]
        exact (sends ▸ sound.inOrder).push }
  have woken := entered.gains (World.wakeListener_gains sent source) rfl
  exact woken.gains (World.after_gains _ _ rfl) rfl

theorem buffer_send (channel : Channel Nat) (sender message : Nat) :
    (channel.send sender message).1.buffer =
      channel.buffer ++ if (channel.send sender message).2 then [message] else [] := by
  unfold Channel.send
  split
  · rfl
  · exact (List.append_nil _).symm

theorem Sound.produce (sound : Sound failEvery world [] []) :
    Sound failEvery world.produce [] [] := by
  unfold World.produce
  split
  · rename_i sender source sends supplied
    have plain := (sound.inOrder.numbered sender sends).1
    have same : callers world = source.callers := by rw [callers, supplied]
    have held := buffer_send source.channel 0 (sender.message sender.next)
    have before : source.channel.buffer = buffer world := by rw [buffer, supplied]
    rw [before, plain] at held
    split
    · split
      rename_i channel sent sending
      rw [plain] at sending
      rw [sending] at held
      cases sent with
      | true => exact sound.produced sends same.symm held
      | false => exact sound.resupply (same ▸ sound.flight) rfl (held.trans (List.append_nil _))
    · exact sound
  · exact sound

theorem Sound.produceGranted (sound : Sound failEvery world [] []) :
    Sound failEvery world.produceGranted [] [] := by
  unfold World.produceGranted
  split
  · rename_i sender source sends supplied
    refine sound.produced sends ?_ ?_
    · rw [callers, supplied]
      rfl
    · rw [buffer, supplied, (sound.inOrder.numbered sender sends).1]
      rfl
  · exact sound

theorem buffer_forget (channel : Channel Nat) (sender : Nat) :
    (channel.forget sender).1.buffer = channel.buffer := by
  unfold Channel.forget
  split
  · cases channel.waiting <;> rfl
  · rfl

/-- The producer is stopped, and the messages that it has sent are left where they are. -/
theorem Sound.stopProducer (sound : Sound failEvery world [] []) :
    Sound failEvery (stopProducer world) [] [] := by
  have unmanned : Sound failEvery { world with producer := none } [] [] :=
    { sound with inOrder := ⟨sound.inOrder.ascending, nofun⟩ }
  have stopped := unmanned.gains (World.cancel_gains _ World.isErrand_of_isProducer) rfl
  obtain ⟨source, supplied⟩ := sound.channelled
  have same : callers world = source.callers := by rw [callers, supplied]
  simp only [Demo.stopProducer, supplied]
  refine stopped.resupply (same ▸ stopped.flight) rfl ((buffer_forget source.channel 0).trans ?_)
  rw [buffer, supplied]

/-! ### Whatever happens next -/

/-- A task that is no answer keeps the world sound. -/
theorem Sound.perform_other {task : Simulation.Task Nat} (sound : Sound failEvery world [] [])
    (other : task.isErrand = false) :
    Sound failEvery (world.perform task) [] [] ∧
      world.accumulator.Goes (world.perform task).accumulator := by
  have still {next : World Nat} (after : Sound failEvery next [] [])
      (same : next.outlet = world.outlet) :
      Sound failEvery next [] [] ∧ world.accumulator.Goes next.accumulator := by
    have unmoved : next.accumulator = world.accumulator := congrArg Outlet.accumulator same
    rw [unmoved]
    exact ⟨after, .rests⟩
  cases task with
  | begin | received | delivered | redeliver => cases other
  | answer caller result => exact sound.perform_own rfl rfl
  | joined caller => exact sound.perform_own rfl rfl
  | resume runner =>
      have own : (Move.worker (M := Nat) runner .resume).isOwn = true := rfl
      obtain ⟨after, goes⟩ := sound.move_own own
      obtain ⟨last, same⟩ := after.carryOn runner
      refine ⟨last, ?_⟩
      change world.accumulator.Goes (World.carryOn _ runner).accumulator
      rw [same]
      exact goes rfl
  | poll runner =>
      obtain ⟨source, supplied⟩ := sound.channelled
      have gains := World.perform_poll_gains supplied runner
      have polled := (source.poll_polls world.now runner).serves
      exact still ((sound.serves supplied polled).gains gains rfl) gains.outlet
  | produce => exact still sound.produce world.produce_outlet
  | produceGranted => exact still sound.produceGranted world.produceGranted_outlet

/-- Some tasks are taken from the agenda, and those of them that are answers are in hand. -/
theorem Sound.hands_out (sound : Sound failEvery world [] [])
    {agenda : Agenda (Simulation.Task Nat)}
    (pending : world.agenda.tasks.Perm (tasks ++ agenda.tasks)) :
    Sound failEvery { world with agenda } (tasks.filter Task.isErrand) [] := by
  have errands : tasks.filter Task.isErrand ++ World.errands { world with agenda } =
      [] ++ world.errands := by
    refine sound.flight.of_perm ?_
    rw [World.errands, ← List.filter_append]
    exact (pending.symm.filter _ : List.Perm _ _)
  have stream : stream { world with agenda } (tasks.filter Task.isErrand) [] =
      stream world [] [] := by
    rw [Demo.stream, errands]
    rfl
  exact
    { base := sound.base
      channelled := sound.channelled
      kept := sound.kept
      counted := sound.counted
      flight := by rw [errands]; exact sound.flight
      inOrder := by rw [stream]; exact sound.inOrder
      kinds := sound.kinds
      tally := by rw [errands]; exact sound.tally }

/-- Whatever happens next, the world stays sound and the accumulator only goes on. -/
theorem Sound.goes (sound : Sound failEvery world [] []) (went : World.machine.Goes world next) :
    Sound failEvery next [] [] ∧ world.accumulator.Goes next.accumulator := by
  cases went with
  | @performs task agenda pending =>
      have pending : world.agenda.tasks.Perm ([task] ++ agenda.tasks) := pending
      have taken := sound.hands_out pending
      cases errand : task.isErrand with
      | true =>
          rw [List.filter_cons_of_pos errand] at taken
          exact taken.perform_answer
      | false =>
          rw [List.filter_cons_of_neg (by simp [errand])] at taken
          exact taken.perform_other errand
  | @waits agenda pending =>
      have pending : world.agenda.tasks.Perm ([] ++ agenda.tasks) := pending
      exact ⟨sound.hands_out pending, .rests⟩

end Batching.Demo

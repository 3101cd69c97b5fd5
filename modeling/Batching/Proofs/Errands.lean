import Batching.Proofs.AnyOrder
import Batching.Proofs.ChannelOrder
import Batching.Proofs.CountedSink
import Batching.Simulation.World

namespace Batching

/-! What the world around an accumulator does for its calls.

A call of the source or of the sink is an errand: it is begun when the accumulator asks for it
and on the agenda once its answer is known.  Everything else that is on the agenda, the turns
of the workers, the producer and the polls of a channel among it, comes and goes without any
errand.  `World.Gains` says of a change to the world which errands came with it.
-/

variable {M : Type}

/-! ### What a poll of a channel brings -/

def ChannelEffect.reply? : ChannelEffect M → Option (Nat × Option M)
  | .answered call message => some (call, message)
  | _ => none

/-- The receives that have an answer now. -/
def replies (effects : List (ChannelEffect M)) : List (Nat × Option M) :=
  effects.filterMap ChannelEffect.reply?

namespace ChannelSource

variable {source after : ChannelSource M} {now call deadline timeout : Nat}
  {effects : List (ChannelEffect M)}

def callers (source : ChannelSource M) : List Nat :=
  source.calls.map Prod.fst

/-- A receive goes on waiting, or it is over and what it brings was in the channel. -/
inductive Serves (source : ChannelSource M) (call : Nat) (after : ChannelSource M) :
    List (Nat × Option M) → Prop where
  | waits (callers : after.callers = source.callers)
      (buffer : after.channel.buffer = source.channel.buffer) : Serves source call after []
  | answers {answer : Option M} (called : call ∈ source.callers)
      (callers : after.callers = source.callers.filter (· != call))
      (buffer : answer.toList ++ after.channel.buffer = source.channel.buffer) :
      Serves source call after [(call, answer)]

theorem callers_retire (source : ChannelSource M) (call : Nat) :
    (source.retire call).callers = source.callers.filter (· != call) := by
  simp only [callers, retire, List.filter_map]
  rfl

theorem callers_stand (source : ChannelSource M) (call : Nat) (point : ReceivePoint) :
    (source.stand call point).callers = source.callers := by
  simp only [callers, stand, List.map_map]
  refine List.map_congr_left fun entry _ => ?_
  by_cases same : entry.1 = call <;> simp [same]

theorem mem_callers_of_point? {point : ReceivePoint} (stood : source.point? call = some point) :
    call ∈ source.callers := by
  obtain ⟨entry, found, _⟩ := Option.map_eq_some_iff.mp stood
  have same := List.find?_some found
  simp only [beq_iff_eq] at same
  exact List.mem_map.mpr ⟨entry, List.mem_of_find?_eq_some found, same⟩

theorem replies_append (first rest : List (ChannelEffect M)) :
    replies (first ++ rest) = replies first ++ replies rest :=
  List.filterMap_append

theorem replies_quiet {quiet : List (ChannelEffect M)}
    (silent : ∀ effect ∈ quiet, effect.reply? = none) (rest : List (ChannelEffect M)) :
    replies (quiet ++ rest) = replies rest := by
  rw [replies_append, replies, List.filterMap_eq_nil_iff.mpr silent, List.nil_append]

theorem Looks.serves (called : call ∈ source.callers)
    (looked : source.Looks now call deadline timeout after effects) :
    source.Serves call after (replies effects) := by
  cases looked with
  | takes taken =>
      rw [replies_quiet (by simp +contextual [or_imp, ChannelEffect.reply?, forall_and])]
      exact .answers called (callers_retire ..) (Channel.take?_cases taken).1.symm
  | closes | expires =>
      rw [replies_quiet (by simp [ChannelEffect.reply?])]
      exact .answers called (callers_retire ..) rfl
  | idles =>
      rw [replies_quiet (by simp [ChannelEffect.reply?])]
      exact .waits (callers_stand ..) rfl
  | listens => exact .waits (callers_stand ..) rfl

theorem Polls.serves (polled : source.Polls now call after effects) :
    source.Serves call after (replies effects) := by
  cases polled with
  | nothing => exact .waits rfl rfl
  | turns stood _ looked | looks stood looked =>
      exact looked.serves (mem_callers_of_point? stood)
  | wakes stood =>
      exact .answers (mem_callers_of_point? stood) (callers_retire ..) rfl

end ChannelSource

namespace Simulation

/-! ### Errands on the agenda -/

/-- The answers that calls of the source and the sink have on their way; new calls of the owner
and second deliveries count as well. -/
def Task.isErrand : Task M → Bool
  | .begin _ _ | .received _ _ | .delivered _ _ | .redeliver _ => true
  | _ => false

/-- The answers of a channel, to be taken by the runners that called. -/
def answersOf (replies : List (Nat × Option M)) : List (Task M) :=
  replies.map fun (call, message) => .received call (.returned message)

namespace World

variable {world middle next : World M} {tasks more : List (Task M)} {task : Task M}
  {agenda : Agenda (Task M)}

def errands (world : World M) : List (Task M) :=
  world.agenda.tasks.filter Task.isErrand

def resupply (world : World M) (source : ChannelSource M) : World M :=
  { world with supply := .channel source }

def putDown (world : World M) (record : DeliveryRecord M) : World M :=
  { world with journal := { world.journal with deliveries := record :: world.journal.deliveries } }

/-- So many errands more, and nothing else that the calls depend on is changed. -/
structure Gains (world : World M) (tasks : List (Task M)) (next : World M) : Prop where
  outlet : next.outlet = world.outlet
  supply : next.supply = world.supply
  base : next.base = world.base
  producer : next.producer = world.producer
  released : next.released = world.released
  deliveries : next.journal.deliveries = world.journal.deliveries
  errands : next.errands.Perm (tasks ++ world.errands)

namespace Gains

theorem refl (world : World M) : world.Gains [] world :=
  ⟨rfl, rfl, rfl, rfl, rfl, rfl, .refl _⟩

theorem trans (first : world.Gains tasks middle) (second : middle.Gains more next) :
    world.Gains (more ++ tasks) next where
  outlet := second.outlet.trans first.outlet
  supply := second.supply.trans first.supply
  base := second.base.trans first.base
  producer := second.producer.trans first.producer
  released := second.released.trans first.released
  deliveries := second.deliveries.trans first.deliveries
  errands := by
    rw [List.append_assoc]
    exact second.errands.trans (first.errands.append_left more)

theorem congr (gains : world.Gains tasks next) (same : tasks.Perm more) : world.Gains more next :=
  { gains with errands := gains.errands.trans (same.append_right _) }

/-- Of what comes on the agenda only the errands count. -/
theorem of_agenda {task : Task M} (added : agenda.tasks.Perm (task :: world.agenda.tasks))
    (counted : [task].filter Task.isErrand = tasks) : world.Gains tasks { world with agenda } where
  outlet := rfl
  supply := rfl
  base := rfl
  producer := rfl
  released := rfl
  deliveries := rfl
  errands := by
    rw [← counted, World.errands, World.errands, ← List.filter_append]
    exact added.filter _

end Gains

theorem enqueue_gains (world : World M) (counted : [task].filter Task.isErrand = tasks) :
    world.Gains tasks (world.enqueue task) :=
  .of_agenda (Agenda.tasks_enqueue ..) counted

theorem goFirst_gains (world : World M) (counted : [task].filter Task.isErrand = tasks) :
    world.Gains tasks (world.goFirst task) :=
  .of_agenda (.of_eq (Agenda.tasks_goFirst ..)) counted

theorem after_gains (world : World M) (delay : Nat)
    (counted : [task].filter Task.isErrand = tasks) : world.Gains tasks (world.after delay task) :=
  .of_agenda (Agenda.tasks_after ..) counted

theorem note_gains (world : World M) (notice : Notice) : world.Gains [] (world.note notice) :=
  ⟨rfl, rfl, rfl, rfl, rfl, rfl, .refl _⟩

theorem wakeCaller_gains (world : World M) (counted : [task].filter Task.isErrand = tasks) :
    world.Gains tasks (world.wakeCaller task) := by
  unfold wakeCaller
  split
  · exact .of_agenda (Agenda.tasks_enqueueOwned ..) counted
  · exact enqueue_gains world counted

theorem wakeListener_gains (world : World M) (source : ChannelSource M) :
    world.Gains [] (world.wakeListener source) := by
  unfold wakeListener
  split
  · exact .refl world
  · split
    · exact .refl world
    · exact enqueue_gains world rfl

theorem cancel_gains (world : World M) {meant : Task M → Bool}
    (idle : ∀ task, meant task = true → task.isErrand = false) :
    world.Gains [] { world with agenda := world.agenda.cancel meant } := by
  refine ⟨rfl, rfl, rfl, rfl, rfl, rfl, .of_eq ?_⟩
  rw [errands, Agenda.tasks_cancel, List.filter_filter]
  refine List.filter_congr fun task _ => ?_
  cases cancelled : meant task with
  | false => exact Bool.and_true _
  | true => rw [idle task cancelled]; rfl

/-! ### What the channel does -/

theorem isErrand_of_isPollOf {call : Nat} (task : Task M) (polls : task.isPollOf call = true) :
    task.isErrand = false := by
  cases task <;> first | rfl | cases polls

theorem isErrand_of_isProducer (task : Task M) (produces : task.isProducer = true) :
    task.isErrand = false := by
  cases task <;> first | rfl | cases produces

theorem applyEffect_gains (world : World M) (effect : ChannelEffect M) :
    world.Gains (answersOf (replies [effect])) (world.applyEffect effect) := by
  cases effect with
  | answered => exact goFirst_gains world rfl
  | wakeAt => exact .of_agenda (Agenda.tasks_setTimer ..) rfl
  | calmed => exact cancel_gains world isErrand_of_isPollOf
  | granted | freed => exact enqueue_gains world rfl
  | logged notice => exact note_gains world notice

theorem applyEffects_gains (world : World M) (effects : List (ChannelEffect M)) :
    world.Gains (answersOf (replies effects)) (world.applyEffects effects) := by
  induction effects generalizing world with
  | nil => exact .refl world
  | cons effect rest ih =>
      have split : answersOf (replies (effect :: rest)) =
          answersOf (replies [effect]) ++ answersOf (replies rest) := by
        rw [← List.singleton_append, ChannelSource.replies_append, answersOf, List.map_append]
        rfl
      rw [split]
      exact ((applyEffect_gains world effect).trans (ih (world.applyEffect effect))).congr
        List.perm_append_comm

theorem beginReceive_gains {source : ChannelSource M} (supplied : world.supply = .channel source)
    (runner timeout : Nat) :
    Gains (world.resupply (source.receive world.now runner timeout).1)
      (answersOf (replies (source.receive world.now runner timeout).2))
      (world.beginReceive runner timeout) := by
  simp only [beginReceive, supplied]
  exact applyEffects_gains ..

theorem perform_poll_gains [BEq M] {source : ChannelSource M}
    (supplied : world.supply = .channel source) (runner : Nat) :
    Gains (world.resupply (source.poll world.now runner).1)
      (answersOf (replies (source.poll world.now runner).2)) (world.perform (.poll runner)) := by
  simp only [perform, supplied]
  exact applyEffects_gains ..

/-! ### What an accumulator makes happen -/

/-- A delivery is put on record as it begins, and its answer is on the way. -/
theorem beginDelivery_gains [BEq M] (unruled : world.base.rules = []) (runner : Nat)
    (message : M) :
    Gains (world.putDown ⟨world.now, message, (world.base.otherwise message).kind⟩)
      [.delivered runner (world.base.otherwise message).outcome]
      (world.beginDelivery runner message) := by
  have unchanged : world.base.deliver message = (world.base.otherwise message, world.base) := by
    simp [ScriptedBase.deliver, unruled, ScriptedBase.takeRule]
  simp only [beginDelivery, unchanged]
  exact after_gains _ _ rfl

theorem beginRequest_eq {source : ChannelSource M} (supplied : world.supply = .channel source)
    (lifeless : world.base.counted = false) (request : Request) :
    world.beginRequest request = ({}, world) := by
  cases request with
  | acquireSource | startSource | stopSource => simp only [beginRequest, supplied]
  | startSink | stopSink => simp [beginRequest, lifeless, ScriptedBase.start, ScriptedBase.stop]

theorem joined_gains (world : World M) (callers : List Nat) :
    world.Gains [] (callers.foldl (fun world id => world.wakeCaller (.joined id)) world) := by
  induction callers generalizing world with
  | nil => exact .refl world
  | cons id rest ih =>
      have first : world.Gains [] (world.wakeCaller (.joined id)) := wakeCaller_gains world rfl
      exact first.trans (ih _)

/-- Around a channel and a sink without a life of its own, nothing but the calls of the two
makes an errand. -/
theorem react_gains [BEq M] {source : ChannelSource M} (supplied : world.supply = .channel source)
    (lifeless : world.base.counted = false) {event : OutletEvent M}
    (idle : event.isErrand = false) : world.Gains [] (world.react event) := by
  cases event with
  | deliveryBegan | paused => cases idle
  | noted notice => exact note_gains world notice
  | seen event =>
      cases event with
      | receiveBegan => cases idle
      | logged notice => exact note_gains world notice
      | spawned | granted => exact enqueue_gains world rfl
      | cycleEnded runner result =>
          simp only [react, reactSeen]
          split
          · exact ⟨rfl, rfl, rfl, rfl, rfl, rfl, .refl _⟩
          · exact .refl world
      | reported failure =>
          simp only [react, reactSeen]
          split
          · exact ⟨rfl, rfl, rfl, rfl, rfl, rfl, .refl _⟩
          · exact .refl world
      | finished worker => exact joined_gains world _
      | requested caller request =>
          simp only [react, reactSeen, beginRequest_eq supplied lifeless]
          exact after_gains world _ rfl
      | returned caller result =>
          simp only [react, reactSeen]
          split
          · exact ⟨rfl, rfl, rfl, rfl, rfl, rfl, .refl _⟩
          · exact .refl world
      | receiveEnded | processBegan | processEnded | answered => exact .refl world

/-- What happens around an accumulator does nothing to it. -/
theorem react_outlet [BEq M] (world : World M) (event : OutletEvent M) :
    (world.react event).outlet = world.outlet := by
  cases event with
  | noted | deliveryBegan | paused => rfl
  | seen event =>
      cases event with
      | receiveBegan runner cycle timeout =>
          cases supplied : world.supply with
          | scripted source =>
              simp only [react, reactSeen, beginReceive, supplied]
              rfl
          | channel source => exact (beginReceive_gains supplied runner timeout).outlet
      | requested caller request =>
          cases request <;> cases supplied : world.supply <;>
            simp only [react, reactSeen, beginRequest, supplied] <;> rfl
      | finished worker => exact (joined_gains world _).outlet
      | cycleEnded | reported | returned =>
          simp only [react, reactSeen]
          split <;> rfl
      | logged | spawned | granted | receiveEnded | processBegan | processEnded | answered => rfl

theorem foldl_react_outlet [BEq M] (world : World M) (events : List (OutletEvent M)) :
    (events.foldl react world).outlet = world.outlet := by
  induction events generalizing world with
  | nil => rfl
  | cons event rest ih => exact (ih _).trans (react_outlet world event)

theorem carryOn_gains (world : World M) (runner : Nat) :
    world.Gains [] (world.carryOn runner) := by
  unfold carryOn
  split
  · exact .refl world
  · exact .of_agenda (Agenda.tasks_rest ..) rfl
  · split
    · exact goFirst_gains world rfl
    · exact .refl world

theorem produced_outlet (world : World M) (producer : Producer M) (source : ChannelSource M) :
    (world.produced producer source).outlet = world.outlet :=
  ((wakeListener_gains _ source).trans (after_gains _ _ rfl)).outlet

theorem produce_outlet (world : World M) : world.produce.outlet = world.outlet := by
  unfold produce
  split
  · split
    · split
      split
      · exact produced_outlet ..
      · rfl
    · rfl
  · rfl

theorem produceGranted_outlet (world : World M) : world.produceGranted.outlet = world.outlet := by
  unfold produceGranted
  split
  · exact produced_outlet ..
  · rfl

end World

end Simulation

end Batching

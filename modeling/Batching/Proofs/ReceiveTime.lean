import Batching.Proofs.ChannelOrder

namespace Batching

/-! How long a receive takes.

A receive that is the only one in progress has a message by the time that its timeout is up, or
ends then with nothing, with one exception: if the last sender goes while it waits, it finds the
channel closed and waits its whole timeout once more.
-/

variable {M : Type}

def EndpointEvent.answers (call : Nat) : EndpointEvent M → Bool
  | .caused (.answered other _) => other == call
  | _ => false

/-- What was seen before the receive had its answer. -/
def untilAnswer (call : Nat) (log : List (Nat × EndpointEvent M)) :
    List (Nat × EndpointEvent M) :=
  log.takeWhile fun entry => !entry.2.answers call

/-- No answer of the receive has been seen. -/
def Unanswered (call : Nat) (log : List (Nat × EndpointEvent M)) : Prop :=
  ∀ entry ∈ log, entry.2.answers call = false

section

variable {call : Nat} {first rest log : List (Nat × EndpointEvent M)}

theorem Unanswered.append (early : Unanswered call first) (late : Unanswered call rest) :
    Unanswered call (first ++ rest) := by
  intro entry member
  rcases List.mem_append.mp member with inside | inside
  · exact early entry inside
  · exact late entry inside

theorem untilAnswer_of_answered {ended : Nat} {message? : Option M}
    (pending : Unanswered call first) :
    untilAnswer call (first ++ (ended, .caused (.answered call message?)) :: rest) = first := by
  have goes : ∀ entry ∈ first, (!entry.2.answers call) = true := by
    intro entry member
    rw [pending entry member]
    rfl
  rw [untilAnswer, List.takeWhile_append_of_pos goes, List.takeWhile_cons_of_neg]
  · exact List.append_nil first
  · simp [EndpointEvent.answers]

theorem eq_of_answered {ended time : Nat} {message? other? : Option M}
    (pending : Unanswered call first) (silent : Unanswered call rest)
    (answered : (time, .caused (.answered call other?)) ∈
      first ++ (ended, .caused (.answered call message?)) :: rest) :
    time = ended ∧ other? = message? := by
  rcases List.mem_append.mp answered with early | late
  · have contrary := pending _ early
    simp [EndpointEvent.answers] at contrary
  · rcases List.mem_cons.mp late with same | later
    · cases same
      exact ⟨rfl, rfl⟩
    · have contrary := silent _ later
      simp [EndpointEvent.answers] at contrary

end

/-! ### Whoever is in line is there -/

namespace ChannelSource

variable {source after : ChannelSource M} {now call deadline timeout : Nat}
  {effects : List (ChannelEffect M)}

/-- Whoever has the turn or waits for it is a receive in progress, and does not idle. -/
def Present (source : ChannelSource M) : Prop :=
  ∀ call ∈ source.lock.order,
    ∃ point, source.point? call = some point ∧ ∀ due, point ≠ .idling due

theorem Looks.present (orderly : source.Orderly) (present : source.Present)
    (distinct : source.lock.order.Nodup) (holds : source.lock.holder = some call)
    (looked : source.Looks now call deadline timeout after effects) : after.Present := by
  have line : source.lock.order = call :: source.lock.waiting := by
    rw [FairLock.order, holds]
    rfl
  have released : source.lock.release.order = source.lock.waiting := by
    rw [FairLock.order_release orderly.wellFormed, line]
    rfl
  have waits {other : Nat} (member : other ∈ source.lock.release.order) :
      other ≠ call ∧ ∃ point, source.point? other = some point ∧ ∀ due, point ≠ .idling due := by
    rw [released] at member
    rw [line] at distinct
    refine ⟨?_, present other (line ▸ List.mem_cons_of_mem _ member)⟩
    rintro rfl
    exact (List.nodup_cons.mp distinct).1 member
  cases looked with
  | takes | closes | expires =>
      intro other member
      obtain ⟨different, there⟩ := waits member
      have same := point?_retire source call other
      rw [if_neg different] at same
      exact same ▸ there
  | idles =>
      intro other member
      obtain ⟨different, there⟩ := waits member
      have same := point?_stand source call other (.idling (now + timeout))
      rw [if_neg different] at same
      exact same ▸ there
  | listens =>
      intro other member
      rw [point?_stand]
      split
      · obtain ⟨point, there, _⟩ := present call (line ▸ List.mem_cons_self)
        refine ⟨_, congrArg (Option.map fun _ => _) there, fun due same => ?_⟩
        cases same
      · exact present other member

theorem Polls.present (orderly : source.Orderly) (present : source.Present)
    (distinct : source.lock.order.Nodup) (polled : source.Polls now call after effects) :
    after.Present := by
  cases polled with
  | nothing => exact present
  | turns _ holds looked => exact looked.present orderly present distinct holds
  | looks stood looked => exact looked.present orderly present distinct (orderly.listens stood)
  | wakes stood =>
      intro other member
      obtain ⟨point, there, awake⟩ := present other member
      have different : other ≠ call := by
        rintro rfl
        exact awake _ (Option.some.inj (there.symm.trans stood))
      rw [point?_retire, if_neg different]
      exact ⟨point, there, awake⟩

theorem Looks.numbers (looked : source.Looks now call deadline timeout after effects) {other : Nat}
    (there : after.point? other ≠ none) : source.point? other ≠ none := by
  cases looked with
  | takes | closes | expires =>
      have same := point?_retire source call other
      intro gone
      rw [gone, ite_self] at same
      exact there same
  | idles =>
      have same := point?_stand source call other (.idling (now + timeout))
      intro gone
      refine there (same.trans ?_)
      split
      · rename_i same
        rw [← same, gone]
        rfl
      · exact gone
  | listens =>
      intro gone
      rw [point?_stand] at there
      split at there
      · rename_i same
        rw [← same, gone] at there
        exact there rfl
      · exact there gone

theorem Polls.numbers (polled : source.Polls now call after effects) {other : Nat}
    (there : after.point? other ≠ none) : source.point? other ≠ none := by
  cases polled with
  | nothing => exact there
  | turns _ _ looked | looks _ looked => exact looked.numbers there
  | wakes =>
      intro gone
      rw [point?_retire, gone, ite_self] at there
      exact there rfl

end ChannelSource

namespace Endpoint

variable {endpoint next start : Endpoint M} {paced reached last : Paced M}
  {now call begun timeout : Nat} {move : EndpointMove M} {seen past : List (EndpointEvent M)}
  {log timed : List (Nat × EndpointEvent M)} {moves : List (Nat × EndpointMove M)}
  {source : ChannelSource M} {effects : List (ChannelEffect M)}

theorem Fifo.distinct (fifo : endpoint.Fifo past) : endpoint.source.lock.order.Nodup := by
  obtain ⟨done, turned, _⟩ := fifo.ordered
  have numbered : (done ++ endpoint.source.lock.order).Nodup := by
    rw [FairLock.order, ← List.append_assoc, ← turned, fifo.line]
    exact List.nodup_range
  exact numbered.sublist (List.sublist_append_right ..)

/-- Everything that holds of an endpoint between two moves. -/
structure Sound (endpoint : Endpoint M) : Prop where
  orderly : endpoint.source.Orderly
  present : endpoint.source.Present
  numbered : ∀ {call : Nat}, endpoint.source.point? call ≠ none → call < endpoint.made
  fifo : ∃ past, endpoint.Fifo past

theorem Sound.free (sound : endpoint.Sound) (alone : endpoint.source.calls = []) :
    endpoint.source.lock = {} := by
  have nobody : endpoint.source.lock.order = [] := by
    refine List.eq_nil_iff_forall_not_mem.mpr fun other member => ?_
    obtain ⟨point, there, _⟩ := sound.present other member
    rw [ChannelSource.point?, alone] at there
    cases there
  obtain ⟨holder, waiting⟩ := List.append_eq_nil_iff.mp nobody
  cases lock : endpoint.source.lock with
  | mk held queue =>
      rw [lock] at holder waiting
      cases held with
      | none => exact congrArg (FairLock.mk none) waiting
      | some holder => cases holder

theorem begun_point? (endpoint : Endpoint M) (timeout : Nat) {other : Nat} {point : ReceivePoint}
    (there : endpoint.source.point? other = some point) :
    (endpoint.begun timeout).source.point? other = some point := by
  obtain ⟨entry, found, rfl⟩ := Option.map_eq_some_iff.mp there
  rw [begun, ChannelSource.point?, List.find?_append, found]
  rfl

theorem begun_point?_made (sound : endpoint.Sound) (timeout : Nat) :
    (endpoint.begun timeout).source.point? endpoint.made = some (.queued timeout) := by
  have absent : endpoint.source.calls.find? (fun entry => entry.1 == endpoint.made) = none := by
    cases found : endpoint.source.calls.find? fun entry => entry.1 == endpoint.made with
    | none => rfl
    | some entry =>
        have there : endpoint.source.point? endpoint.made ≠ none := by
          rw [ChannelSource.point?, found]
          nofun
        exact absurd (sound.numbered there) (Nat.lt_irrefl _)
  rw [begun, ChannelSource.point?, List.find?_append, absent]
  simp

theorem begun_present (sound : endpoint.Sound) (timeout : Nat) :
    (endpoint.begun timeout).source.Present := by
  intro other member
  have line : (endpoint.begun timeout).source.lock.order =
      endpoint.source.lock.order ++ [endpoint.made] :=
    FairLock.order_request sound.orderly.wellFormed _
  rw [line] at member
  rcases List.mem_append.mp member with early | last
  · obtain ⟨point, there, awake⟩ := sound.present other early
    exact ⟨point, endpoint.begun_point? timeout there, awake⟩
  · cases List.mem_singleton.mp last
    exact ⟨_, begun_point?_made sound timeout, nofun⟩

theorem begun_numbered (sound : endpoint.Sound) (timeout : Nat)
    (there : (endpoint.begun timeout).source.point? call ≠ none) : call < endpoint.made + 1 := by
  obtain ⟨point, stood⟩ := Option.ne_none_iff_exists'.mp there
  rcases ChannelSource.point?_of_begun stood with old | ⟨same, _⟩
  · exact Nat.lt_succ_of_lt (sound.numbered (Option.ne_none_iff_exists'.mpr ⟨point, old⟩))
  · exact same ▸ Nat.lt_succ_self _

theorem Sound.begins (sound : endpoint.Sound) (timeout : Nat) :
    (endpoint.begun timeout).Sound where
  orderly := begun_orderly sound.orderly timeout
  present := begun_present sound timeout
  numbered := begun_numbered sound timeout
  fifo := by
    obtain ⟨past, fifo⟩ := sound.fifo
    exact ⟨_, fifo.begins sound.orderly timeout⟩

theorem Sound.polls (sound : endpoint.Sound)
    (polled : endpoint.source.Polls now call source effects) :
    ({ endpoint with source } : Endpoint M).Sound := by
  obtain ⟨past, fifo⟩ := sound.fifo
  exact ⟨polled.orderly sound.orderly, polled.present sound.orderly sound.present fifo.distinct,
    fun there => sound.numbered (polled.numbers there),
    _, fifo.passes (polled.passes sound.orderly)⟩

theorem Sound.step (sound : endpoint.Sound)
    (stepped : endpoint.step now move = some (next, seen)) : next.Sound := by
  have steps := step_steps sound.orderly stepped
  obtain ⟨past, fifo⟩ := sound.fifo
  have orderly := steps.orderly sound.orderly
  have written := steps.fifo sound.orderly fifo
  cases steps with
  | begins polled => exact (sound.begins _).polls polled
  | polls polled => exact sound.polls polled
  | writes => exact ⟨orderly, sound.present, sound.numbered, _, written⟩

theorem sound_make {capacity senders : Nat} (made : make capacity senders = .ok start) :
    start.Sound := by
  obtain ⟨orderly, fifo⟩ := orderly_make (M := M) made
  unfold make Channel.make at made
  split at made
  · cases made
  · cases made
    exact ⟨orderly, nofun, fun there => absurd rfl there, [], fifo⟩

/-! ### The clock -/

/-- The clock lets a move be made at `now`. -/
def Paced.Reaches (paced : Paced M) (now : Nat) : Prop :=
  paced.clock = now ∨ paced.clock < now ∧ paced.endpoint.source.restsUntil now = true

theorem pacedStep_cases {after : Paced M}
    (stepped : pacedStep now paced move = some (after, timed)) :
    paced.Reaches now ∧
    ∃ next seen, paced.endpoint.step now move = some (next, seen) ∧
      after = ⟨now, next⟩ ∧ timed = seen.map fun event => (now, event) := by
  unfold pacedStep at stepped
  split at stepped
  · rename_i clock
    split at stepped
    · cases stepped
    · rename_i next seen moved
      cases stepped
      exact ⟨clock, next, seen, moved, rfl, rfl⟩
  · cases stepped

theorem pace?_sound (sound : paced.endpoint.Sound)
    (went : pace? paced moves = some (last, timed)) : last.endpoint.Sound :=
  (follow?_induction (fun paced : Paced M => paced.endpoint.Sound) (fun _ _ _ => True)
    (fun {_ _ _ _ _} sound stepped => by
      obtain ⟨_, next, seen, moved, rfl, _⟩ := pacedStep_cases stepped
      exact sound.step moved)
    (fun _ => trivial) (fun _ _ _ _ => trivial) sound went).1

/-- What has been seen of the end of the last sender since the receive began at `begun`: it
went at this very time, or before the receive began, or not at all. -/
structure Closings (begun clock : Nat) (channel : Channel M)
    (log : List (Nat × EndpointEvent M)) : Prop where
  recent : ∀ time left, (time, .closed left) ∈ log →
    channel.isClosed = true ∧ time = clock ∧ left = channel.buffer.length
  seen : channel.isClosed = true →
    clock = begun ∨ (clock, .closed channel.buffer.length) ∈ log

/-- How a receive that began at `begun`, and is the only one, has gone on. -/
inductive Course (call begun timeout : Nat) (paced : Paced M) :
    List (Nat × EndpointEvent M) → Prop where
  | listens {log : List (Nat × EndpointEvent M)}
      (alone : paced.endpoint.source.calls = [(call, .listening (begun + timeout) timeout)])
      (later : begun ≤ paced.clock) (timely : paced.clock ≤ begun + timeout)
      (pending : Unanswered call log)
      (closings : Closings begun paced.clock paced.endpoint.channel log) :
      Course call begun timeout paced log
  | idles {log : List (Nat × EndpointEvent M)} {due : Nat}
      (alone : paced.endpoint.source.calls = [(call, .idling due)])
      (timely : paced.clock ≤ due) (pending : Unanswered call log)
      (shut : paced.endpoint.channel.isClosed = true)
      (cause : due = begun + timeout ∧ (∀ time, (time, .closed 0) ∈ log → time ≤ begun) ∨
        ∃ time, begun < time ∧ (time, .closed 0) ∈ log ∧ due = time + timeout) :
      Course call begun timeout paced log
  | concluded {before rest : List (Nat × EndpointEvent M)} {ended : Nat} {message? : Option M}
      (alone : paced.endpoint.source.calls = []) (pending : Unanswered call before)
      (silent : Unanswered call rest) (late : message? = none → begun + timeout ≤ ended)
      (timely : ended ≤ begun + timeout ↔
        ∀ time, (time, .closed 0) ∈ before → time ≤ begun) :
      Course call begun timeout paced
        (before ++ (ended, .caused (.answered call message?)) :: rest)

theorem unanswered_caused (call now : Nat)
    (plain : ∀ other message?, .answered other message? ∉ effects) :
    Unanswered call (effects.map fun effect => (now, .caused effect)) := by
  intro entry member
  obtain ⟨effect, inside, rfl⟩ := List.mem_map.mp member
  cases effect with
  | answered other message? => exact absurd inside (plain other message?)
  | _ => rfl

theorem closed_of_caused {time left : Nat}
    (closed : (time, .closed left) ∈
      log ++ effects.map fun effect => (now, .caused effect)) :
    (time, .closed left) ∈ log := by
  rcases List.mem_append.mp closed with early | late
  · exact early
  · obtain ⟨effect, _, same⟩ := List.mem_map.mp late
    cases same

/-- The answer is the last that is seen of a receive. -/
theorem course_of_answer {after : ChannelSource M} {front : List (ChannelEffect M)} {made : Nat}
    {message? : Option M} (alone : after.calls = [])
    (plain : ∀ other other?, ChannelEffect.answered other other? ∉ front)
    (pending : Unanswered call log)
    (late : message? = none → begun + timeout ≤ now)
    (timely : now ≤ begun + timeout ↔ ∀ time, (time, .closed 0) ∈ log → time ≤ begun) :
    Course call begun timeout ⟨now, ⟨after, made⟩⟩
      (log ++ (front ++ [ChannelEffect.answered call message?]).map
        fun effect => (now, .caused effect)) := by
  have early : (∀ time, (time, .closed 0) ∈ log → time ≤ begun) ↔
      ∀ time, (time, .closed 0) ∈ log ++ front.map (fun effect => (now, .caused effect)) →
        time ≤ begun :=
    ⟨fun before time closed => before time (closed_of_caused closed),
      fun before time closed => before time (List.mem_append_left _ closed)⟩
  rw [List.map_append, ← List.append_assoc, List.map_singleton]
  have silent : Unanswered call ([] : List (Nat × EndpointEvent M)) := by simp [Unanswered]
  exact .concluded alone (pending.append (unanswered_caused call now plain)) silent late
    (timely.trans early)

theorem Closings.caused {channel : Channel M} (closings : Closings begun now channel log) :
    Closings begun now channel (log ++ effects.map fun effect => (now, .caused effect)) where
  recent time left closed := closings.recent time left (closed_of_caused closed)
  seen shut := (closings.seen shut).imp id (List.mem_append_left _)

/-- A receive that is the only one looks at the channel. -/
theorem course_of_looks {after : ChannelSource M} {point : ReceivePoint} {made : Nat}
    (alone : source.calls = [(call, point)])
    (looked : source.Looks now call (begun + timeout) timeout after effects)
    (later : begun ≤ now) (timely : now ≤ begun + timeout) (pending : Unanswered call log)
    (closings : Closings begun now source.channel log) :
    Course call begun timeout ⟨now, ⟨after, made⟩⟩
      (log ++ effects.map fun effect => (now, .caused effect)) := by
  have retired : (source.retire call).calls = [] := by simp [ChannelSource.retire, alone]
  have stood (next : ReceivePoint) : (source.stand call next).calls = [(call, next)] := by
    simp [ChannelSource.stand, alone]
  cases looked with
  | @takes message channel freed taken =>
      obtain ⟨held, _⟩ := Channel.take?_cases taken
      apply course_of_answer
      · exact retired
      · intro other other?
        cases freed <;> cases source.lock.release.holder <;> simp
      · exact pending
      · nofun
      · refine iff_of_true timely fun time closed => ?_
        -- the channel cannot have been closed empty, since it held a message
        have left := (closings.recent time 0 closed).2.2
        rw [held] at left
        cases left
  | closes empty closed instant =>
      -- with no timeout at all the receive is over when it begins
      obtain rfl : begun = now := by omega
      have split : (ChannelEffect.calmed call ::
            source.lock.release.holder.toList.map ChannelEffect.granted ++
          [.logged .channelClosed, .answered call none] : List (ChannelEffect M)) =
          (.calmed call :: source.lock.release.holder.toList.map .granted ++
            [.logged .channelClosed]) ++ [.answered call none] := by simp
      rw [split]
      apply course_of_answer
      · exact retired
      · intro other other?
        cases source.lock.release.holder <;> simp
      · exact pending
      · intro _
        omega
      · refine iff_of_true timely fun time closed => ?_
        exact Nat.le_of_eq (closings.recent time 0 closed).2.1
  | idles empty closed lasting =>
      have plain : ∀ other other?, .answered other other? ∉
          (ChannelEffect.calmed call ::
            source.lock.release.holder.toList.map ChannelEffect.granted ++
          [.logged .channelClosed, .wakeAt (now + timeout) call] : List (ChannelEffect M)) := by
        intro other other?
        cases source.lock.release.holder <;> simp
      refine .idles (stood _) (Nat.le_add_right now timeout)
        (pending.append (unanswered_caused call now plain)) closed ?_
      -- an end of the senders seen later than the beginning is what the second wait starts from
      rcases Nat.eq_or_lt_of_le later with rfl | after
      · refine .inl ⟨rfl, fun time closed => ?_⟩
        exact Nat.le_of_eq (closings.recent time 0 (closed_of_caused closed)).2.1
      · have seen := (closings.seen closed).resolve_left (Nat.ne_of_gt after)
        rw [empty] at seen
        exact .inr ⟨now, after, List.mem_append_left _ seen, rfl⟩
  | expires empty opened late =>
      apply course_of_answer
      · exact retired
      · intro other other?
        cases source.lock.release.holder <;> simp
      · exact pending
      · exact fun _ => late
      · refine iff_of_true timely fun time closed => ?_
        cases opened.symm.trans (closings.recent time 0 closed).1
  | listens empty opened early =>
      refine .listens (stood _) later timely
        (pending.append (unanswered_caused call now (by simp))) closings.caused

/-- Time passes, if it does, only while the receive waits. -/
theorem Closings.passes {channel : Channel M} {clock : Nat}
    (closings : Closings begun clock channel log)
    (waited : clock = now ∨ clock < now ∧ channel.isClosed = false) :
    Closings begun now channel log := by
  rcases waited with rfl | ⟨_, opened⟩
  · exact closings
  · refine ⟨fun time left closed => ?_, fun shut => ?_⟩
    · cases opened.symm.trans (closings.recent time left closed).1
    · cases opened.symm.trans shut

theorem unanswered_of_writes (unanswering : Unanswering seen) :
    Unanswered call (seen.map fun event => (now, event)) := by
  intro entry member
  obtain ⟨event, inside, rfl⟩ := List.mem_map.mp member
  cases event with
  | caused effect =>
      cases effect with
      | answered other message? => exact absurd inside (unanswering.silent other message?)
      | _ => rfl
  | _ => rfl

theorem mem_timed {event : EndpointEvent M} {time : Nat}
    (member : (time, event) ∈ seen.map fun event => (now, event)) : time = now ∧ event ∈ seen := by
  obtain ⟨other, inside, same⟩ := List.mem_map.mp member
  cases same
  exact ⟨rfl, inside⟩

theorem point?_of_alone {other : Nat} {point place : ReceivePoint}
    (alone : source.calls = [(call, point)]) (stood : source.point? other = some place) :
    other = call ∧ place = point := by
  rw [ChannelSource.point?, alone, List.find?_singleton] at stood
  split at stood
  · rename_i same
    cases stood
    exact ⟨(beq_iff_eq.mp same).symm, rfl⟩
  · cases stood

theorem rests_of_alone {point : ReceivePoint} (alone : source.calls = [(call, point)])
    (rested : source.restsUntil now = true) : source.rests now call point = true := by
  rw [ChannelSource.restsUntil, alone, List.all_cons, List.all_nil, Bool.and_true] at rested
  exact rested

/-- What enters or leaves a channel says whether it has been closed. -/
theorem Closings.writes {channel after : Channel M} (closings : Closings begun now channel log)
    (stays : channel.isClosed = true → after.isClosed = true ∧ entries seen = [])
    (buffer : after.buffer = channel.buffer ++ entries seen)
    (closes : ∀ left, .closed left ∈ seen ↔ channel.isClosed = false ∧
      after.isClosed = true ∧ left = after.buffer.length) :
    Closings begun now after (log ++ seen.map fun event => (now, event)) where
  recent time left closed := by
    rcases List.mem_append.mp closed with early | late
    · obtain ⟨shut, same, held⟩ := closings.recent time left early
      obtain ⟨still, nothing⟩ := stays shut
      rw [nothing, List.append_nil] at buffer
      exact ⟨still, same, buffer ▸ held⟩
    · obtain ⟨rfl, inside⟩ := mem_timed late
      obtain ⟨_, shut, held⟩ := (closes left).mp inside
      exact ⟨shut, rfl, held⟩
  seen shut := by
    cases opened : channel.isClosed with
    | true =>
        obtain ⟨_, nothing⟩ := stays opened
        rw [nothing, List.append_nil] at buffer
        rw [buffer]
        exact (closings.seen opened).imp id (List.mem_append_left _)
    | false =>
        have inside := (closes after.buffer.length).mpr ⟨opened, shut, rfl⟩
        exact .inr (List.mem_append_right _ (List.mem_map_of_mem inside))

/-- The receive waits for a message, and is polled. -/
theorem course_of_listens {after : ChannelSource M} {other made : Nat}
    (alone : source.calls = [(call, .listening (begun + timeout) timeout)])
    (polled : source.Polls now other after effects)
    (later : begun ≤ now) (timely : now ≤ begun + timeout) (pending : Unanswered call log)
    (closings : Closings begun now source.channel log) :
    Course call begun timeout ⟨now, ⟨after, made⟩⟩
      (log ++ effects.map fun effect => (now, .caused effect)) := by
  cases polled with
  | nothing =>
      rw [List.map_nil, List.append_nil]
      exact .listens alone later timely pending closings
  | turns stood => cases (point?_of_alone alone stood).2
  | looks stood looked =>
      obtain ⟨rfl, same⟩ := point?_of_alone alone stood
      cases same
      exact course_of_looks alone looked later timely pending closings
  | wakes stood => cases (point?_of_alone alone stood).2

/-- The receive idles, and is polled. -/
theorem course_of_idles {after : ChannelSource M} {other made due : Nat}
    (alone : source.calls = [(call, .idling due)])
    (polled : source.Polls now other after effects)
    (timely : now ≤ due) (pending : Unanswered call log)
    (shut : source.channel.isClosed = true)
    (cause : due = begun + timeout ∧ (∀ time, (time, .closed 0) ∈ log → time ≤ begun) ∨
      ∃ time, begun < time ∧ (time, .closed 0) ∈ log ∧ due = time + timeout) :
    Course call begun timeout ⟨now, ⟨after, made⟩⟩
      (log ++ effects.map fun effect => (now, .caused effect)) := by
  cases polled with
  | nothing =>
      rw [List.map_nil, List.append_nil]
      exact .idles alone timely pending shut cause
  | turns stood => cases (point?_of_alone alone stood).2
  | looks stood => cases (point?_of_alone alone stood).2
  | wakes stood late =>
      obtain ⟨rfl, same⟩ := point?_of_alone alone stood
      cases same
      obtain rfl : now = due := Nat.le_antisymm timely late
      have split : ([.calmed other, .answered other none] : List (ChannelEffect M)) =
        [.calmed other] ++ [.answered other none] := rfl
      rw [split]
      apply course_of_answer
      · simp [ChannelSource.retire, alone]
      · simp
      · exact pending
      · intro _
        rcases cause with ⟨same, _⟩ | ⟨time, after, _, same⟩ <;> omega
      · rcases cause with ⟨same, early⟩ | ⟨time, after, closed, same⟩
        · exact iff_of_true (Nat.le_of_eq same) early
        · refine iff_of_false (by omega) fun early => ?_
          exact absurd (early time closed) (Nat.not_le_of_lt after)

/-- After the answer nothing is left to go on. -/
theorem polls_of_gone {after : ChannelSource M} (gone : source.calls = [])
    (polled : source.Polls now call after effects) : after = source ∧ effects = [] := by
  have absent {point : ReceivePoint} : source.point? call ≠ some point := by
    rw [ChannelSource.point?, gone]
    nofun
  cases polled with
  | nothing => exact ⟨rfl, rfl⟩
  | turns stood | looks stood | wakes stood => exact absurd stood absent

/-- The receive waits for a message: time passes no further than to the end of its wait, and not
once the channel is closed. -/
theorem clock_of_listening {clock : Nat}
    (alone : source.calls = [(call, .listening (begun + timeout) timeout)])
    (later : begun ≤ clock) (timely : clock ≤ begun + timeout)
    (went : clock = now ∨ clock < now ∧ source.restsUntil now = true) :
    begun ≤ now ∧ now ≤ begun + timeout ∧
      (clock = now ∨ clock < now ∧ source.channel.isClosed = false) := by
  rcases went with same | ⟨passed, rested⟩
  · exact ⟨same ▸ later, same ▸ timely, .inl same⟩
  · have rests := rests_of_alone alone rested
    simp only [ChannelSource.rests, Bool.and_eq_true, Bool.not_eq_true',
      decide_eq_true_eq] at rests
    exact ⟨by omega, rests.2, .inr ⟨passed, rests.1.2⟩⟩

theorem clock_of_idling {clock due : Nat} (alone : source.calls = [(call, .idling due)])
    (timely : clock ≤ due) (went : clock = now ∨ clock < now ∧ source.restsUntil now = true) :
    now ≤ due := by
  rcases went with same | ⟨_, rested⟩
  · exact same ▸ timely
  · exact of_decide_eq_true (rests_of_alone alone rested)

/-- A channel is closed once only. -/
theorem closed_of_writes {channel after : Channel M} {time left : Nat}
    (shut : channel.isClosed = true)
    (closes : ∀ left, .closed left ∈ seen ↔ channel.isClosed = false ∧
      after.isClosed = true ∧ left = after.buffer.length)
    (closed : (time, .closed left) ∈ log ++ seen.map fun event => (now, event)) :
    (time, .closed left) ∈ log := by
  rcases List.mem_append.mp closed with early | late
  · exact early
  · cases shut.symm.trans ((closes left).mp (mem_timed late).2).1

theorem Course.step (sound : paced.endpoint.Sound) (course : Course call begun timeout paced log)
    (other : move.isReceive = false) (stepped : pacedStep now paced move = some (last, timed)) :
    Course call begun timeout last (log ++ timed) := by
  obtain ⟨clock, next, seen, moved, rfl, rfl⟩ := pacedStep_cases stepped
  have steps := step_steps sound.orderly moved
  cases course with
  | listens alone later timely pending closings =>
      obtain ⟨later, timely, waited⟩ := clock_of_listening alone later timely clock
      have closings := closings.passes waited
      cases steps with
      | begins => cases other
      | polls polled =>
          rw [List.map_map]
          exact course_of_listens alone polled later timely pending closings
      | writes stays _ buffer unanswering closes =>
          exact .listens alone later timely (pending.append (unanswered_of_writes unanswering))
            (closings.writes stays buffer closes)
  | @idles _ due alone timely pending shut cause =>
      have timely := clock_of_idling alone timely clock
      cases steps with
      | begins => cases other
      | polls polled =>
          rw [List.map_map]
          exact course_of_idles alone polled timely pending shut cause
      | writes stays _ buffer unanswering closes =>
          refine .idles alone timely (pending.append (unanswered_of_writes unanswering))
            (stays shut).1 (cause.imp ?_ ?_)
          · rintro ⟨same, early⟩
            exact ⟨same, fun time closed => early time (closed_of_writes shut closes closed)⟩
          · rintro ⟨time, after, closed, same⟩
            exact ⟨time, after, List.mem_append_left _ closed, same⟩
  | @concluded before rest ended message? alone pending silent late timely =>
      rw [List.append_assoc, List.cons_append]
      cases steps with
      | begins => cases other
      | polls polled =>
          obtain ⟨rfl, rfl⟩ := polls_of_gone alone polled
          rw [List.map_nil, List.map_nil, List.append_nil]
          exact .concluded alone pending silent late timely
      | writes _ _ _ unanswering =>
          exact .concluded alone pending (silent.append (unanswered_of_writes unanswering))
            late timely

/-! ### The whole receive -/

/-- A receive that is the only one looks at the channel as soon as it is begun. -/
theorem looks_of_receive (sound : endpoint.Sound) (alone : endpoint.source.calls = [])
    (stepped : endpoint.step now (.receive timeout) = some (next, seen)) :
    ∃ after effects, next = { endpoint.begun timeout with source := after } ∧
      seen = endpoint.begunEvents timeout ++ effects.map .caused ∧
      (endpoint.begun timeout).source.Looks now endpoint.made (now + timeout) timeout
        after effects := by
  have stood := begun_point?_made sound timeout
  have holds : (endpoint.begun timeout).source.lock.holder = some endpoint.made := by
    simp [begun, sound.free alone, FairLock.request]
  have looks : (endpoint.begun timeout).source.poll now endpoint.made =
      (endpoint.begun timeout).source.look now endpoint.made (now + timeout) timeout := by
    simp only [ChannelSource.poll, stood, holds, if_true]
  refine ⟨_, _, ?_, ?_, ChannelSource.look_looks ..⟩
  · rw [← looks]
    cases stepped
    rfl
  · rw [← looks]
    cases stepped
    rfl

theorem course_of_receive (sound : paced.endpoint.Sound)
    (alone : paced.endpoint.source.calls = [])
    (stepped : pacedStep begun paced (.receive timeout) = some (last, timed)) :
    Course paced.endpoint.made begun timeout last timed := by
  obtain ⟨_, next, seen, moved, rfl, rfl⟩ := pacedStep_cases stepped
  obtain ⟨after, effects, rfl, rfl, looked⟩ := looks_of_receive sound alone moved
  have single : (paced.endpoint.begun timeout).source.calls =
      [(paced.endpoint.made, .queued timeout)] := by
    simp [Endpoint.begun, alone]
  rw [List.map_append, List.map_map]
  refine course_of_looks single looked (Nat.le_refl _) (Nat.le_add_right ..) ?_ ⟨?_, ?_⟩
  · intro entry member
    obtain ⟨event, inside, rfl⟩ := List.mem_map.mp member
    rcases mem_begunEvents inside with rfl | rfl <;> rfl
  · intro time left closed
    rcases mem_begunEvents (mem_timed closed).2 with same | same <;> cases same
  · exact fun _ => .inl rfl

theorem course_of_pace? (sound : paced.endpoint.Sound)
    (course : Course call begun timeout paced log)
    (only : ∀ move ∈ moves, move.2.isReceive = false)
    (went : pace? paced moves = some (last, timed)) :
    Course call begun timeout last (log ++ timed) := by
  refine (follow?_carries log (fun log (paced : Paced M) =>
    paced.endpoint.Sound ∧ Course call begun timeout paced log)
    (fun made ⟨sound, course⟩ stepped => ?_) ⟨sound, course⟩ went).2
  obtain ⟨_, after, _, moved, rfl, _⟩ := pacedStep_cases stepped
  exact ⟨sound.step moved, course.step sound (only _ made) stepped⟩

/-- Looking after the receive, and nothing else, brings it to its answer. -/
def Ends (call : Nat) (paced : Paced M) : Prop :=
  ∃ polls after more ended message?, (∀ move ∈ polls, move.2 = .poll call) ∧
    pace? paced polls = some (after, more) ∧ (ended, .caused (.answered call message?)) ∈ more

theorem pacedStep_poll (waited : paced.Reaches now) (call : Nat) :
    pacedStep now paced (.poll call) =
      some (⟨now, { paced.endpoint with source := (paced.endpoint.source.poll now call).1 }⟩,
        (paced.endpoint.source.poll now call).2.map fun effect => (now, .caused effect)) := by
  unfold Paced.Reaches at waited
  rw [pacedStep, if_pos waited]
  simp only [step, List.map_map]
  rfl

theorem ends_of_answer {message? : Option M} (waited : paced.Reaches now)
    (answered : .answered call message? ∈ (paced.endpoint.source.poll now call).2) :
    Ends call paced := by
  refine ⟨[(now, .poll call)], _, _, now, message?, by simp,
    follow?_cons_iff.mpr ⟨_, _, _, pacedStep_poll waited call, rfl, rfl⟩, ?_⟩
  rw [List.append_nil]
  exact List.mem_map_of_mem (f := fun effect => (now, EndpointEvent.caused effect)) answered

theorem Ends.poll (waited : paced.Reaches now)
    (ends : Ends call ⟨now,
      { paced.endpoint with source := (paced.endpoint.source.poll now call).1 }⟩) :
    Ends call paced := by
  obtain ⟨polls, after, more, ended, message?, only, went, answered⟩ := ends
  refine ⟨(now, .poll call) :: polls, after, _, ended, message?, ?_,
    follow?_cons_iff.mpr ⟨_, _, _, pacedStep_poll waited call, went, rfl⟩,
    List.mem_append_right _ answered⟩
  intro move member
  rcases List.mem_cons.mp member with rfl | others
  · rfl
  · exact only move others

theorem point?_alone {point : ReceivePoint} (alone : source.calls = [(call, point)]) :
    source.point? call = some point := by
  simp [ChannelSource.point?, alone]

theorem ends_of_idles {due : Nat} (alone : paced.endpoint.source.calls = [(call, .idling due)])
    (timely : paced.clock ≤ due) : Ends call paced := by
  have answered : .answered call none ∈ (paced.endpoint.source.poll due call).2 := by
    simp [ChannelSource.poll, point?_alone alone]
  refine ends_of_answer ?_ answered
  rcases Nat.eq_or_lt_of_le timely with same | early
  · exact .inl same
  · refine .inr ⟨early, ?_⟩
    simp [ChannelSource.restsUntil, alone, ChannelSource.rests]

/-- What a waiting receive finds when its deadline has come, or when there is something to find:
its answer, or the channel closed and its timeout to wait out. -/
theorem ends_of_listens {deadline : Nat}
    (alone : paced.endpoint.source.calls = [(call, .listening deadline timeout)])
    (waited : paced.Reaches now)
    (ready : paced.endpoint.channel.buffer = [] → paced.endpoint.channel.isClosed = false →
      deadline ≤ now) : Ends call paced := by
  have polled : paced.endpoint.source.poll now call =
      paced.endpoint.source.look now call deadline timeout := by
    simp only [ChannelSource.poll, point?_alone alone]
  have looked := ChannelSource.look_looks paced.endpoint.source now call deadline timeout
  rw [← polled] at looked
  generalize result : paced.endpoint.source.poll now call = outcome at looked
  obtain ⟨after, effects⟩ := outcome
  cases looked with
  | @takes message =>
      have answered : .answered call (some message) ∈
          (paced.endpoint.source.poll now call).2 := by simp [result]
      exact ends_of_answer waited answered
  | closes | expires =>
      have answered : .answered call none ∈ (paced.endpoint.source.poll now call).2 := by
        simp [result]
      exact ends_of_answer waited answered
  | idles =>
      have idling : (paced.endpoint.source.poll now call).1.calls =
          [(call, .idling (now + timeout))] := by
        simp [result, ChannelSource.stand, alone]
      exact Ends.poll waited (ends_of_idles idling (Nat.le_add_right ..))
  | listens empty opened early => exact absurd (ready empty opened) (Nat.not_le_of_lt early)

theorem Course.ends (course : Course call begun timeout paced log)
    (pending : Unanswered call log) : Ends call paced := by
  cases course with
  | listens alone later timely =>
      by_cases quiet : paced.endpoint.channel.buffer = [] ∧ paced.endpoint.channel.isClosed = false
      · obtain ⟨empty, opened⟩ := quiet
        have calm : paced.endpoint.source.channel.buffer.isEmpty = true ∧
          paced.endpoint.source.channel.isClosed = false := ⟨List.isEmpty_iff.mpr empty, opened⟩
        have waited : paced.Reaches (begun + timeout) := by
          refine (Nat.eq_or_lt_of_le timely).imp id fun early => ⟨early, ?_⟩
          simp [ChannelSource.restsUntil, alone, ChannelSource.rests, calm]
        exact ends_of_listens alone waited fun _ _ => Nat.le_refl _
      · exact ends_of_listens alone (.inl rfl) fun empty opened => absurd ⟨empty, opened⟩ quiet
  | idles alone timely => exact ends_of_idles alone timely
  | concluded =>
      have contrary := pending _ (List.mem_append_right _ List.mem_cons_self)
      simp [EndpointEvent.answers] at contrary

/-- A receive that is the only one in progress ends with nothing only when its timeout is up.
It ends by then, unless what it waited for was the end of the last sender: it finds the channel
closed then, and waits its whole timeout again. -/
theorem receive_on_time {capacity senders : Nat} {before later : List (Nat × EndpointMove M)}
    {earlier : List (Nat × EndpointEvent M)} (made : make capacity senders = .ok start)
    (ran : pace? ⟨0, start⟩ before = some (reached, earlier))
    (alone : reached.endpoint.source.calls = [])
    (only : ∀ move ∈ later, move.2.isReceive = false)
    (went : pace? reached ((begun, .receive timeout) :: later) = some (last, log)) :
    (∀ ended message?, (ended, .caused (.answered reached.endpoint.made message?)) ∈ log →
      (message? = none → begun + timeout ≤ ended) ∧
      (ended ≤ begun + timeout ↔ ∀ time,
        (time, .closed 0) ∈ untilAnswer reached.endpoint.made log → time ≤ begun)) ∧
    (Unanswered reached.endpoint.made log →
      (last.clock ≤ begun + timeout ∨
        ∃ time, begun < time ∧ (time, .closed 0) ∈ log ∧ last.clock ≤ time + timeout) ∧
      Ends reached.endpoint.made last) := by
  have sound := pace?_sound (sound_make made) ran
  obtain ⟨next, first, more, stepped, tail, rfl⟩ := follow?_cons_iff.mp went
  obtain ⟨_, after, _, moved, rfl, _⟩ := pacedStep_cases stepped
  have course := course_of_pace? (sound.step moved) (course_of_receive sound alone stepped)
    only tail
  constructor
  · intro ended message? answered
    generalize whole : first ++ more = log at course answered
    cases course with
    | listens _ _ _ pending | idles _ _ pending =>
        have contrary := pending _ answered
        simp [EndpointEvent.answers] at contrary
    | concluded _ pending silent late timely =>
        obtain ⟨rfl, rfl⟩ := eq_of_answered pending silent answered
        rw [untilAnswer_of_answered pending]
        exact ⟨late, timely⟩
  · intro pending
    refine ⟨?_, course.ends pending⟩
    generalize whole : first ++ more = log at course pending
    cases course with
    | listens _ _ timely => exact .inl timely
    | idles _ timely _ _ cause =>
        rcases cause with ⟨same, _⟩ | ⟨time, after, closed, same⟩
        · exact .inl (same ▸ timely)
        · exact .inr ⟨time, after, closed, same ▸ timely⟩
    | concluded =>
        have contrary := pending _ (List.mem_append_right _ List.mem_cons_self)
        simp [EndpointEvent.answers] at contrary

/-- The last sender sends and goes, 10 ms into a receive. -/
def lastMessage : List (Nat × EndpointMove Nat) :=
  [(10, .trySend 7), (10, .leave), (10, .poll 0)]

theorem receive_on_time_of_message :
    ∃ (start : Endpoint Nat) (last : Paced Nat) (log : List (Nat × EndpointEvent Nat)),
      make 1 1 = .ok start ∧ pace? ⟨0, start⟩ ((0, .receive 50) :: lastMessage) = some (last, log) ∧
      (10, .caused (.answered 0 (some 7))) ∈ log ∧
      ∀ time, (time, .closed 0) ∈ untilAnswer 0 log → time ≤ 0 := by
  obtain ⟨start, last, log, made, went, answered⟩ :
      ∃ (start : Endpoint Nat) (last : Paced Nat) (log : List (Nat × EndpointEvent Nat)),
        make 1 1 = .ok start ∧
        pace? ⟨0, start⟩ ((0, .receive 50) :: lastMessage) = some (last, log) ∧
        (10, .caused (.answered 0 (some 7))) ∈ log :=
    ⟨_, _, _, rfl, rfl, by simp⟩
  have alone : start.source.calls = [] := by
    cases made
    rfl
  have first : start.made = 0 := by
    cases made
    rfl
  have fresh : pace? ⟨0, start⟩ ([] : List (Nat × EndpointMove Nat)) = some (⟨0, start⟩, []) := rfl
  have only : ∀ move ∈ lastMessage, move.2.isReceive = false := by decide
  obtain ⟨ended, _⟩ := receive_on_time made fresh alone only went
  rw [first] at ended
  exact ⟨start, last, log, made, went, answered, (ended 10 _ answered).2.mp (by decide)⟩

/-- The only sender goes 10 ms into a receive, without having sent anything. -/
def closedMidway : List (Nat × EndpointMove Nat) :=
  [(10, .leave), (10, .poll 0), (60, .poll 0)]

/-- A receive of 50 ms takes 60. -/
theorem receive_late_of_closed :
    ∃ (start : Endpoint Nat) (last : Paced Nat) (log : List (Nat × EndpointEvent Nat)),
      make 1 1 = .ok start ∧
      pace? ⟨0, start⟩ ((0, .receive 50) :: closedMidway) = some (last, log) ∧
      (60, .caused (.answered 0 none)) ∈ log ∧ ¬ 60 ≤ 0 + 50 :=
  ⟨_, _, _, rfl, rfl, by simp, by decide⟩

end Endpoint

end Batching

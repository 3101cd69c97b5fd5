import Batching.Proofs.Deadline
import Batching.Proofs.RunStates

namespace Batching

/-! The policy in force.

The policy of an accumulator is that of the last `setPolicy` that was accepted, which happens
only while it is stopped.  A start hands the policy to the worker that it hires, and the worker
keeps it for good: a later policy is for later workers, whoever is still at work by then.
-/

variable {M : Type}

def Call.policy? : Call → Option Policy
  | .setPolicy policy => some policy
  | .start | .stop | .join | .shutdown => none

/-- The policy that this return of a call has put in force. -/
def Event.adoption? (calls : List Call) : Event M → Option Policy
  | .returned caller (.ok ()) => calls[caller]?.bind Call.policy?
  | _ => none

/-- The policies that were accepted, in order. -/
def adoptions (calls : List Call) (events : List (Event M)) : List Policy :=
  events.filterMap (Event.adoption? calls)

def Event.messageOf? (cycle : Nat) : Event M → Option M
  | .receiveEnded _ number (.returned (some message)) =>
      if number = cycle then some message else none
  | _ => none

/-- The messages that were received in one cycle. -/
def messagesOf (cycle : Nat) (timed : List (Nat × Event M)) : List M :=
  timed.filterMap fun (_, event) => event.messageOf? cycle

/-- The fill phase of a cycle that began at `start` stayed within its policy. -/
structure KeepsWithin (policy : Policy) (start cycle : Nat) (timed : List (Nat × Event M)) :
    Prop where
  calls : (sourceCalls (record cycle timed)).length ≤ policy.batchSize
  messages : (messagesOf cycle timed).length ≤ policy.batchSize
  content : ∀ cap, policy.outBatchSize = some cap → (messagesOf cycle timed).length ≤ cap.val
  deadline : KeepsDeadline policy start (record cycle timed)

/-! ### Within the caps -/

section

variable {policy : Policy} {start cycle : Nat} {crew : Crew M} {log : List (Nat × Mark)}
  {timed : List (Nat × Event M)}

theorem Policy.cap_le_batchSize (policy : Policy) : policy.cap ≤ policy.batchSize := by
  unfold Policy.cap
  split
  · exact Nat.min_le_left ..
  · exact Nat.le_refl _

theorem Policy.cap_le_content {cap : Cap} (capped : policy.outBatchSize = some cap) :
    policy.cap ≤ cap.val := by
  simp only [Policy.cap, capped]
  exact Nat.min_le_right ..

/-- The source is asked, and answers, as many times as the caps allow at most. -/
theorem Crew.Timely.within (timely : crew.Timely policy start cycle log) :
    (sourceCalls log).length ≤ policy.cap ∧ (sourceReturns log).length ≤ policy.cap := by
  cases timely with
  | fills _ _ _ _ _ receives =>
      have short := receives.short
      rw [sourceCalls_filling, List.length_map, filling, sourceReturns_append,
        sourceReturns_exchanges]
      exact ⟨short, Nat.le_of_lt (by simpa [sourceReturns] using short)⟩
  | drains _ _ _ filled | concluded _ _ filled =>
      rw [filled.sourceCalls_eq, List.length_map, List.length_dropLast, sourceReturns_append,
        sourceReturns_exchanges, filled.silent.2, List.append_nil]
      exact ⟨filled.within, filled.within⟩

/-- A message is one answer of the source. -/
theorem Event.mark?_of_messageOf? {event : Event M} {message : M}
    (received : event.messageOf? cycle = some message) : event.mark? cycle = some .answered := by
  unfold Event.messageOf? at received
  split at received
  · rename_i number message
    by_cases same : number = cycle
    · exact if_pos same
    · rw [if_neg same] at received
      cases received
  · cases received

theorem messagesOf_length_le (cycle : Nat) (timed : List (Nat × Event M)) :
    (messagesOf cycle timed).length ≤ (sourceReturns (record cycle timed)).length := by
  rw [messagesOf, sourceReturns, record, List.filterMap_filterMap,
    List.length_filterMap_eq_countP, List.length_filterMap_eq_countP]
  apply List.countP_mono_left
  rintro ⟨now, event⟩ _ received
  obtain ⟨message, given⟩ := Option.isSome_iff_exists.mp received
  show (((event.mark? cycle).map fun mark => (now, mark)).bind _).isSome = true
  rw [Event.mark?_of_messageOf? given]
  rfl

theorem Crew.Timely.keepsWithin (timely : crew.Timely policy start cycle (record cycle timed)) :
    KeepsWithin policy start cycle timed := by
  obtain ⟨calls, returns⟩ := timely.within
  have messages := Nat.le_trans (messagesOf_length_le cycle timed) returns
  constructor
  · exact Nat.le_trans calls policy.cap_le_batchSize
  · exact Nat.le_trans messages policy.cap_le_batchSize
  · intro cap capped
    exact Nat.le_trans messages (Policy.cap_le_content capped)
  · exact timely.keepsDeadline

end

/-! ### The policies of the workers -/

theorem map_modify {α β : Type} (f : α → α) (g : β → β) (h : α → β)
    (same : ∀ entry, h (f entry) = g (h entry)) (entries : List α) (index : Nat) :
    (entries.modify index f).map h = (entries.map h).modify index g := by
  induction entries generalizing index with
  | nil => simp
  | cons entry rest ih => cases index <;> simp [same, ih]

namespace Crew

def policies (crew : Crew M) : List Policy :=
  crew.runners.map Runner.policy

variable {crew next : Crew M} {now id : Nat} {cue : Cue M} {events : List (Event M)}

theorem policies_modify (crew : Crew M) (id : Nat) (f : Runner M → Runner M)
    (kept : ∀ runner, (f runner).policy = runner.policy) :
    (crew.runners.modify id f).map Runner.policy = crew.policies :=
  (map_modify f (fun policy => policy) Runner.policy kept crew.runners id).trans (List.modify_id ..)

theorem policies_stand (crew : Crew M) (id : Nat) (standing : Standing M) :
    (crew.stand id standing).policies = crew.policies :=
  policies_modify crew id _ fun _ => rfl

theorem policies_withdraw (crew : Crew M) (id : Nat) :
    (crew.withdraw id).policies = crew.policies :=
  policies_modify crew id _ fun _ => rfl

theorem policies_hire (crew : Crew M) (policy : Policy) (repeats : Bool) :
    (crew.hire policy repeats).policies = crew.policies ++ [policy] :=
  List.map_append

theorem step_policies (stepped : crew.step now id cue = some (next, events)) :
    next.policies = crew.policies := by
  obtain ⟨runner, _, steps⟩ := step_cases stepped
  obtain ⟨standing, pipeline, lock, rfl⟩ := steps.stands
  exact policies_stand _ id standing

end Crew

namespace Accumulator

variable {placed before after start last accumulator : Accumulator M} {now id worker : Nat}
  {call : Call} {caller : Caller} {move : Move M} {policy : Policy} {calls : List Call}
  {events : List (Event M)} {moves : List (Nat × Move M)}

/-- Only the end of a start brings a new worker, under the policy of that moment. -/
theorem Evolves.policies (evolves : before.Evolves now move after events) :
    after.crew.policies = before.crew.policies ∨
      after.crew.policies = before.crew.policies ++ [before.policy] := by
  cases evolves with
  | carries carried =>
      rcases carried.crew_cases with ⟨runners, _⟩ | ⟨worker, crew, _⟩ | ⟨now, _, crew, _⟩
      · exact .inl (congrArg (List.map Runner.policy) runners)
      · exact .inl (crew ▸ Crew.policies_withdraw ..)
      · exact .inr (crew ▸ Crew.policies_hire ..)
  | works stepped => exact .inl (Crew.step_policies stepped)
  | drops =>
      left
      unfold release
      split
      · exact Crew.policies_withdraw ..
      · rfl

/-! ### The policies that are accepted -/

theorem adoptions_append {first rest : List (Event M)} :
    adoptions calls (first ++ rest) = adoptions calls first ++ adoptions calls rest :=
  List.filterMap_append

theorem adoptions_eq_nil (others : ∀ caller, .returned caller (.ok ()) ∈ events →
    calls[caller]?.bind Call.policy? = none) : adoptions calls events = [] := by
  apply List.filterMap_eq_nil_iff.mpr
  intro event member
  cases event with
  | returned caller result =>
      cases result with
      | ok => exact others caller member
      | error => rfl
  | _ => rfl

/-- A change of policy never waits: it has returned, or is not what this caller wants. -/
theorem policy?_of_fits (fits : caller.Fits) (unreturned : caller.result? = none) :
    caller.call.policy? = none := by
  obtain ⟨call, point⟩ := caller
  cases point with
  | acquiring | startingSink | startingSource | rollingBack =>
      cases (fits : call = .start)
      rfl
  | stoppingSink | stoppingSource => rcases fits with rfl | rfl <;> rfl
  | joining => cases call <;> first | rfl | cases fits
  | returned => cases unreturned

theorem Carries.returned (carried : before.Carries id after events) {caller : Nat}
    {result : Except Failure Unit} (returned : .returned caller result ∈ events) :
    caller = id := by
  cases carried with
  | passes _ places | starts _ places | fails _ places | launches _ _ places
  | stops _ _ places | finishes _ places => exact (places.returned returned).1

/-- What a move does to the policy, with the calls known that were made up to it. -/
inductive Rules (before after : Accumulator M) (calls : List Call) (events : List (Event M)) :
    Prop where
  | keeps (policy : after.policy = before.policy) (unchanged : adoptions calls events = [])
  | adopts (was : before.state = .stopped) (changed : adoptions calls events = [after.policy])

theorem Enters.rules
    (entered : (before.enroll call).Enters before.callers.length call after events)
    (known : ∀ {id : Nat} {call : Call}, after.calls[id]? = some call → calls[id]? = some call) :
    before.Rules after calls events := by
  have called : calls[before.callers.length]? = some call := by
    obtain ⟨point, callers⟩ := entered.callers
    apply known
    simp [Accumulator.calls, callers]
  have silent (other : call.policy? = none) : adoptions calls events = [] := by
    apply adoptions_eq_nil
    intro caller returned
    rw [entered.carries.returned returned, called]
    exact other
  cases entered with
  | refused | starts | stops => exact .keeps rfl rfl
  | departs joined departed =>
      refine .keeps departed.life.2.1 (silent ?_)
      rcases joined with rfl | ⟨rfl | rfl, _⟩ <;> rfl
  | adopts set was =>
      refine .adopts was ?_
      subst set
      simp [adoptions, Event.adoption?, called, Call.policy?, moveTo]

theorem Proceeds.rules (fitting : before.Fitting) (found : before.callers[id]? = some caller)
    (proceeded : before.Proceeds now id caller after events)
    (known : ∀ {id : Nat} {call : Call}, before.calls[id]? = some call → calls[id]? = some call) :
    before.Rules after calls events := by
  have called : calls[id]? = some caller.call := by
    apply known
    rw [Accumulator.calls, List.getElem?_map, found]
    rfl
  have silent : adoptions calls events = [] := by
    apply adoptions_eq_nil
    intro other returned
    rw [(proceeded.carries found).returned returned, called]
    exact policy?_of_fits (fitting id caller found) proceeded.unreturned
  refine .keeps ?_ silent
  cases proceeded with
  | asks | fails | launches | joined => rfl
  | finishes _ _ departed => exact departed.life.2.1

theorem Settled.rules (settled : before.Settled)
    (stepped : before.step now move = some (after, events))
    (known : ∀ {id : Nat} {call : Call}, after.calls[id]? = some call → calls[id]? = some call) :
    before.Rules after calls events := by
  have acts := settled.orderly.step_acts stepped
  have gathers := acts.gathers
  cases acts with
  | enters _ entered => exact entered.rules known
  | answers found proceeded | joins found proceeded =>
      exact proceeded.rules settled.fitting found fun earlier => known (gathers.calls_on earlier)
  | works resumed =>
      exact .keeps rfl (adoptions_eq_nil fun _ returned =>
        absurd returned (Crew.step_unreturned resumed))
  | drops =>
      refine .keeps ?_ rfl
      unfold release
      split <;> rfl

/-! ### From one moment to another -/

/-- What lies between two moments: calls have been added, and the policy is the last that was
accepted.  The workers that were hired in between have the policy of the first moment, unless
another was accepted. -/
structure Continues (start last : Accumulator M) (events : List (Event M)) : Prop where
  known : ∀ {id : Nat} {call : Call}, start.calls[id]? = some call → last.calls[id]? = some call
  policy : last.policy = (adoptions last.calls events).getLastD start.policy
  hires : ∃ added, last.crew.policies = start.crew.policies ++ added ∧
    (adoptions last.calls events = [] → ∀ policy ∈ added, policy = start.policy)

theorem continues_refl (accumulator : Accumulator M) : accumulator.Continues accumulator [] where
  known known := known
  policy := rfl
  hires := ⟨[], (List.append_nil _).symm, nofun⟩

theorem Continues.head {more : List (Event M)} (rest : after.Continues last more)
    (settled : before.Settled) (stepped : before.step now move = some (after, events)) :
    before.Continues last (events ++ more) := by
  have rules := settled.rules stepped rest.known
  obtain ⟨added, grown, built⟩ := rest.hires
  refine ⟨fun known => ?_, ?_, ?_⟩
  · exact rest.known ((settled.orderly.step_acts stepped).gathers.calls_on known)
  · rw [adoptions_append, rest.policy]
    cases rules with
    | keeps policy unchanged => rw [unchanged, List.nil_append, policy]
    | adopts _ changed => rw [changed, List.singleton_append, List.getLastD_cons]
  · have same (unchanged : adoptions last.calls (events ++ more) = []) :
        after.policy = before.policy ∧ ∀ policy ∈ added, policy = before.policy := by
      rw [adoptions_append, List.append_eq_nil_iff] at unchanged
      cases rules with
      | keeps policy => exact ⟨policy, policy ▸ built unchanged.2⟩
      | adopts _ changed => exact nomatch changed.symm.trans unchanged.1
    rcases (settled.orderly.step_evolves stepped).policies with kept | hired
    · exact ⟨added, by rw [grown, kept], fun unchanged => (same unchanged).2⟩
    · refine ⟨before.policy :: added, by rw [grown, hired]; simp, fun unchanged policy member => ?_⟩
      rcases List.mem_cons.mp member with first | later
      · exact first
      · exact (same unchanged).2 policy later

theorem Settled.continues (settled : start.Settled)
    (ran : start.run? moves = some (last, events)) : start.Continues last events :=
  (follow?_induction Settled (fun start events last => start.Continues last events)
    (fun settled stepped => settled.step stepped) (fun _ => continues_refl _)
    (fun settled stepped _ rest => rest.head settled stepped) settled ran).2

/-- The moves do not go beyond the return to the stopped state. -/
def Spans (start : Accumulator M) (moves : List (Nat × Move M)) : Prop :=
  ∀ early rest middle events, moves = early ++ rest → rest ≠ [] →
    start.run? early = some (middle, events) → middle.state ≠ .stopped

theorem Settled.adoptions_of_spans (settled : start.Settled) (spans : start.Spans moves)
    (ran : start.run? moves = some (last, events)) : adoptions last.calls events = [] := by
  induction moves generalizing start events with
  | nil =>
      cases ran
      rfl
  | cons first rest ih =>
      obtain ⟨now, move⟩ := first
      obtain ⟨next, seen, more, stepped, tail, rfl⟩ := follow?_cons_iff.mp ran
      have busy : start.state ≠ .stopped := spans [] _ start [] rfl nofun rfl
      have later : next.Spans rest := by
        intro early others middle shown split more reached
        apply spans ((now, move) :: early) others middle (seen ++ shown) (by rw [split]; rfl) more
        exact follow?_cons_iff.mpr ⟨next, seen, shown, stepped, reached, rfl⟩
      have continues := (settled.step stepped).continues tail
      rw [adoptions_append, ih (settled.step stepped) later tail, List.append_nil]
      cases settled.rules stepped continues.known with
      | keeps _ unchanged => exact unchanged
      | adopts was => exact absurd was busy

/-- The active worker has the policy in force. -/
theorem Settled.active_policy (settled : before.Settled)
    (built : ∀ worker, before.active = some worker →
      before.crew.policies[worker]? = some before.policy)
    (stepped : before.step now move = some (after, events)) (active : after.active = some worker) :
    after.crew.policies[worker]? = some after.policy := by
  have rules := settled.rules stepped fun {_ _} called => called
  cases settled.orderly.step_evolves stepped with
  | drops => exact nomatch before.release_active.symm.trans active
  | works resumed =>
      rw [Crew.step_policies resumed]
      exact built worker active
  | carries carried =>
      rcases carried.crew_cases with ⟨runners, same⟩ | ⟨_, _, none⟩ | ⟨_, staged, crew, latest⟩
      · have manned := same.symm.trans active
        cases rules with
        | adopts was => exact nomatch was.symm.trans (settled.orderly.spanning manned)
        | keeps policy =>
            rw [policy, Crew.policies, runners]
            exact built worker manned
      · exact nomatch none.symm.trans active
      · cases latest.symm.trans active
        cases rules with
        | adopts was => exact nomatch was.symm.trans (settled.orderly.staged staged)
        | keeps policy =>
            have count : before.crew.policies.length = before.crew.runners.length :=
              List.length_map _
            rw [policy, crew, Crew.policies_hire, ← count]
            exact List.getElem?_concat_length

theorem run?_active_policy (name : String) (policy : Policy) (reporter : Reporter)
    (ran : (make name policy reporter).run? moves = some (accumulator, events))
    (active : accumulator.active = some worker) :
    accumulator.crew.policies[worker]? = some accumulator.policy := by
  have held := (follow?_induction
    (fun accumulator : Accumulator M => accumulator.Settled ∧ ∀ worker,
      accumulator.active = some worker →
        accumulator.crew.policies[worker]? = some accumulator.policy)
    (fun _ _ _ => True)
    (fun ⟨settled, built⟩ stepped =>
      ⟨settled.step stepped, fun _ => settled.active_policy built stepped⟩)
    (fun _ => trivial) (fun _ _ _ _ => trivial)
    ⟨settled_make name policy reporter, fun _ none => nomatch none⟩ ran).1
  exact held.2 worker active

/-! ### Who works under which policy -/

/-- The worker was built with this policy, and each cycle that it begins from now on keeps its
fill phase within it, whatever happens in the meantime. -/
def WorksUnder (accumulator : Accumulator M) (worker : Nat) (policy : Policy) : Prop :=
  ∀ more after seen, accumulator.run? more = some (after, seen) →
    ∃ runner, after.crew.runner? worker = some runner ∧ runner.policy = policy ∧
      (runner.standing = .queued → ∀ start rest last timed,
        after.watch? ((start, .worker worker .resume) :: rest) = some (last, timed) →
          KeepsWithin policy start (after.crew.pipeline.counters.cycles + 1) timed)

theorem worksUnder_of_built (name : String) (first : Policy) (reporter : Reporter)
    (ran : (make name first reporter).run? moves = some (accumulator, events))
    (built : accumulator.crew.policies[worker]? = some policy) :
    accumulator.WorksUnder worker policy := by
  intro more after seen continued
  have settled := run?_settled name first reporter ran
  obtain ⟨added, grown, _⟩ := (settled.continues continued).hires
  have still : after.crew.policies[worker]? = some policy := by
    rw [grown, List.getElem?_append_left (List.getElem?_eq_some_iff.mp built).1, built]
  rw [Crew.policies, List.getElem?_map] at still
  obtain ⟨runner, found, same⟩ := Option.map_eq_some_iff.mp still
  refine ⟨runner, found, same, fun stood start rest last timed watched => ?_⟩
  have timely := timely_of_watch name first reporter (follow?_append ran continued) found stood
    watched
  exact same ▸ timely.keepsWithin

/-- A change of policy that is accepted, and nothing else that it changes. -/
theorem step_setPolicy (kept : accumulator.dropped = false)
    (stopped : accumulator.state = .stopped) (now : Nat) (policy : Policy) :
    accumulator.step now (.begin (.setPolicy policy)) =
      some ({ accumulator with
          policy
          callers := accumulator.callers ++ [⟨.setPolicy policy, .returned (.ok ())⟩] },
        [.returned accumulator.callers.length (.ok ())]) := by
  simp [step, kept, beginCall, changePolicy, stopped, giveBack, moveTo,
    List.modify_eq_take_drop]

/-- Whichever calls and workers interleave: the policy is the last that was accepted, and none is
accepted from the start of a span to its end.  Whoever is hired until the next one is accepted
works under this policy, and so does the active worker.  A change is accepted exactly while the
accumulator is stopped, and when it is refused nothing changes. -/
theorem policy_in_force (name : String) (policy : Policy) (reporter : Reporter)
    {reached : Accumulator M}
    (ran : (make name policy reporter).run? moves = some (reached, events)) :
    (∀ later last seen, reached.run? later = some (last, seen) →
      last.policy = (adoptions last.calls seen).getLastD reached.policy ∧
      (reached.Spans later → last.policy = reached.policy ∧ adoptions last.calls seen = []) ∧
      (adoptions last.calls seen = [] → ∀ worker, reached.hired ≤ worker → worker < last.hired →
        last.WorksUnder worker reached.policy)) ∧
    (∀ worker, reached.active = some worker → reached.WorksUnder worker reached.policy) ∧
    (reached.dropped = false → ∀ now next,
      (reached.state = .stopped → reached.step now (.begin (.setPolicy next)) =
        some ({ reached with
            policy := next
            callers := reached.callers ++ [⟨.setPolicy next, .returned (.ok ())⟩] },
          [.returned reached.callers.length (.ok ())])) ∧
      (reached.state ≠ .stopped → reached.step now (.begin (.setPolicy next)) =
        some ({ reached with
            callers := reached.callers ++ [⟨.setPolicy next,
              .returned (.error (.invalidState "change policy" reached.state))⟩] },
          [.returned reached.callers.length
            (.error (.invalidState "change policy" reached.state))]))) := by
  have settled := run?_settled name policy reporter ran
  refine ⟨?_, ?_, ?_⟩
  · intro later last seen continued
    have continues := settled.continues continued
    refine ⟨continues.policy, fun spans => ?_, fun unchanged worker hired within => ?_⟩
    · have unchanged := settled.adoptions_of_spans spans continued
      refine ⟨?_, unchanged⟩
      rw [continues.policy, unchanged]
      rfl
    · apply worksUnder_of_built name policy reporter (follow?_append ran continued)
      obtain ⟨added, grown, built⟩ := continues.hires
      have length : last.crew.policies.length = last.hired := List.length_map _
      obtain ⟨given, there⟩ : ∃ given, last.crew.policies[worker]? = some given :=
        ⟨_, List.getElem?_eq_getElem (length.symm ▸ within)⟩
      have before : reached.crew.policies.length = reached.hired := List.length_map _
      rw [there, ← built unchanged given]
      rw [grown, List.getElem?_append_right (before.symm ▸ hired)] at there
      exact List.mem_of_getElem? there
  · intro worker active
    exact worksUnder_of_built name policy reporter ran
      (run?_active_policy name policy reporter ran active)
  · intro kept now next
    exact ⟨fun stopped => step_setPolicy kept stopped now next,
      fun busy => step_refused kept (.setPolicy busy) now⟩

def newPolicy : Policy := ⟨3, Cap.ofNat? 2, 20⟩

/-- The worker of the first span still waits for the source when the policy changes. -/
def changeWhileReceiving : List (Nat × Move Nat) :=
  [(0, .begin .start), (0, .answer 0 (.ok ())), (0, .answer 0 (.ok ())), (0, .answer 0 (.ok ())),
    (1, .worker 0 .resume), (1, .worker 0 .resume), (2, .begin .stop), (2, .answer 1 (.ok ())),
    (2, .answer 1 (.ok ())), (3, .begin (.setPolicy newPolicy))]

def spanAfterChange : List (Nat × Move Nat) :=
  [(4, .begin .start), (4, .answer 3 (.ok ())), (4, .answer 3 (.ok ())), (4, .answer 3 (.ok ()))]

theorem policy_in_force_of_old_worker :
    ∃ (reached last : Accumulator Nat) (events seen : List (Event Nat)),
      (make "pair" ⟨2, none, 50⟩ (.logging "pair")).run? changeWhileReceiving =
        some (reached, events) ∧
      reached.run? spanAfterChange = some (last, seen) ∧
      last.crew.policies = [⟨2, none, 50⟩, newPolicy] ∧
      last.crew.awaitOf? 0 = some (.receive 1 0 51 50) ∧
      last.policy = newPolicy ∧ last.WorksUnder 1 newPolicy := by
  obtain ⟨reached, last, events, seen, ran, continued, policies, awaits, changed, unchanged, before,
      after⟩ :
      ∃ (reached last : Accumulator Nat) (events seen : List (Event Nat)),
        (make "pair" ⟨2, none, 50⟩ (.logging "pair")).run? changeWhileReceiving =
          some (reached, events) ∧
        reached.run? spanAfterChange = some (last, seen) ∧
        last.crew.policies = [⟨2, none, 50⟩, newPolicy] ∧
        last.crew.awaitOf? 0 = some (.receive 1 0 51 50) ∧
        reached.policy = newPolicy ∧ adoptions last.calls seen = [] ∧
        reached.hired ≤ 1 ∧ 1 < last.hired :=
    ⟨_, _, _, _, rfl, rfl, rfl, rfl, rfl, rfl, Nat.le_refl 1, Nat.lt_succ_self 1⟩
  obtain ⟨policy, _, hires⟩ := (policy_in_force _ _ _ ran).1 _ _ _ continued
  refine ⟨reached, last, events, seen, ran, continued, policies, awaits, ?_, ?_⟩
  · rw [policy, unchanged, changed]
    rfl
  · rw [← changed]
    exact hires unchanged 1 before after

end Accumulator

end Batching

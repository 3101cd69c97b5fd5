import Batching.Proofs.FillPhase

namespace Batching

/-! The deadline of a cycle.

A fill phase has one deadline.  Each receive is given the time that is left until then, and
begins at the moment the one before it returns, so only the last receive of a cycle can
return after the deadline, and only then does the deadline end the fill phase.  What is seen
of a cycle, with the times at which it is seen, has this shape whatever the source, the other
runners and the owner do.
-/

variable {M : Type}

/-! ### The record of a cycle -/

/-- What is seen of the course of a cycle. -/
inductive Mark where
  | asked (timeout : Nat)
  | answered
  | expired
  | handed
  | ended (result : Except CycleFailure CycleReport)

def Notice.mark? (cycle : Nat) : Notice → Option Mark
  | .deadlineExpired _ number _ => if number = cycle then some .expired else none
  | _ => none

def cycleOf : Except CycleFailure CycleReport → Nat
  | .ok report => report.cycle
  | .error failure => failure.cycle

def Event.mark? (cycle : Nat) : Event M → Option Mark
  | .receiveBegan _ number timeout => if number = cycle then some (.asked timeout) else none
  | .receiveEnded _ number _ => if number = cycle then some .answered else none
  | .processBegan _ number _ => if number = cycle then some .handed else none
  | .cycleEnded _ result => if cycleOf result = cycle then some (.ended result) else none
  | .logged notice => notice.mark? cycle
  | _ => none

/-- The marks of one cycle among events. -/
def marks (cycle : Nat) (events : List (Event M)) : List Mark :=
  events.filterMap (Event.mark? cycle)

/-- The marks of one cycle, each with its time. -/
def record (cycle : Nat) (timed : List (Nat × Event M)) : List (Nat × Mark) :=
  timed.filterMap fun (now, event) => (event.mark? cycle).map fun mark => (now, mark)

/-- The calls of the source, each with its time and its timeout. -/
def sourceCalls (log : List (Nat × Mark)) : List (Nat × Nat) :=
  log.filterMap fun
    | (now, .asked timeout) => some (now, timeout)
    | _ => none

/-- The times at which calls of the source have returned. -/
def sourceReturns (log : List (Nat × Mark)) : List Nat :=
  log.filterMap fun
    | (now, .answered) => some now
    | _ => none

def cycleReports (log : List (Nat × Mark)) : List CycleReport :=
  log.filterMap fun
    | (_, .ended (.ok report)) => some report
    | _ => none

/-- The end of the fill phase: the first message is handed on, or the cycle ends. -/
def fillEnd? (log : List (Nat × Mark)) : Option Nat :=
  log.findSome? fun
    | (now, .handed) | (now, .ended _) => some now
    | _ => none

/-- Up to `now` no call of the source took longer than its timeout. -/
def OnTime (log : List (Nat × Mark)) (now : Nat) : Prop :=
  ∀ (index : Nat) (call : Nat × Nat), (sourceCalls log)[index]? = some call →
    (sourceReturns log)[index]?.getD now ≤ call.1 + call.2

def Ascending (log : List (Nat × Mark)) : Prop :=
  (log.map Prod.fst).Pairwise (· ≤ ·)

/-- The cycle that began its fill phase at `start` kept to the one deadline of its policy: every
call has what is left until then, so none begins after it. -/
structure KeepsDeadline (policy : Policy) (start : Nat) (log : List (Nat × Mark)) : Prop where
  calls : ∀ call ∈ sourceCalls log, call.1 + call.2 = start + policy.batchTimeout
  shrinking : Ascending log →
    (sourceCalls log).Pairwise fun earlier later => later.2 ≤ earlier.2
  overdue : ((sourceReturns log).filter fun ended =>
    start + policy.batchTimeout < ended).length ≤ 1
  prompt : ∀ now, OnTime log now →
    (fillEnd? log).getD now ≤ start + policy.batchTimeout ∧
    (∀ time, (time, .expired) ∉ log) ∧
    ∀ report ∈ cycleReports log, report.reason = .receiveTimedOut ∨ report.reason = .stopped ∨
      report.reason = policy.capExit ∧ report.received = policy.cap
  immediate : policy.batchTimeout = 0 → ∀ now, OnTime log now → Ascending log →
    (∀ call ∈ sourceCalls log, call = (start, 0)) ∧
    (∀ ended ∈ sourceReturns log, ended = start) ∧
    (sourceCalls log).length ≤ policy.cap

theorem record_append {cycle : Nat} {first rest : List (Nat × Event M)} :
    record cycle (first ++ rest) = record cycle first ++ record cycle rest :=
  List.filterMap_append

theorem record_clocked (cycle now : Nat) (events : List (Event M)) :
    record cycle (events.map fun event => (now, event)) =
      (marks cycle events).map fun mark => (now, mark) := by
  simp only [record, marks, List.filterMap_map, List.map_filterMap]
  rfl

/-- What each step adds to a record is in the record of a whole history. -/
theorem record_induction {σ μ : Type} {step : Nat → σ → μ → Option (σ × List (Event M))}
    {cycle : Nat} (Holds : σ → Prop) (Tracks : σ → List (Nat × Mark) → Prop)
    (kept : ∀ {now state move next seen}, Holds state →
      step now state move = some (next, seen) → Holds next)
    (tracks : ∀ {now state move next seen log}, Holds state → Tracks state log →
      step now state move = some (next, seen) →
        Tracks next (log ++ (marks cycle seen).map fun mark => (now, mark)))
    {start last : σ} {moves : List (Nat × μ)} {timed : List (Nat × Event M)}
    {log : List (Nat × Mark)} (holds : Holds start) (tracked : Tracks start log)
    (followed : follow? (clocked step) start moves = some (last, timed)) :
    Tracks last (log ++ record cycle timed) := by
  have begun : Tracks start (log ++ record cycle ([] : List (Nat × Event M))) := by
    rwa [record, List.filterMap_nil, List.append_nil]
  refine (follow?_carries []
    (fun past state => Holds state ∧ Tracks state (log ++ record cycle past))
    (fun _ ⟨holds, tracked⟩ clock => ?_) ⟨holds, begun⟩ followed).2
  obtain ⟨seen, stepped, rfl⟩ := clocked_eq_some_iff.mp clock
  refine ⟨kept holds stepped, ?_⟩
  rw [record_append, record_clocked, ← List.append_assoc]
  exact tracks holds tracked stepped

theorem marks_append {cycle : Nat} {first rest : List (Event M)} :
    marks cycle (first ++ rest) = marks cycle first ++ marks cycle rest :=
  List.filterMap_append

theorem marks_notices (cycle : Nat) (notices : List Notice) :
    marks cycle (notices.map (Event.logged (M := M))) = notices.filterMap (Notice.mark? cycle) := by
  simp [marks, List.filterMap_map, Function.comp_def, Event.mark?]

/-! ### The shape of a record -/

/-- Receives that follow on each other, the first of which begins at `began`. -/
def exchanges (deadline : Nat) : Nat → List Nat → List (Nat × Mark)
  | _, [] => []
  | began, ended :: rest =>
      (began, .asked (deadline - began)) :: (ended, .answered) :: exchanges deadline ended rest

theorem exchanges_concat (deadline began ended : Nat) (returns : List Nat) :
    exchanges deadline began (returns ++ [ended]) =
      exchanges deadline began returns ++
        [(returns.getLastD began, .asked (deadline - returns.getLastD began)),
          (ended, .answered)] := by
  induction returns generalizing began with
  | nil => rfl
  | cons first rest ih =>
      rw [List.cons_append, exchanges, ih, exchanges, List.getLastD_cons]
      rfl

/-- How a fill phase may end at time `now` with that many messages taken. -/
inductive Policy.Exits (policy : Policy) (deadline now taken : Nat) : FillExit → Prop where
  | capped (full : taken = policy.cap) : Exits policy deadline now taken policy.capExit
  | expired (late : deadline < now) : Exits policy deadline now taken .deadlineExpired
  | timedOut : Exits policy deadline now taken .receiveTimedOut
  | stopped : Exits policy deadline now taken .stopped

theorem Policy.Exits.of_timely {policy : Policy} {deadline now taken : Nat} {reason : FillExit}
    (exits : policy.Exits deadline now taken reason) (timely : now ≤ deadline) :
    reason = .receiveTimedOut ∨ reason = .stopped ∨
      reason = policy.capExit ∧ taken = policy.cap := by
  cases exits with
  | capped full => exact .inr (.inr ⟨rfl, full⟩)
  | expired late => exact absurd late (Nat.not_lt_of_le timely)
  | timedOut => exact .inl rfl
  | stopped => exact .inr (.inl rfl)

/-- What may be seen of a cycle after its fill phase, which ended at time `ended`. -/
inductive Mark.Follows (policy : Policy) (deadline ended : Nat) : Mark → Prop where
  | expired (late : deadline < ended) : Follows policy deadline ended .expired
  | handed : Follows policy deadline ended .handed
  | failed {failure : CycleFailure} : Follows policy deadline ended (.ended (.error failure))
  | reported {report : CycleReport}
      (exits : policy.Exits deadline ended report.received report.reason) :
      Follows policy deadline ended (.ended (.ok report))

/-- The fill phase is over: these are the times at which its receives returned, and this is
what was seen after the last of them. -/
structure Filled (policy : Policy) (start : Nat) (returns : List Nat)
    (rest : List (Nat × Mark)) : Prop where
  ended : fillEnd? rest = some (returns.getLastD start)
  follows : ∀ entry ∈ rest,
    entry.2.Follows policy (start + policy.batchTimeout) (returns.getLastD start)
  prompt : ∀ began ∈ (start :: returns).dropLast, began ≤ start + policy.batchTimeout
  within : returns.length ≤ policy.cap

theorem Filled.concat {policy : Policy} {start now : Nat} {returns : List Nat}
    {rest : List (Nat × Mark)} {mark : Mark} (filled : Filled policy start returns rest)
    (follows : mark.Follows policy (start + policy.batchTimeout) (returns.getLastD start)) :
    Filled policy start returns (rest ++ [(now, mark)]) where
  ended := by rw [fillEnd?, List.findSome?_append, ← fillEnd?, filled.ended, Option.some_or]
  follows entry member := by
    rcases List.mem_append.mp member with early | last
    · exact filled.follows entry early
    · exact List.mem_singleton.mp last ▸ follows
  prompt := filled.prompt
  within := filled.within

/-- The receives of a fill phase that is not over, the last of which has not returned. -/
structure Filling (policy : Policy) (start : Nat) (returns : List Nat) : Prop where
  prompt : ∀ began ∈ start :: returns, began ≤ start + policy.batchTimeout
  short : returns.length < policy.cap

def filling (policy : Policy) (start : Nat) (returns : List Nat) : List (Nat × Mark) :=
  exchanges (start + policy.batchTimeout) start returns ++
    [(returns.getLastD start,
      .asked (start + policy.batchTimeout - returns.getLastD start))]

section

variable {policy : Policy} {start deadline now : Nat} {returns : List Nat}
  {rest log : List (Nat × Mark)}

theorem sourceCalls_exchanges (deadline start : Nat) (returns : List Nat) :
    sourceCalls (exchanges deadline start returns) =
      (start :: returns).dropLast.map fun began => (began, deadline - began) := by
  induction returns generalizing start with
  | nil => rfl
  | cons first rest ih =>
      rw [List.dropLast_cons_cons, List.map_cons, ← ih]
      rfl

theorem sourceReturns_exchanges (deadline start : Nat) (returns : List Nat) :
    sourceReturns (exchanges deadline start returns) = returns := by
  induction returns generalizing start with
  | nil => rfl
  | cons first rest ih => exact congrArg (first :: ·) (ih first)

theorem unfinished_exchanges (deadline start : Nat) (returns : List Nat) :
    fillEnd? (exchanges deadline start returns) = none ∧
      cycleReports (exchanges deadline start returns) = [] := by
  induction returns generalizing start with
  | nil => exact ⟨rfl, rfl⟩
  | cons first rest ih => exact ih first

theorem exchanges_unexpired (deadline start : Nat) (returns : List Nat) (time : Nat) :
    (time, .expired) ∉ exchanges deadline start returns := by
  induction returns generalizing start with
  | nil => exact List.not_mem_nil
  | cons first rest ih => simp [exchanges, ih]

theorem sourceCalls_append {first rest : List (Nat × Mark)} :
    sourceCalls (first ++ rest) = sourceCalls first ++ sourceCalls rest :=
  List.filterMap_append

theorem sourceReturns_append {first rest : List (Nat × Mark)} :
    sourceReturns (first ++ rest) = sourceReturns first ++ sourceReturns rest :=
  List.filterMap_append

theorem cycleReports_append {first rest : List (Nat × Mark)} :
    cycleReports (first ++ rest) = cycleReports first ++ cycleReports rest :=
  List.filterMap_append

theorem Filled.silent (filled : Filled policy start returns rest) :
    sourceCalls rest = [] ∧ sourceReturns rest = [] := by
  constructor
  · refine List.filterMap_eq_nil_iff.mpr fun entry member => ?_
    obtain ⟨time, mark⟩ := entry
    have follows : mark.Follows _ _ _ := filled.follows _ member
    cases follows <;> rfl
  · refine List.filterMap_eq_nil_iff.mpr fun entry member => ?_
    obtain ⟨time, mark⟩ := entry
    have follows : mark.Follows _ _ _ := filled.follows _ member
    cases follows <;> rfl

/-! ### What the shape implies -/

theorem times_sublist {α : Type} (log : List (Nat × Mark)) (time : α → Nat)
    (f : Nat × Mark → Option α) (same : ∀ entry seen, f entry = some seen → time seen = entry.1) :
    ((log.filterMap f).map time).Sublist (log.map Prod.fst) := by
  induction log with
  | nil => exact .slnil
  | cons entry rest ih =>
      cases seen : f entry with
      | none =>
          rw [List.filterMap_cons_none seen]
          exact ih.cons _
      | some value =>
          rw [List.filterMap_cons_some seen, List.map_cons, List.map_cons, same entry value seen]
          exact ih.cons_cons _

theorem shrinks (sum : ∀ call ∈ sourceCalls log, call.1 + call.2 = deadline)
    (ascending : Ascending log) :
    (sourceCalls log).Pairwise fun earlier later => later.2 ≤ earlier.2 := by
  have times : ((sourceCalls log).map Prod.fst).Sublist (log.map Prod.fst) := by
    refine times_sublist log Prod.fst _ fun entry seen found => ?_
    split at found <;> cases found
    rfl
  have ordered := List.pairwise_map.mp (ascending.sublist times)
  refine ordered.imp_of_mem fun {earlier later} first second order => ?_
  have left := sum earlier first
  have right := sum later second
  omega

theorem returns_timely (sum : ∀ call ∈ sourceCalls log, call.1 + call.2 = deadline)
    (enough : (sourceReturns log).length ≤ (sourceCalls log).length) (onTime : OnTime log now) :
    ∀ ended ∈ sourceReturns log, ended ≤ deadline := by
  intro ended member
  obtain ⟨index, within, rfl⟩ := List.mem_iff_getElem.mp member
  have called := List.getElem?_eq_getElem (Nat.lt_of_lt_of_le within enough)
  have timely := onTime index _ called
  rw [List.getElem?_eq_getElem within, Option.getD_some] at timely
  exact Nat.le_trans timely (Nat.le_of_eq (sum _ (List.mem_of_getElem? called)))

/-- In the order of time nothing is seen of a cycle before its fill phase begins. -/
theorem returns_late (ascending : Ascending (exchanges deadline start returns ++ rest)) :
    ∀ ended ∈ returns, start ≤ ended := by
  cases returns with
  | nil => nofun
  | cons first others =>
      intro ended member
      have returned : ended ∈ sourceReturns (exchanges deadline first others ++ rest) ∨
          ended = first := by
        rw [sourceReturns_append, sourceReturns_exchanges]
        rcases List.mem_cons.mp member with same | later
        · exact .inr same
        · exact .inl (List.mem_append_left _ later)
      have after := (List.pairwise_cons.mp ascending).1
      rcases returned with later | rfl
      · obtain ⟨⟨time, mark⟩, inside, same⟩ := List.mem_filterMap.mp later
        cases mark <;> cases same
        exact after _ (List.mem_cons_of_mem _ (List.mem_map_of_mem (f := Prod.fst) inside))
      · exact after _ List.mem_cons_self

theorem KeepsDeadline.of_receives {begins : List Nat}
    (calls : sourceCalls log =
      begins.map fun began => (began, start + policy.batchTimeout - began))
    (returned : sourceReturns log = returns)
    (prompt : ∀ began ∈ begins, began ≤ start + policy.batchTimeout)
    (follows : ∀ began ∈ begins, began = start ∨ began ∈ returns)
    (enough : returns.length ≤ begins.length) (within : begins.length ≤ policy.cap)
    (opens : Ascending log → ∀ ended ∈ returns, start ≤ ended)
    (overdue : ∀ ended ∈ returns.dropLast, ended ≤ start + policy.batchTimeout)
    (ends : ∀ now, OnTime log now → (∀ ended ∈ returns, ended ≤ start + policy.batchTimeout) →
      (fillEnd? log).getD now ≤ start + policy.batchTimeout ∧
      (∀ time, (time, .expired) ∉ log) ∧
      ∀ report ∈ cycleReports log, report.reason = .receiveTimedOut ∨ report.reason = .stopped ∨
        report.reason = policy.capExit ∧ report.received = policy.cap) :
    KeepsDeadline policy start log := by
  have sum : ∀ call ∈ sourceCalls log, call.1 + call.2 = start + policy.batchTimeout := by
    intro call member
    rw [calls] at member
    obtain ⟨began, among, rfl⟩ := List.mem_map.mp member
    exact Nat.add_sub_cancel' (prompt began among)
  have timely (now : Nat) (onTime : OnTime log now) :
      ∀ ended ∈ returns, ended ≤ start + policy.batchTimeout := by
    rw [← returned]
    refine returns_timely sum ?_ onTime
    rw [returned, calls, List.length_map]
    exact enough
  refine ⟨sum, shrinks sum, ?_, fun now onTime => ends now onTime (timely now onTime), ?_⟩
  · rw [returned]
    rcases List.eq_nil_or_concat returns with rfl | ⟨early, last, rfl⟩
    · exact Nat.zero_le 1
    · -- every return but the last was followed by another receive, so it was in time
      have none :
          early.filter (fun ended => decide (start + policy.batchTimeout < ended)) = [] := by
        refine List.filter_eq_nil_iff.mpr fun ended member => ?_
        have before := overdue ended (by rwa [List.concat_eq_append, List.dropLast_concat])
        simpa using before
      rw [List.concat_eq_append, List.filter_append, none, List.nil_append]
      exact List.length_filter_le _ [last]
  · intro instant now onTime ascending
    -- without a timeout every answer in time comes at the start
    have ended : ∀ ended ∈ returns, ended = start := by
      intro ended member
      have early := timely now onTime ended member
      have late := opens ascending ended member
      omega
    refine ⟨fun call member => ?_, returned ▸ ended, ?_⟩
    · have total := sum call member
      rw [calls] at member
      obtain ⟨began, among, rfl⟩ := List.mem_map.mp member
      have began : began = start := (follows began among).elim id (ended began)
      simp only [began, Prod.mk.injEq, true_and]
      omega
    · rw [calls, List.length_map]
      exact within

theorem dropLast_concat_getLastD (start : Nat) (returns : List Nat) :
    (start :: returns).dropLast ++ [returns.getLastD start] = start :: returns := by
  rw [← List.getLast_eq_getLastD (List.cons_ne_nil start returns)]
  exact List.dropLast_concat_getLast _

theorem sourceCalls_filling (policy : Policy) (start : Nat) (returns : List Nat) :
    sourceCalls (filling policy start returns) =
      (start :: returns).map fun began => (began, start + policy.batchTimeout - began) := by
  rw [← dropLast_concat_getLastD, List.map_append, ← sourceCalls_exchanges, filling,
    sourceCalls_append]
  rfl

theorem Filling.keepsDeadline (receives : Filling policy start returns) :
    KeepsDeadline policy start (filling policy start returns) := by
  have split := dropLast_concat_getLastD start returns
  have calls := sourceCalls_filling policy start returns
  have returned : sourceReturns (filling policy start returns) = returns := by
    rw [filling, sourceReturns_append, sourceReturns_exchanges]
    exact List.append_nil returns
  obtain ⟨unfinished, unreported⟩ :=
    unfinished_exchanges (start + policy.batchTimeout) start returns
  refine .of_receives calls returned receives.prompt (fun _ => List.mem_cons.mp)
    (Nat.le_succ _) receives.short returns_late ?_ ?_
  · exact fun ended member =>
      receives.prompt ended (List.mem_cons_of_mem _ (List.dropLast_subset _ member))
  · intro now onTime timely
    refine ⟨?_, fun time expired => ?_, fun report reported => ?_⟩
    · have pending := onTime returns.length
        (returns.getLastD start, start + policy.batchTimeout - returns.getLastD start)
        (by rw [calls, ← split, List.map_append]; simp)
      rw [returned, List.getElem?_eq_none (Nat.le_refl _), Option.getD_none] at pending
      have began := receives.prompt _ List.getLastD_mem_cons
      rw [filling, fillEnd?, List.findSome?_append, ← fillEnd?, unfinished]
      show now ≤ _
      omega
    · rcases List.mem_append.mp expired with early | last
      · exact exchanges_unexpired _ _ _ _ early
      · cases List.mem_singleton.mp last
    · rw [filling, cycleReports_append, unreported] at reported
      cases reported

theorem Filled.sourceCalls_eq (filled : Filled policy start returns rest) :
    sourceCalls (exchanges (start + policy.batchTimeout) start returns ++ rest) =
      (start :: returns).dropLast.map fun began =>
        (began, start + policy.batchTimeout - began) := by
  rw [sourceCalls_append, filled.silent.1, List.append_nil, sourceCalls_exchanges]

theorem Filled.keepsDeadline (filled : Filled policy start returns rest) :
    KeepsDeadline policy start (exchanges (start + policy.batchTimeout) start returns ++ rest) := by
  obtain ⟨uncalled, unreturned⟩ := filled.silent
  have calls := filled.sourceCalls_eq
  have returned : sourceReturns (exchanges (start + policy.batchTimeout) start returns ++ rest) =
      returns := by
    rw [sourceReturns_append, unreturned, List.append_nil, sourceReturns_exchanges]
  obtain ⟨unfinished, unreported⟩ :=
    unfinished_exchanges (start + policy.batchTimeout) start returns
  have length : (start :: returns).dropLast.length = returns.length := List.length_dropLast
  refine .of_receives calls returned filled.prompt
    (fun _ member => List.mem_cons.mp (List.dropLast_subset _ member))
    (Nat.le_of_eq length.symm) (length ▸ filled.within) returns_late ?_ ?_
  · intro ended member
    cases returns with
    | nil => cases member
    | cons first others =>
        refine filled.prompt ended ?_
        rw [List.dropLast_cons_cons]
        exact List.mem_cons_of_mem _ member
  · intro now onTime timely
    have ended : returns.getLastD start ≤ start + policy.batchTimeout := by
      rcases List.mem_cons.mp List.getLastD_mem_cons with same | returned
      · exact same ▸ Nat.le_add_right ..
      · exact timely _ returned
    refine ⟨?_, fun time expired => ?_, fun report reported => ?_⟩
    · rw [fillEnd?, List.findSome?_append, ← fillEnd?, unfinished, Option.none_or, ← fillEnd?,
        filled.ended]
      exact ended
    · rcases List.mem_append.mp expired with early | late
      · exact exchanges_unexpired _ _ _ _ early
      · cases filled.follows _ late with
        | expired late => exact absurd late (Nat.not_lt_of_le ended)
    · rw [cycleReports_append, unreported, List.nil_append] at reported
      obtain ⟨⟨time, mark⟩, inside, same⟩ := List.mem_filterMap.mp reported
      have follows : mark.Follows _ _ _ := filled.follows _ inside
      cases follows with
      | reported exits =>
          cases same
          exact exits.of_timely ended
      | expired | handed | failed => cases same

end

/-! ### The marks of a turn -/

/-- What a turn tells of a cycle before it goes on. -/
def Turn.told (turn : Turn M) (cycle : Nat) : List Mark :=
  turn.notices.filterMap (Notice.mark? cycle)

def Turn.mark? (cycle : Nat) (turn : Turn M) : Option Mark :=
  match turn.progress with
  | .awaits (.receive number _ _ timeout) => if number = cycle then some (.asked timeout) else none
  | .awaits (.process number _ _ _ _) => if number = cycle then some .handed else none
  | .ended result => if cycleOf result = cycle then some (.ended result) else none

def Turn.marks (cycle : Nat) (turn : Turn M) : List Mark :=
  turn.told cycle ++ (turn.mark? cycle).toList

/-- The turn tells of the cycle of that number only. -/
structure Turn.Only (number : Nat) (turn : Turn M) : Prop where
  unmarked : ∀ cycle, cycle ≠ number → turn.marks cycle = []

theorem Turn.told_noting (turn : Turn M) {notice : Notice} {cycle : Nat}
    (silent : notice.mark? cycle = none) : (turn.noting notice).told cycle = turn.told cycle :=
  List.filterMap_cons_none silent

theorem Turn.Only.noting {turn : Turn M} {number : Nat} {notice : Notice}
    (only : turn.Only number) (silent : ∀ cycle, cycle ≠ number → notice.mark? cycle = none) :
    (turn.noting notice).Only number where
  unmarked cycle different := by
    rw [Turn.marks, turn.told_noting (silent cycle different)]
    exact only.unmarked cycle different

/-- The cycle is past its fill phase, which took that many messages and ended for that
reason. -/
inductive Progress.Leaves (cycle taken : Nat) (reason : FillExit) : Progress M → Prop where
  | hands {dispatched : Nat} {message : M} :
      Leaves cycle taken reason (.awaits (.process cycle taken reason dispatched message))
  | ends {dispatched : Nat} :
      Leaves cycle taken reason (.ended (.ok ⟨cycle, taken, dispatched, reason⟩))

/-- How the fill phase of a cycle goes on at time `now`, when its receives have brought that
many messages. -/
inductive Turn.Fills (policy : Policy) (deadline now cycle index : Nat) : Turn M → Prop where
  | asks {turn : Turn M}
      (went : turn.progress = .awaits (.receive cycle index deadline (deadline - now)))
      (silent : turn.told cycle = []) (size : turn.pipeline.batch.size = index)
      (short : index < policy.cap) (prompt : now ≤ deadline) :
      Fills policy deadline now cycle index turn
  | leaves {turn : Turn M} {taken : Nat} {reason : FillExit}
      (went : turn.progress.Leaves cycle taken reason)
      (exits : policy.Exits deadline now taken reason)
      (told : turn.told cycle = [] ∨ turn.told cycle = [.expired] ∧ deadline < now) :
      Fills policy deadline now cycle index turn
  | fails {turn : Turn M} {failure : CycleFailure}
      (went : turn.progress = .ended (.error failure)) (number : failure.cycle = cycle)
      (silent : turn.told cycle = []) :
      Fills policy deadline now cycle index turn

namespace Pipeline

variable {pipeline : Pipeline M} {policy : Policy} {allowed : Bool}
  {now cycle index deadline timeout taken : Nat} {reason : FillExit}

/-- Handing on the messages is the business of the one cycle. -/
theorem drain_leaves (pipeline : Pipeline M) (allowed : Bool) (cycle taken : Nat)
    (reason : FillExit) (dispatched : Nat) :
    (pipeline.drain allowed cycle taken reason dispatched).progress.Leaves cycle taken reason ∧
      ∀ number, (pipeline.drain allowed cycle taken reason dispatched).told number = [] := by
  unfold drain
  split
  · exact ⟨.hands, fun _ => rfl⟩
  · split
    · exact ⟨.ends, fun _ => rfl⟩
    · unfold dropBatch
      dsimp only
      split
      · exact ⟨.ends, fun _ => rfl⟩
      · exact ⟨.ends, fun _ => rfl⟩

theorem drain_only (pipeline : Pipeline M) (allowed : Bool) (cycle taken : Nat)
    (reason : FillExit) (dispatched : Nat) :
    (pipeline.drain allowed cycle taken reason dispatched).Only cycle := by
  refine ⟨fun number different => ?_⟩
  obtain ⟨leaves, silent⟩ := pipeline.drain_leaves allowed cycle taken reason dispatched
  have unmarked : (pipeline.drain allowed cycle taken reason dispatched).mark? number = none := by
    unfold Turn.mark?
    generalize (pipeline.drain allowed cycle taken reason dispatched).progress = progress at leaves
    cases leaves <;> exact if_neg (Ne.symm different)
  rw [Turn.marks, silent, unmarked]
  rfl

theorem abandon_only (pipeline : Pipeline M) (cycle : Nat) (phase : Phase) (cause : Failure) :
    (∀ number, (pipeline.abandon cycle phase cause).told number = []) ∧
      (pipeline.abandon cycle phase cause).Only cycle := by
  have silent (number : Nat) : (pipeline.abandon cycle phase cause).told number = [] := by
    cases cause <;> rfl
  refine ⟨silent, ⟨fun number different => ?_⟩⟩
  rw [Turn.marks, silent]
  exact congrArg Option.toList (if_neg (Ne.symm different))

theorem fill_only (pipeline : Pipeline M) (policy : Policy) (allowed : Bool)
    (now cycle index deadline : Nat) :
    (pipeline.fill policy allowed now cycle index deadline).Only cycle := by
  unfold fill
  split
  · exact drain_only ..
  · split
    · exact drain_only ..
    · split
      · exact .noting (drain_only ..) fun _ different => if_neg (Ne.symm different)
      · exact ⟨fun _ different => congrArg Option.toList (if_neg (Ne.symm different))⟩

theorem received_only (pipeline : Pipeline M) (policy : Policy) (allowed : Bool)
    (now cycle index deadline timeout : Nat) (outcome : Outcome (Option M)) :
    (pipeline.received policy allowed now cycle index deadline timeout outcome).Only cycle := by
  unfold received
  split
  · exact (abandon_only ..).2
  · exact .noting (drain_only ..) fun _ _ => rfl
  · dsimp only
    split
    · exact fill_only ..
    · exact .noting (drain_only ..) fun _ _ => rfl

theorem processed_only (pipeline : Pipeline M) (allowed : Bool) (cycle received : Nat)
    (reason : FillExit) (dispatched : Nat) (outcome : Outcome Unit) :
    (pipeline.processed allowed cycle received reason dispatched outcome).Only cycle := by
  unfold processed
  split
  · exact (abandon_only ..).2
  · exact drain_only ..

/-! ### The turns of a fill phase -/

theorem drain_fills (exits : policy.Exits deadline now taken reason) :
    (pipeline.drain allowed cycle taken reason 0).Fills policy deadline now cycle index := by
  obtain ⟨leaves, silent⟩ := pipeline.drain_leaves allowed cycle taken reason 0
  exact .leaves leaves exits (.inl (silent cycle))

theorem drain_noting_fills {notice : Notice} (silent : notice.mark? cycle = none)
    (exits : policy.Exits deadline now taken reason) :
    ((pipeline.drain allowed cycle taken reason 0).noting notice).Fills policy deadline now cycle
      index := by
  obtain ⟨leaves, untold⟩ := pipeline.drain_leaves allowed cycle taken reason 0
  refine .leaves leaves exits (.inl ?_)
  rw [Turn.told_noting _ silent, untold]

/-- The source is asked once more, or the fill phase ends here. -/
theorem fill_fills (size : pipeline.batch.size = index) (within : index ≤ policy.cap) :
    (pipeline.fill policy allowed now cycle index deadline).Fills policy deadline now cycle
      index := by
  rcases Nat.lt_or_eq_of_le within with short | full
  · have incomplete := Policy.completion_of_lt short
    cases allowed with
    | false =>
        simp only [fill, size, incomplete, if_true]
        exact drain_fills .stopped
    | true =>
        by_cases late : deadline < now
        · simp only [fill, size, incomplete, late, Bool.true_eq_false, if_true, if_false]
          obtain ⟨leaves, silent⟩ := pipeline.drain_leaves true cycle index .deadlineExpired 0
          refine .leaves leaves (.expired late) (.inr ⟨?_, late⟩)
          have told : (Notice.deadlineExpired pipeline.name cycle index).mark? cycle =
              some .expired := if_pos rfl
          exact (List.filterMap_cons_some told).trans (congrArg _ (silent cycle))
        · simp only [fill, size, incomplete, late, Bool.true_eq_false, if_false]
          exact .asks rfl rfl size short (Nat.le_of_not_lt late)
  · simp only [fill, size, full, Policy.completion_cap]
    exact drain_fills (.capped rfl)

theorem beginCycle_fills (drained : pipeline.batch.size = 0) :
    (pipeline.beginCycle policy allowed now).Fills policy (now + policy.batchTimeout) now
      (pipeline.counters.cycles + 1) 0 :=
  fill_fills drained (Nat.zero_le _)

theorem received_fills (size : allowed = true → pipeline.batch.size = index)
    (short : index < policy.cap) (outcome : Outcome (Option M)) :
    (pipeline.received policy allowed now cycle index deadline timeout outcome).Fills policy
      deadline now cycle (index + 1) := by
  unfold received
  split
  · exact .fails rfl rfl ((abandon_only ..).1 cycle)
  · exact drain_noting_fills rfl .timedOut
  · rename_i message given
    dsimp only
    cases allowed with
    | false => exact drain_noting_fills rfl .stopped
    | true =>
        refine fill_fills ?_ short
        rw [Batch.size_eq_length, Batch.toList_append, List.length_append, ← Batch.size_eq_length,
          size rfl]
        rfl

theorem processed_leaves (pipeline : Pipeline M) (allowed : Bool) (cycle received : Nat)
    (reason : FillExit) (dispatched : Nat) (outcome : Outcome Unit) :
    (∀ number, (pipeline.processed allowed cycle received reason dispatched outcome).told number
      = []) ∧
    ((pipeline.processed allowed cycle received reason dispatched outcome).progress.Leaves cycle
        received reason ∨
      ∃ failure, failure.cycle = cycle ∧
        (pipeline.processed allowed cycle received reason dispatched outcome).progress =
          .ended (.error failure)) := by
  unfold processed
  split
  · exact ⟨(abandon_only ..).1, .inr ⟨_, rfl, rfl⟩⟩
  · obtain ⟨leaves, silent⟩ := drain_leaves _ allowed cycle received reason (dispatched + 1)
    exact ⟨silent, .inl leaves⟩

end Pipeline

/-! ### What a runner adds to the record -/

namespace Crew

variable {crew next : Crew M} {now id other cycle number start : Nat} {runner : Runner M}
  {cue : Cue M} {await : Await M} {turn : Turn M} {opening events : List (Event M)}
  {policy : Policy} {returns : List Nat} {log : List (Nat × Mark)}

theorem release_unmarked (crew : Crew M) (cycle : Nat) : marks cycle crew.release.2 = [] := by
  cases given : crew.lock.release.holder <;> simp [release, given, marks, Event.mark?]

theorem Concludes.unmarked {result : Except CycleFailure CycleReport} {standing : Standing M}
    {told : List (Event M)} (concludes : crew.Concludes id runner result standing told)
    (cycle : Nat) : marks cycle told = [] := by
  cases concludes with
  | exits | pauses => rfl
  | reports | crashes => cases crew.reporter <;> rfl

theorem marks_settle (crew : Crew M) (id : Nat) (runner : Runner M) (turn : Turn M)
    (cycle : Nat) : marks cycle (crew.settle id runner turn).2 = turn.marks cycle := by
  cases went : turn.progress with
  | awaits await =>
      have called : marks cycle [await.event id] = (turn.mark? cycle).toList := by
        rw [Turn.mark?, went, marks]
        cases await <;> exact List.filterMap_cons
      rw [settle_of_awaits went, marks_append, marks_notices, called, Turn.marks, Turn.told]
  | ended result =>
      obtain ⟨standing, told, concludes, settled⟩ := settle_concludes crew id runner went
      have silent : marks cycle (crew.release.2 ++ told) = [] := by
        rw [marks_append, release_unmarked, concludes.unmarked]
        rfl
      have closed : marks cycle (.cycleEnded id result :: (crew.release.2 ++ told)) =
          (turn.mark? cycle).toList := by
        rw [marks, List.filterMap_cons, ← marks, silent, Turn.mark?, went]
        rfl
      rw [settled, marks_append, marks_notices, closed, Turn.marks, Turn.told]

theorem Takes.turn?_eq (taken : crew.Takes now id runner cue opening turn)
    (orderly : crew.Orderly) (found : crew.runner? id = some runner)
    (turns : crew.turn? = some (id, number)) :
    (∀ cycle, cycle ≠ number → marks cycle opening = []) ∧ turn.Only number := by
  have numbered {await : Await M} (stood : runner.standing = .awaiting await) :
      await.cycle = number := by
    have inside := orderly.current? (awaitOf?_eq_some_of_stood found stood)
    exact (Prod.mk.inj (Option.some.inj ((turn?_of_current inside).symm.trans turns))).2
  cases taken with
  | begins stood holds =>
      have queued := turn?_of_queued holds (stood ▸ standing?_of_found found)
      cases queued.symm.trans turns
      exact ⟨fun _ _ => rfl, Pipeline.fill_only ..⟩
  | receives stood =>
      cases numbered stood
      refine ⟨fun _ different => ?_, Pipeline.received_only ..⟩
      exact List.filterMap_cons_none (if_neg (Ne.symm different))
  | processes stood =>
      cases numbered stood
      exact ⟨fun _ _ => rfl, Pipeline.processed_only ..⟩

/-- A runner marks only the cycle whose turn it is. -/
theorem step_unmarked (orderly : crew.Orderly)
    (stepped : crew.step now id cue = some (next, events))
    (elsewhere : crew.turn? ≠ some (id, cycle)) : marks cycle events = [] := by
  obtain ⟨runner, found, resumes⟩ := step_resumes stepped
  cases resumes with
  | asks _ _ told => rcases told with rfl | rfl <;> rfl
  | leaves =>
      rw [leave_events, marks_append, release_unmarked]
      rfl
  | @takes _ turn taken =>
      obtain ⟨number, turns, _⟩ := taken.opens.concerns orderly found
      obtain ⟨opening, only⟩ := taken.turn?_eq orderly found turns
      have different : cycle ≠ number := fun same => elsewhere (same ▸ turns)
      rw [marks_append, opening cycle different, marks_settle, only.unmarked cycle different]
      rfl

/-- The answer to the call in progress takes its cycle to the next turn. -/
theorem step_takes (current : crew.awaitOf? id = some await)
    (stepped : crew.step now id cue = some (next, events)) :
    ∃ runner opening turn, crew.runner? id = some runner ∧ runner.standing = .awaiting await ∧
      crew.Takes now id runner cue opening turn ∧
      next = (crew.settle id runner turn).1 ∧
      events = opening ++ (crew.settle id runner turn).2 := by
  obtain ⟨runner, found, resumes⟩ := step_resumes stepped
  have stood : runner.standing = .awaiting await := by
    rw [awaitOf?, found, Option.bind_some] at current
    cases standing : runner.standing <;> rw [standing] at current <;> cases current
    rfl
  cases resumes with
  | asks idle => rcases idle with fresh | pausing <;> simp_all
  | leaves left => simp_all
  | takes taken => exact ⟨runner, _, _, found, stood, taken, rfl, rfl⟩

/-! ### The course of a cycle -/

/-- How far the cycle that began its fill phase at `start` has come, and what has been seen of
it. -/
inductive Timely (policy : Policy) (start cycle : Nat) (crew : Crew M) :
    List (Nat × Mark) → Prop where
  | fills {id : Nat} {runner : Runner M} {returns : List Nat}
      (current : crew.current? = some (id, .receive cycle returns.length
        (start + policy.batchTimeout)
        (start + policy.batchTimeout - returns.getLastD start)))
      (past : cycle ≤ crew.pipeline.counters.cycles) (found : crew.runner? id = some runner)
      (same : runner.policy = policy)
      (size : runner.allowed = true → crew.pipeline.batch.size = returns.length)
      (receives : Filling policy start returns) :
      Timely policy start cycle crew (filling policy start returns)
  | drains {id taken dispatched : Nat} {reason : FillExit} {message : M} {returns : List Nat}
      {rest : List (Nat × Mark)}
      (current : crew.current? = some (id, .process cycle taken reason dispatched message))
      (past : cycle ≤ crew.pipeline.counters.cycles)
      (exits : policy.Exits (start + policy.batchTimeout) (returns.getLastD start) taken reason)
      (filled : Filled policy start returns rest) :
      Timely policy start cycle crew
        (exchanges (start + policy.batchTimeout) start returns ++ rest)
  | concluded {returns : List Nat} {rest : List (Nat × Mark)}
      (past : cycle ≤ crew.pipeline.counters.cycles) (other : crew.underway? ≠ some cycle)
      (filled : Filled policy start returns rest) :
      Timely policy start cycle crew
        (exchanges (start + policy.batchTimeout) start returns ++ rest)

theorem Timely.keepsDeadline (timely : Timely policy start cycle crew log) :
    KeepsDeadline policy start log := by
  cases timely with
  | fills _ _ _ _ _ receives => exact receives.keepsDeadline
  | drains _ _ _ filled => exact filled.keepsDeadline
  | concluded _ _ filled => exact filled.keepsDeadline

theorem settle_rests (orderly : crew.Orderly) (found : crew.runner? id = some runner)
    (opens : crew.Opens id runner opening turn) {result : Except CycleFailure CycleReport}
    (went : turn.progress = .ended result) :
    (crew.settle id runner turn).1.underway? ≠ some cycle := by
  rw [underway?_settle orderly found opens, Turn.await?, went]
  intro contrary
  cases contrary

theorem Takes.cycles_le (taken : crew.Takes now id runner cue opening turn)
    (orderly : crew.Orderly) (found : crew.runner? id = some runner) :
    crew.pipeline.counters.cycles ≤ turn.pipeline.counters.cycles := by
  obtain ⟨number, _, _, _, which⟩ := taken.opens.concerns orderly found
  rcases which with ⟨_, _, cycles⟩ | ⟨_, cycles⟩
  · exact cycles ▸ Nat.le_succ _
  · exact Nat.le_of_eq cycles.symm

/-- A turn that leaves the fill phase, or is past it, shows either the next message handed on or
the report of the cycle. -/
theorem marked_of_leaves {taken : Nat} {reason : FillExit}
    (leaves : turn.progress.Leaves cycle taken reason)
    (exits : policy.Exits (start + policy.batchTimeout) (returns.getLastD start) taken reason) :
    ∃ mark, turn.mark? cycle = some mark ∧
      mark.Follows policy (start + policy.batchTimeout) (returns.getLastD start) ∧
      ∀ time, fillEnd? [(time, mark)] = some time := by
  generalize progress : turn.progress = progress at leaves
  cases leaves with
  | hands =>
      refine ⟨.handed, ?_, .handed, fun _ => rfl⟩
      rw [Turn.mark?, progress]
      exact if_pos rfl
  | @ends dispatched =>
      refine ⟨.ended (.ok ⟨cycle, taken, dispatched, reason⟩), ?_, .reported exits, fun _ => rfl⟩
      rw [Turn.mark?, progress]
      exact if_pos rfl

theorem timely_of_leaves {rest : List (Nat × Mark)} {taken : Nat} {reason : FillExit}
    (leaves : turn.progress.Leaves cycle taken reason)
    (exits : policy.Exits (start + policy.batchTimeout) (returns.getLastD start) taken reason)
    (orderly : crew.Orderly) (found : crew.runner? id = some runner)
    (opens : crew.Opens id runner opening turn) (past : cycle ≤ turn.pipeline.counters.cycles)
    (filled : Filled policy start returns rest) :
    Timely policy start cycle (crew.settle id runner turn).1
      (exchanges (start + policy.batchTimeout) start returns ++ rest) := by
  have past : cycle ≤ (crew.settle id runner turn).1.pipeline.counters.cycles := by
    rwa [pipeline_settle]
  generalize progress : turn.progress = progress at leaves
  cases leaves with
  | hands =>
      have current := (orderly.of_settle_awaits found (opens.holds orderly found) progress).2
      exact .drains current past exits filled
  | ends => exact .concluded past (settle_rests orderly found opens progress) filled

/-- What the turn shows in which the fill phase ends. -/
theorem filled_of_told {mark : Mark} (marked : turn.mark? cycle = some mark)
    (closing : ∀ time, fillEnd? [(time, mark)] = some time)
    (follows : mark.Follows policy (start + policy.batchTimeout) (returns.getLastD start))
    (told : turn.told cycle = [] ∨ turn.told cycle = [.expired] ∧
      start + policy.batchTimeout < returns.getLastD start)
    (prompt : ∀ began ∈ (start :: returns).dropLast, began ≤ start + policy.batchTimeout)
    (within : returns.length ≤ policy.cap) :
    Filled policy start returns
      ((turn.marks cycle).map fun mark => (returns.getLastD start, mark)) := by
  rw [Turn.marks, marked]
  refine ⟨?_, fun entry member => ?_, prompt, within⟩
  · rcases told with silent | ⟨expired, _⟩
    · rw [silent]
      exact closing _
    · rw [expired]
      exact closing _
  · obtain ⟨other, among, rfl⟩ := List.mem_map.mp member
    rcases List.mem_append.mp among with early | final
    · rcases told with silent | ⟨expired, late⟩
      · rw [silent] at early
        cases early
      · rw [expired] at early
        exact List.mem_singleton.mp early ▸ .expired late
    · exact List.mem_singleton.mp final ▸ follows

/-- The turn in which the last receive so far returned, or the first of the cycle. -/
theorem timely_of_fills (fills : turn.Fills policy (start + policy.batchTimeout) now cycle
      returns.length)
    (last : returns.getLastD start = now) (orderly : crew.Orderly)
    (found : crew.runner? id = some runner) (same : runner.policy = policy)
    (opens : crew.Opens id runner opening turn)
    (past : cycle ≤ turn.pipeline.counters.cycles)
    (prompt : ∀ began ∈ (start :: returns).dropLast, began ≤ start + policy.batchTimeout)
    (within : returns.length ≤ policy.cap) :
    Timely policy start cycle (crew.settle id runner turn).1
      (exchanges (start + policy.batchTimeout) start returns ++
        (turn.marks cycle).map fun mark => (now, mark)) := by
  subst last
  have settled : cycle ≤ (crew.settle id runner turn).1.pipeline.counters.cycles := by
    rwa [pipeline_settle]
  cases fills with
  | asks went silent size short timely =>
      have current := (orderly.of_settle_awaits found (opens.holds orderly found) went).2
      have asked : turn.marks cycle =
          [.asked (start + policy.batchTimeout - returns.getLastD start)] := by
        rw [Turn.marks, silent, Turn.mark?, went]
        exact congrArg Option.toList (if_pos rfl)
      rw [asked]
      refine .fills current settled (settled_found found went) same (fun _ => ?_) ⟨?_, short⟩
      · rwa [pipeline_settle]
      · intro began member
        rw [← dropLast_concat_getLastD] at member
        rcases List.mem_append.mp member with early | final
        · exact prompt began early
        · exact List.mem_singleton.mp final ▸ timely
  | @fails failure went number silent =>
      have closed : turn.marks cycle = [.ended (.error failure)] := by
        rw [Turn.marks, silent, Turn.mark?, went]
        exact congrArg Option.toList (if_pos number)
      rw [closed]
      refine .concluded settled (settle_rests orderly found opens went) ⟨rfl, ?_, prompt, within⟩
      intro entry member
      cases List.mem_singleton.mp member
      exact .failed
  | leaves went exits told =>
      obtain ⟨mark, marked, follows, closing⟩ := marked_of_leaves went exits
      exact timely_of_leaves went exits orderly found opens past
        (filled_of_told marked closing follows told prompt within)

theorem Timely.begins (orderly : crew.Orderly) (found : crew.runner? id = some runner)
    (stood : runner.standing = .queued)
    (stepped : crew.step start id cue = some (next, events)) :
    Timely runner.policy start (crew.pipeline.counters.cycles + 1) next
      ((marks (crew.pipeline.counters.cycles + 1) events).map fun mark => (start, mark)) := by
  obtain ⟨held, there, resumes⟩ := step_resumes stepped
  cases found.symm.trans there
  cases resumes with
  | asks idle => rcases idle with fresh | pausing <;> simp_all
  | leaves left => simp_all
  | takes taken =>
      have opens := taken.opens
      cases taken with
      | receives waits | processes waits => simp_all
      | begins _ holds =>
          have rests := current?_eq_none_of_stood found holds (by rw [stood]; rfl)
          have drained : crew.pipeline.batch.size = 0 :=
            orderly.empty_of_rests (.inr ⟨id, runner, holds, found, .inl stood⟩)
          have cycles := opens.concerns orderly found
          rw [List.nil_append, marks_settle]
          show Timely runner.policy start _ _
            (exchanges (start + runner.policy.batchTimeout) start [] ++ _)
          refine timely_of_fills (Pipeline.beginCycle_fills drained) rfl orderly found rfl opens ?_
            nofun (Nat.zero_le _)
          obtain ⟨number, _, _, _, ⟨_, _, cycles⟩ | ⟨busy, _⟩⟩ := cycles
          · exact Nat.le_of_eq cycles.symm
          · rw [underway?, rests] at busy
            cases busy

/-- After the fill phase each turn hands on another message or ends the cycle. -/
theorem timely_of_processed {rest : List (Nat × Mark)} {taken : Nat} {reason : FillExit}
    (filled : Filled policy start returns rest)
    (exits : policy.Exits (start + policy.batchTimeout) (returns.getLastD start) taken reason)
    (orderly : crew.Orderly) (found : crew.runner? id = some runner)
    (opens : crew.Opens id runner opening turn) (past : cycle ≤ turn.pipeline.counters.cycles)
    (silent : ∀ number, turn.told number = [])
    (which : turn.progress.Leaves cycle taken reason ∨
      ∃ failure, failure.cycle = cycle ∧ turn.progress = .ended (.error failure)) :
    Timely policy start cycle (crew.settle id runner turn).1
      (exchanges (start + policy.batchTimeout) start returns ++ rest ++
        (turn.marks cycle).map fun mark => (now, mark)) := by
  have single {mark : Mark} (marked : turn.mark? cycle = some mark) :
      turn.marks cycle = [mark] := by
    rw [Turn.marks, silent, marked]
    rfl
  rw [List.append_assoc]
  rcases which with leaves | ⟨failure, number, went⟩
  · obtain ⟨mark, marked, follows, _⟩ := marked_of_leaves leaves exits
    rw [single marked]
    exact timely_of_leaves leaves exits orderly found opens past (filled.concat follows)
  · rw [single (by rw [Turn.mark?, went]; exact if_pos number)]
    refine .concluded ?_ (settle_rests orderly found opens went) (filled.concat .failed)
    rwa [pipeline_settle]

/-- A cycle that is over stays so, and nothing more is seen of it. -/
theorem step_past (orderly : crew.Orderly) (past : cycle ≤ crew.pipeline.counters.cycles)
    (other : crew.underway? ≠ some cycle) (stepped : crew.step now id cue = some (next, events)) :
    marks cycle events = [] ∧ cycle ≤ next.pipeline.counters.cycles ∧
      next.underway? ≠ some cycle := by
  obtain ⟨runner, found, resumes⟩ := step_resumes stepped
  cases resumes with
  | asks idle waits told =>
      refine ⟨by rcases told with rfl | rfl <;> rfl, past, ?_⟩
      rw [underway?, current?_request_stand orderly found (rested_of_idle idle)
        (rests_of_waits waits)]
      exact other
  | leaves stood holds =>
      refine ⟨?_, past, ?_⟩
      · rw [leave_events, marks_append, release_unmarked]
        rfl
      · rw [underway?, (orderly.of_leaves holds).2]
        intro contrary
        cases contrary
  | @takes _ turn taken =>
      obtain ⟨number, turns, concerns, _, which⟩ := taken.opens.concerns orderly found
      have different : cycle ≠ number := by
        rcases which with ⟨_, number, _⟩ | ⟨underway, _⟩
        · omega
        · exact fun same => other (same ▸ underway)
      refine ⟨step_unmarked orderly stepped fun mine => ?_, ?_, ?_⟩
      · exact different (Prod.mk.inj (Option.some.inj (mine.symm.trans turns))).2
      · rw [pipeline_settle]
        exact Nat.le_trans past (taken.cycles_le orderly found)
      · rw [underway?_settle orderly found taken.opens]
        cases concerns with
        | awaits same => exact fun mine => different (same ▸ Option.some.inj mine).symm
        | completes | fails =>
            intro contrary
            cases contrary

theorem filling_concat (policy : Policy) (start : Nat) (returns : List Nat) (ended : Nat) :
    filling policy start returns ++ [(ended, .answered)] =
      exchanges (start + policy.batchTimeout) start (returns ++ [ended]) := by
  rw [filling, exchanges_concat, List.append_assoc]
  rfl

/-- While a runner waits for the answer to its call, no other does anything about its cycle. -/
theorem step_elsewhere (orderly : crew.Orderly)
    (stepped : crew.step now id cue = some (next, events))
    (current : crew.current? = some (other, await)) (different : id ≠ other) :
    marks cycle events = [] ∧ next.pipeline = crew.pipeline ∧
      next.current? = some (other, await) := by
  refine ⟨step_unmarked orderly stepped fun turns => ?_,
    orderly.undisturbed current different stepped⟩
  rw [turn?_of_current current] at turns
  exact different (Prod.mk.inj (Option.some.inj turns)).1.symm

/-- A step of any runner, the one in the cycle or another, takes the cycle on. -/
theorem Timely.step (timely : Timely policy start cycle crew log) (orderly : crew.Orderly)
    (stepped : crew.step now id cue = some (next, events)) :
    Timely policy start cycle next
      (log ++ (marks cycle events).map fun mark => (now, mark)) := by
  cases timely with
  | @fills other runner returns current past found same size receives =>
      by_cases self : id = other
      · subst self
        obtain ⟨held, opening, turn, there, stood, taken, rfl, rfl⟩ :=
          step_takes (current?_eq_some_iff.mp current).2 stepped
        cases found.symm.trans there
        have opens := taken.opens
        have past := Nat.le_trans past (taken.cycles_le orderly found)
        cases taken with
        | begins queued | processes queued => simp_all
        | @receives _ _ _ _ outcome waits =>
            cases stood.symm.trans waits
            -- the answer completes the last exchange, and the turn opens another or leaves
            have answered : marks cycle [.receiveEnded id cycle outcome] = [.answered] :=
              List.filterMap_cons_some (if_pos rfl)
            have length : (returns ++ [now]).length = returns.length + 1 := List.length_append
            rw [marks_append, answered, marks_settle, List.map_append, ← List.append_assoc,
              List.map_singleton, filling_concat]
            refine timely_of_fills ?_ (List.getLastD_concat ..) orderly found same opens past ?_ ?_
            · rw [length, same]
              exact Pipeline.received_fills size receives.short outcome
            · rw [← List.cons_append, List.dropLast_concat]
              exact receives.prompt
            · exact length ▸ receives.short
      · obtain ⟨unmarked, pipeline, stays⟩ := step_elsewhere orderly stepped current self
        rw [unmarked, List.map_nil, List.append_nil]
        obtain ⟨resumed, there, steps⟩ := step_cases stepped
        obtain ⟨standing, moved, lock, rfl⟩ := steps.stands
        refine .fills stays (pipeline ▸ past) ?_ same (pipeline ▸ size) receives
        rw [runner?_stand, if_neg (Ne.symm self)]
        exact found
  | @drains other taken dispatched reason message returns rest current past exits filled =>
      by_cases self : id = other
      · subst self
        obtain ⟨runner, opening, turn, found, stood, taken, rfl, rfl⟩ :=
          step_takes (current?_eq_some_iff.mp current).2 stepped
        have opens := taken.opens
        have past := Nat.le_trans past (taken.cycles_le orderly found)
        cases taken with
        | begins queued | receives queued => simp_all
        | @processes _ _ _ _ _ outcome waits =>
            cases stood.symm.trans waits
            have silent : marks cycle [.processEnded id cycle message outcome] = [] := rfl
            rw [marks_append, silent, List.nil_append, marks_settle]
            obtain ⟨told, leaves⟩ :=
              crew.pipeline.processed_leaves runner.allowed cycle taken reason dispatched outcome
            exact timely_of_processed filled exits orderly found opens past told leaves
      · obtain ⟨unmarked, pipeline, stays⟩ := step_elsewhere orderly stepped current self
        rw [unmarked, List.map_nil, List.append_nil]
        exact .drains stays (pipeline ▸ past) exits filled
  | concluded past other filled =>
      obtain ⟨unmarked, stays, rests⟩ := step_past orderly past other stepped
      rw [unmarked, List.map_nil, List.append_nil]
      exact .concluded stays rests filled

/-! ### What the owner does -/

/-- What happens to the crew outside of cycles leaves the cycle in progress alone. -/
structure Spares (crew next : Crew M) : Prop where
  current : next.current? = crew.current?
  cycles : next.pipeline.counters.cycles = crew.pipeline.counters.cycles
  runners : ∀ {id : Nat} {runner : Runner M}, crew.runner? id = some runner →
    ∃ after, next.runner? id = some after ∧ after.policy = runner.policy ∧
      (after.allowed = true → runner.allowed = true ∧ next.pipeline.batch = crew.pipeline.batch)

theorem Timely.spared (timely : Timely policy start cycle crew log) (spares : crew.Spares next) :
    Timely policy start cycle next log := by
  cases timely with
  | fills current past found same size receives =>
      obtain ⟨after, there, policy, batch⟩ := spares.runners found
      refine .fills (spares.current.trans current) (spares.cycles ▸ past) there
        (policy.trans same) (fun allowed => ?_) receives
      obtain ⟨before, kept⟩ := batch allowed
      rw [kept]
      exact size before
  | drains current past exits filled =>
      exact .drains (spares.current.trans current) (spares.cycles ▸ past) exits filled
  | concluded past other filled =>
      refine .concluded (spares.cycles ▸ past) ?_ filled
      rw [underway?, spares.current]
      exact other

theorem spares_withdraw (crew : Crew M) (id : Nat) : crew.Spares (crew.withdraw id) where
  current := current?_congr rfl (awaitOf?_withdraw crew id)
  cycles := rfl
  runners {other runner} found := by
    rw [runner?_withdraw]
    split
    · rename_i same
      subst same
      rw [found]
      exact ⟨_, rfl, rfl, nofun⟩
    · exact ⟨runner, found, rfl, fun allowed => ⟨allowed, rfl⟩⟩

theorem spares_hire (crew : Crew M) (policy : Policy) (repeats : Bool) :
    crew.Spares (crew.hire policy repeats) where
  current := current?_congr rfl (awaitOf?_hire crew policy repeats)
  cycles := rfl
  runners {other runner} found := by
    rw [runner?_hire, if_neg (Nat.ne_of_lt (List.getElem?_eq_some_iff.mp found).1)]
    exact ⟨runner, found, rfl, fun allowed => ⟨allowed, rfl⟩⟩

end Crew

namespace Crew

variable {crew last : Crew M} {id start cycle : Nat} {runner : Runner M} {policy : Policy}
  {log : List (Nat × Mark)} {moves later : List (Nat × DrillMove M)}
  {timed : List (Nat × Event M)}

theorem Timely.drill {now : Nat} {move : DrillMove M} {next : Crew M} {events : List (Event M)}
    (timely : Timely policy start cycle crew log) (orderly : crew.Orderly)
    (moved : crew.drill now move = some (next, events)) :
    Timely policy start cycle next (log ++ (marks cycle events).map fun mark => (now, mark)) := by
  cases move with
  | call policy =>
      cases moved
      rw [marks, List.filterMap_nil, List.map_nil, List.append_nil]
      exact timely.spared (spares_hire ..)
  | resume id cue => exact timely.step orderly moved

theorem timely_of_watch (name : String) (reporter : Reporter) {events : List (Event M)}
    (ran : (make name reporter).run? moves = some (crew, events))
    (found : crew.runner? id = some runner) (stood : runner.standing = .queued)
    (watched : crew.watch? ((start, .resume id .resume) :: later) = some (last, timed)) :
    Timely runner.policy start (crew.pipeline.counters.cycles + 1) last
      (record (crew.pipeline.counters.cycles + 1) timed) := by
  have orderly := run?_orderly name reporter ran
  obtain ⟨next, seen, more, began, went, rfl⟩ := follow?_cons_iff.mp watched
  obtain ⟨events, stepped, rfl⟩ := clocked_eq_some_iff.mp began
  have begins := Timely.begins orderly found stood stepped
  rw [record_append, record_clocked]
  exact record_induction Orderly (Timely runner.policy start _) drill_orderly
    (fun orderly timely moved => timely.drill orderly moved) (orderly.step stepped) begins went

end Crew

namespace Accumulator

variable {accumulator before after last : Accumulator M} {now id start cycle : Nat}
  {runner : Runner M} {policy : Policy} {log : List (Nat × Mark)} {move : Move M}
  {moves later : List (Nat × Move M)} {events : List (Event M)} {timed : List (Nat × Event M)}

theorem Carries.unmarked (carried : before.Carries id after events) (cycle : Nat) :
    marks cycle events = [] := by
  refine List.filterMap_eq_nil_iff.mpr fun event member => ?_
  have called := carried.isOfCall member
  cases event with
  | logged notice => cases notice <;> first | rfl | cases called
  | _ => first | rfl | cases called

theorem Carries.spares (orderly : before.Orderly) (carried : before.Carries id after events) :
    before.crew.Spares after.crew := by
  cases carried with
  | passes _ _ life | starts _ _ life | fails _ _ life =>
      have crew : after.crew = before.crew := congrArg Life.crew life
      exact crew ▸ ⟨rfl, rfl, fun found => ⟨_, found, rfl, fun allowed => ⟨allowed, rfl⟩⟩⟩
  | launches now _ _ life =>
      have hired := Crew.spares_hire (before.crew.markStarted now) before.policy true
      rw [show after.crew = _ from congrArg Life.crew life]
      exact ⟨hired.current, hired.cycles, hired.runners⟩
  | stops _ _ _ life =>
      rw [show after.crew = _ from congrArg Life.crew life]
      exact Crew.spares_withdraw ..
  | finishes staged _ life =>
      have inactive := orderly.inactive (by simp [orderly.staged staged])
      rw [show after.crew = before.crew.cleared from congrArg Life.crew life]
      refine ⟨rfl, rfl, fun {id runner} found => ⟨runner, found, rfl, fun allowed => ?_⟩⟩
      have withdrawn := orderly.withdrawn inactive id
      rw [Crew.allows_of_found found, allowed] at withdrawn
      cases withdrawn

theorem release_spares (accumulator : Accumulator M) :
    accumulator.crew.Spares accumulator.release.crew := by
  unfold release
  split
  · exact Crew.spares_withdraw ..
  · exact ⟨rfl, rfl, fun found => ⟨_, found, rfl, fun allowed => ⟨allowed, rfl⟩⟩⟩

theorem timely_step (timely : Crew.Timely policy start cycle before.crew log)
    (orderly : before.Orderly) (stepped : before.step now move = some (after, events)) :
    Crew.Timely policy start cycle after.crew
      (log ++ (marks cycle events).map fun mark => (now, mark)) := by
  cases orderly.step_evolves stepped with
  | carries carried =>
      rw [carried.unmarked, List.map_nil, List.append_nil]
      exact timely.spared (carried.spares orderly)
  | works resumed => exact timely.step orderly.crew resumed
  | drops =>
      rw [marks, List.filterMap_nil, List.map_nil, List.append_nil]
      exact timely.spared before.release_spares

theorem timely_of_watch (name : String) (policy : Policy) (reporter : Reporter)
    (ran : (make name policy reporter).run? moves = some (accumulator, events))
    (found : accumulator.crew.runner? id = some runner) (stood : runner.standing = .queued)
    (watched : accumulator.watch? ((start, .worker id .resume) :: later) = some (last, timed)) :
    Crew.Timely runner.policy start (accumulator.crew.pipeline.counters.cycles + 1) last.crew
      (record (accumulator.crew.pipeline.counters.cycles + 1) timed) := by
  have orderly := run?_orderly name policy reporter ran
  obtain ⟨next, seen, more, began, went, rfl⟩ := follow?_cons_iff.mp watched
  obtain ⟨events, stepped, rfl⟩ := clocked_eq_some_iff.mp began
  have begins : Crew.Timely runner.policy start
      (accumulator.crew.pipeline.counters.cycles + 1) next.crew
      ((marks (accumulator.crew.pipeline.counters.cycles + 1) events).map
        fun mark => (start, mark)) := by
    simp only [step] at stepped
    split at stepped
    · cases stepped
    · rename_i resumed
      cases stepped
      exact .begins orderly.crew found stood resumed
  rw [record_append, record_clocked]
  exact record_induction Orderly
    (fun accumulator => Crew.Timely runner.policy start _ accumulator.crew) Orderly.step
    (fun orderly timely moved => timely_step timely orderly moved) (orderly.step stepped) begins
    went

/-- Every cycle keeps to one deadline, whatever the source does and whoever else is at work:
the worker of an accumulator that begins its fill phase at `start`, and each of the runners of
single cycles. -/
theorem one_deadline_per_cycle :
    (∀ (name : String) (policy : Policy) (reporter : Reporter) (moves later : List (Nat × Move M))
        (accumulator last : Accumulator M) (events : List (Event M))
        (timed : List (Nat × Event M)) (id start : Nat) (runner : Runner M),
      (make name policy reporter).run? moves = some (accumulator, events) →
      accumulator.crew.runner? id = some runner → runner.standing = .queued →
      accumulator.watch? ((start, .worker id .resume) :: later) = some (last, timed) →
        KeepsDeadline runner.policy start
          (record (accumulator.crew.pipeline.counters.cycles + 1) timed)) ∧
    ∀ (name : String) (reporter : Reporter) (moves later : List (Nat × DrillMove M))
        (crew last : Crew M) (events : List (Event M)) (timed : List (Nat × Event M))
        (id start : Nat) (runner : Runner M),
      (Crew.make name reporter).run? moves = some (crew, events) →
      crew.runner? id = some runner → runner.standing = .queued →
      crew.watch? ((start, .resume id .resume) :: later) = some (last, timed) →
        KeepsDeadline runner.policy start (record (crew.pipeline.counters.cycles + 1) timed) := by
  constructor
  · intro name policy reporter moves later accumulator last events timed id start runner ran
      found stood watched
    exact (timely_of_watch name policy reporter ran found stood watched).keepsDeadline
  · intro name reporter moves later crew last events timed id start runner ran found stood watched
    exact (Crew.timely_of_watch name reporter ran found stood watched).keepsDeadline

/-- The worker is about to begin its first cycle. -/
def beforeFill : List (Nat × Move Nat) :=
  [(0, .begin .start), (0, .answer 0 (.ok ())), (0, .answer 0 (.ok ())), (0, .answer 0 (.ok ())),
    (1, .worker 0 .resume)]

/-- The second receive returns long after the deadline, when the accumulator is stopping. -/
def lateReturn : List (Nat × Move Nat) :=
  [(5, .worker 0 .resume), (7, .worker 0 (.received (.returned (some 7)))), (8, .begin .stop),
    (90, .worker 0 (.received (.returned none)))]

/-- The second receive returns at the deadline; the third has no time left. -/
def noTimeLeft : List (Nat × DrillMove Nat) :=
  [(0, .resume 0 .resume), (10, .resume 0 (.received (.returned (some 7)))),
    (50, .resume 0 (.received (.returned (some 8)))), (50, .resume 0 (.received (.returned none)))]

theorem one_deadline_per_cycle_of_late_return :
    (∃ accumulator events last timed,
      (make "pair" ⟨3, none, 50⟩ (.logging "pair")).run? beforeFill = some (accumulator, events) ∧
      accumulator.watch? lateReturn = some (last, timed) ∧
      sourceCalls (record 1 timed) = [(5, 50), (7, 48)] ∧
      sourceReturns (record 1 timed) = [7, 90] ∧
      ((sourceReturns (record 1 timed)).filter fun ended => 5 + 50 < ended).length ≤ 1) ∧
    ∃ crew events last timed,
      (Crew.make "solo" (.logging "solo")).run? [(0, .call ⟨3, none, 50⟩), (0, .resume 0 .resume)] =
        some (crew, events) ∧
      crew.watch? noTimeLeft = some (last, timed) ∧
      sourceCalls (record 1 timed) = [(0, 50), (10, 40), (50, 0)] ∧
      (fillEnd? (record 1 timed)).getD 50 ≤ 0 + 50 := by
  constructor
  · obtain ⟨accumulator, events, last, timed, ran, found, watched, unused, calls, returns⟩ :
        ∃ accumulator events last timed,
          (make "pair" ⟨3, none, 50⟩ (.logging "pair")).run? beforeFill =
            some (accumulator, events) ∧
          accumulator.crew.runner? 0 =
            some { policy := ⟨3, none, 50⟩, repeats := true, standing := .queued } ∧
          accumulator.watch? lateReturn = some (last, timed) ∧
          accumulator.crew.pipeline.counters.cycles = 0 ∧
          sourceCalls (record 1 timed) = [(5, 50), (7, 48)] ∧
          sourceReturns (record 1 timed) = [7, 90] :=
      ⟨_, _, _, _, rfl, rfl, rfl, rfl, rfl, rfl⟩
    have keeps := one_deadline_per_cycle.1 _ _ _ _ _ _ _ _ _ _ _ _ ran found rfl watched
    rw [unused] at keeps
    exact ⟨accumulator, events, last, timed, ran, watched, calls, returns, keeps.overdue⟩
  · obtain ⟨crew, events, last, timed, ran, found, watched, unused, calls, returns⟩ :
        ∃ crew events last timed,
          (Crew.make "solo" (.logging "solo")).run?
            [(0, .call ⟨3, none, 50⟩), (0, .resume 0 .resume)] = some (crew, events) ∧
          crew.runner? 0 =
            some { policy := ⟨3, none, 50⟩, repeats := false, standing := .queued } ∧
          crew.watch? noTimeLeft = some (last, timed) ∧
          crew.pipeline.counters.cycles = 0 ∧
          sourceCalls (record 1 timed) = [(0, 50), (10, 40), (50, 0)] ∧
          sourceReturns (record 1 timed) = [10, 50, 50] :=
      ⟨_, _, _, _, rfl, rfl, rfl, rfl, rfl, rfl⟩
    have keeps := one_deadline_per_cycle.2 _ _ _ _ _ _ _ _ _ _ _ ran found rfl watched
    rw [unused] at keeps
    have onTime : OnTime (record 1 timed) 50 := by
      intro index call called
      rw [calls] at called
      rw [returns]
      match index with
      | 0 | 1 | 2 => cases called; decide
      | index + 3 => cases called
    exact ⟨crew, events, last, timed, ran, watched, calls, (keeps.prompt 50 onTime).1⟩

end Accumulator

end Batching

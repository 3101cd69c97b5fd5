import Batching.Proofs.PolicyInForce

namespace Batching

/-! How a fill phase stands to its caps.

A cycle that waits for the source has taken fewer messages than complete its batch, and while
its runner may work the batch holds just these.  So the only cap that ever ends a fill phase is
the lower one, and it is the reason that the cycle keeps until its report.
-/

variable {M : Type}

/-- What a policy says of a call that one of its cycles waits for, with that many messages in the
batch. -/
def Await.Fits (policy : Policy) (allowed : Bool) (held : Nat) : Await M → Prop
  | .receive _ index _ _ => index < policy.cap ∧ (allowed = true → held = index)
  | .process _ _ reason _ _ => reason = .outBatchSize → policy.capExit = .outBatchSize

def Progress.Fits (policy : Policy) (allowed : Bool) (held : Nat) : Progress M → Prop
  | .awaits await => await.Fits policy allowed held
  | .ended (.ok report) => report.reason = .outBatchSize → policy.capExit = .outBatchSize
  | .ended (.error _) => True

section

variable {policy : Policy} {deadline now cycle index taken held : Nat} {reason : FillExit}
  {progress : Progress M} {turn : Turn M}

theorem Policy.Exits.capExit_eq (exits : policy.Exits deadline now taken reason)
    (content : reason = .outBatchSize) : policy.capExit = .outBatchSize := by
  cases exits with
  | capped => exact content
  | expired | timedOut | stopped => cases content

theorem Progress.Leaves.fits (leaves : progress.Leaves cycle taken reason)
    (capped : reason = .outBatchSize → policy.capExit = .outBatchSize) (allowed : Bool) :
    progress.Fits policy allowed held := by
  cases leaves with
  | hands | ends => exact capped

theorem Turn.Fills.fits (fills : turn.Fills policy deadline now cycle index) (allowed : Bool) :
    turn.progress.Fits policy allowed turn.pipeline.batch.size := by
  cases fills with
  | asks went _ size short =>
      rw [went]
      exact ⟨short, fun _ => size⟩
  | leaves went exits => exact went.fits exits.capExit_eq allowed
  | fails went =>
      rw [went]
      exact trivial

end

namespace Crew

variable {crew next last : Crew M} {now id : Nat} {runner : Runner M} {cue : Cue M}
  {opening events more : List (Event M)} {turn : Turn M} {policy : Policy}

/-- The call in progress is one that the policy of its runner allows. -/
def Measured (crew : Crew M) : Prop :=
  ∀ (id : Nat) (await : Await M) (runner : Runner M), crew.current? = some (id, await) →
    crew.runner? id = some runner →
      await.Fits runner.policy runner.allowed crew.pipeline.batch.size

theorem measured_make (name : String) (reporter : Reporter) :
    (make name reporter : Crew M).Measured := by
  intro id await runner current
  cases current

theorem Measured.of_stood (measured : crew.Measured) (orderly : crew.Orderly)
    (found : crew.runner? id = some runner) {await : Await M}
    (stood : runner.standing = .awaiting await) :
    await.Fits runner.policy runner.allowed crew.pipeline.batch.size :=
  measured id await runner (orderly.current? (awaitOf?_eq_some_of_stood found stood)) found

theorem Measured.takes (measured : crew.Measured) (orderly : crew.Orderly)
    (found : crew.runner? id = some runner)
    (taken : crew.Takes now id runner cue opening turn) :
    turn.progress.Fits runner.policy runner.allowed turn.pipeline.batch.size := by
  cases taken with
  | begins stood holds =>
      have drained : crew.pipeline.batch.size = 0 :=
        orderly.empty_of_rests (.inr ⟨id, runner, holds, found, .inl stood⟩)
      exact (Pipeline.beginCycle_fills drained).fits runner.allowed
  | @receives _ _ _ _ outcome stood =>
      obtain ⟨short, size⟩ := measured.of_stood orderly found stood
      exact (Pipeline.received_fills size short outcome).fits runner.allowed
  | @processes cycle received dispatched reason _ outcome stood =>
      have capped := measured.of_stood orderly found stood
      obtain ⟨_, leaves | ⟨failure, _, failed⟩⟩ := crew.pipeline.processed_leaves runner.allowed
        cycle received reason dispatched outcome
      · exact leaves.fits capped runner.allowed
      · rw [failed]
        exact trivial

theorem Measured.settles (measured : crew.Measured) (orderly : crew.Orderly)
    (found : crew.runner? id = some runner)
    (taken : crew.Takes now id runner cue opening turn) :
    (crew.settle id runner turn).1.Measured := by
  have fits := measured.takes orderly found taken
  have opens := taken.opens
  have holds := opens.holds orderly found
  intro other await held current there
  cases went : turn.progress with
  | ended result =>
      have rests := (orderly.of_settle_ended runner holds went (opens.drained went)).2
      cases rests.symm.trans current
  | awaits call =>
      have called := (orderly.of_settle_awaits found holds went).2
      cases called.symm.trans current
      cases (settled_found found went).symm.trans there
      rw [went] at fits
      rwa [pipeline_settle]

/-- What a runner does without a cycle leaves the cycle in progress alone. -/
theorem Measured.asks (measured : crew.Measured) (orderly : crew.Orderly)
    (found : crew.runner? id = some runner)
    (idle : runner.standing = .fresh ∨ runner.standing = .pausing) {standing : Standing M}
    (rests : standing.await? = none) : ((crew.request id).stand id standing).Measured := by
  intro other await held current there
  rw [current?_request_stand orderly found (rested_of_idle idle) rests] at current
  have different : other ≠ id := by
    rintro rfl
    have waits := (current?_eq_some_iff.mp current).2
    rw [awaitOf?_eq_none_of_stood found (rested_of_idle idle)] at waits
    cases waits
  rw [runner?_stand, if_neg different] at there
  exact measured other await held current there

theorem Measured.step (measured : crew.Measured) (orderly : crew.Orderly)
    (stepped : crew.step now id cue = some (next, events)) : next.Measured := by
  obtain ⟨runner, found, resumes⟩ := step_resumes stepped
  cases resumes with
  | asks idle waits => exact measured.asks orderly found idle (rests_of_waits waits)
  | takes taken => exact measured.settles orderly found taken
  | leaves _ holds =>
      intro other await held current
      cases (orderly.of_leaves holds).2.symm.trans current

theorem Measured.spared (measured : crew.Measured) (spares : crew.Spares next) :
    next.Measured := by
  intro other await held current there
  rw [spares.current] at current
  obtain ⟨before, found, _⟩ := Option.bind_eq_some_iff.mp (current?_eq_some_iff.mp current).2
  have fits := measured other await before current found
  obtain ⟨after, same, policy, batch⟩ := spares.runners found
  cases same.symm.trans there
  cases await with
  | process => exact policy ▸ fits
  | receive =>
      refine ⟨policy ▸ fits.1, fun allowed => ?_⟩
      obtain ⟨before, kept⟩ := batch allowed
      rw [kept]
      exact fits.2 before

/-! ### The fill phases that a content cap ends -/

/-- Runner `id` has ended a fill phase for that reason: it hands on what was taken, or has
reported its cycle. -/
def FillEnded (crew : Crew M) (events : List (Event M)) (id : Nat) (reason : FillExit) : Prop :=
  (∃ cycle taken dispatched message,
    crew.awaitOf? id = some (.process cycle taken reason dispatched message)) ∨
  ∃ report, .cycleEnded id (.ok report) ∈ events ∧ report.reason = reason

/-- From one moment to another runners are hired and none is given another policy, and only those
report the content cap whose policy has the lower cap there. -/
structure Reports (crew : Crew M) (events : List (Event M)) (last : Crew M) : Prop where
  hires : ∃ added, last.policies = crew.policies ++ added
  content : ∀ id report, .cycleEnded id (.ok report) ∈ events → report.reason = .outBatchSize →
    ∃ policy, last.policies[id]? = some policy ∧ policy.capExit = .outBatchSize

theorem reports_of_silent (hires : ∃ added, last.policies = crew.policies ++ added)
    (silent : ∀ id result, .cycleEnded id result ∉ events) : crew.Reports events last :=
  ⟨hires, fun id _ ended _ => absurd ended (silent id _)⟩

theorem reports_refl (crew : Crew M) : crew.Reports [] crew :=
  reports_of_silent ⟨[], (List.append_nil _).symm⟩ fun _ _ => List.not_mem_nil

theorem Reports.policies_on (reports : crew.Reports events last)
    (built : crew.policies[id]? = some policy) : last.policies[id]? = some policy := by
  obtain ⟨added, grown⟩ := reports.hires
  rw [grown, List.getElem?_append_left (List.getElem?_eq_some_iff.mp built).1, built]

theorem Reports.trans (early : crew.Reports events next) (late : next.Reports more last) :
    crew.Reports (events ++ more) last := by
  refine ⟨?_, fun id report ended content => ?_⟩
  · obtain ⟨first, begun⟩ := early.hires
    obtain ⟨rest, grown⟩ := late.hires
    exact ⟨first ++ rest, by rw [grown, begun, List.append_assoc]⟩
  · rcases List.mem_append.mp ended with before | after
    · obtain ⟨policy, built, capped⟩ := early.content id report before content
      exact ⟨policy, late.policies_on built, capped⟩
    · exact late.content id report after content

theorem mem_results {result : Except CycleFailure CycleReport}
    (ended : .cycleEnded id result ∈ events) : (id, result) ∈ results events :=
  List.mem_filterMap.mpr ⟨_, ended, rfl⟩

/-- A step ends no cycle but the one whose turn it takes. -/
theorem Resumes.result_cases (resumes : crew.Resumes now id runner cue next events) {other : Nat}
    {result : Except CycleFailure CycleReport} (ended : .cycleEnded other result ∈ events) :
    ∃ opening turn, crew.Takes now id runner cue opening turn ∧ other = id ∧
      turn.progress = .ended result := by
  have listed := mem_results ended
  cases resumes with
  | asks _ _ told =>
      rcases told with rfl | rfl <;> cases listed
  | leaves =>
      rw [leave_events, results_append, results_of_aftermath (release_aftermath _)] at listed
      cases listed
  | @takes opening turn taken =>
      have silent : results opening = [] := by cases taken <;> rfl
      rw [results_append, silent, List.nil_append, results_of_settle] at listed
      obtain ⟨given, closed, same⟩ := List.mem_map.mp listed
      cases same
      refine ⟨opening, turn, taken, rfl, ?_⟩
      cases went : turn.progress with
      | awaits => simp [Turn.result?, went] at closed
      | ended => simpa [Turn.result?, went, eq_comm] using closed

theorem Measured.reports (measured : crew.Measured) (orderly : crew.Orderly)
    (stepped : crew.step now id cue = some (next, events)) : crew.Reports events next := by
  have same := step_policies stepped
  obtain ⟨runner, found, resumes⟩ := step_resumes stepped
  refine ⟨⟨[], by rw [same, List.append_nil]⟩, fun other report ended content => ?_⟩
  obtain ⟨opening, turn, taken, rfl, went⟩ := resumes.result_cases ended
  have fits := measured.takes orderly found taken
  rw [went] at fits
  refine ⟨runner.policy, ?_, fits content⟩
  rw [same, policies, List.getElem?_map, ← runner?, found]
  rfl

/-- Whoever ends a fill phase by the content cap has a policy with the lower cap there. -/
theorem Reports.of_fillEnded (reports : crew.Reports events last) (measured : last.Measured)
    (orderly : last.Orderly) (ended : last.FillEnded events id .outBatchSize) :
    ∃ policy, last.policies[id]? = some policy ∧ policy.capExit = .outBatchSize := by
  rcases ended with ⟨cycle, taken, dispatched, message, waits⟩ | ⟨report, closed, content⟩
  · obtain ⟨runner, found, _⟩ := Option.bind_eq_some_iff.mp waits
    refine ⟨runner.policy, ?_, measured id _ runner (orderly.current? waits) found rfl⟩
    rw [policies, List.getElem?_map, ← runner?, found]
    rfl
  · exact reports.content id report closed content

/-! ### Runs -/

theorem drill_measured {move : DrillMove M} (orderly : crew.Orderly) (measured : crew.Measured)
    (moved : crew.drill now move = some (next, events)) :
    next.Measured ∧ crew.Reports events next := by
  cases move with
  | call policy =>
      cases moved
      exact ⟨measured.spared (spares_hire ..),
        reports_of_silent ⟨[policy], policies_hire ..⟩ fun _ _ => List.not_mem_nil⟩
  | resume id cue => exact ⟨measured.step orderly moved, measured.reports orderly moved⟩

theorem run?_reports (name : String) (reporter : Reporter) {moves : List (Nat × DrillMove M)}
    (ran : (make name reporter).run? moves = some (last, events)) :
    (last.Orderly ∧ last.Measured) ∧ (make name reporter).Reports events last :=
  follow?_induction (fun crew => crew.Orderly ∧ crew.Measured)
    (fun crew events last => crew.Reports events last)
    (fun ⟨orderly, measured⟩ moved =>
      ⟨drill_orderly orderly moved, (drill_measured orderly measured moved).1⟩)
    (fun _ => reports_refl _)
    (fun ⟨orderly, measured⟩ moved _ rest => (drill_measured orderly measured moved).2.trans rest)
    ⟨orderly_make _ reporter rfl, measured_make name reporter⟩ ran

end Crew

namespace Accumulator

variable {before after last : Accumulator M} {now id : Nat} {move : Move M}
  {events : List (Event M)} {moves : List (Nat × Move M)}

theorem step_measured (orderly : before.Orderly) (measured : before.crew.Measured)
    (stepped : before.step now move = some (after, events)) :
    after.crew.Measured ∧ before.crew.Reports events after.crew := by
  have evolves := orderly.step_evolves stepped
  have hires : ∃ added, after.crew.policies = before.crew.policies ++ added := by
    rcases evolves.policies with same | hired
    · exact ⟨[], by rw [same, List.append_nil]⟩
    · exact ⟨_, hired⟩
  cases evolves with
  | carries carried =>
      refine ⟨measured.spared (carried.spares orderly), ?_⟩
      exact Crew.reports_of_silent hires fun _ _ ended => nomatch carried.isOfCall ended
  | works resumed =>
      exact ⟨measured.step orderly.crew resumed, measured.reports orderly.crew resumed⟩
  | drops =>
      exact ⟨measured.spared before.release_spares,
        Crew.reports_of_silent hires fun _ _ => List.not_mem_nil⟩

theorem run?_reports (name : String) (policy : Policy) (reporter : Reporter)
    (ran : (make name policy reporter).run? moves = some (last, events)) :
    (last.Orderly ∧ last.crew.Measured) ∧
      (make name policy reporter).crew.Reports events last.crew :=
  follow?_induction (fun accumulator => accumulator.Orderly ∧ accumulator.crew.Measured)
    (fun start events last => start.crew.Reports events last.crew)
    (fun ⟨orderly, measured⟩ stepped =>
      ⟨orderly.step stepped, (step_measured orderly measured stepped).1⟩)
    (fun _ => Crew.reports_refl _)
    (fun ⟨orderly, measured⟩ stepped _ rest =>
      (step_measured orderly measured stepped).2.trans rest)
    ⟨orderly_make name policy reporter, Crew.measured_make name reporter⟩ ran

end Accumulator

end Batching

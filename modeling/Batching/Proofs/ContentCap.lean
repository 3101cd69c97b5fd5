import Batching.Overrides
import Batching.Proofs.FailureIsolation
import Batching.Proofs.PolicyMap

namespace Batching

/-! A content cap that can never fire.

The warning of a configuration is a comparison of two numbers.  It is given exactly when no fill
phase of any run ends by the content cap, and then the runs are those without the cap.  The runs
that do end so need nothing of the source but that it answers at once.
-/

variable {M : Type}

/-- Checking the configuration warns of its content cap. -/
def Config.Warns (config : Config) : Prop :=
  "out_batch_size exceeds batch_size and can never fire" ∈
    config.validate.2.map fun notice => notice.entry.message

/-- The one policy in the place of the other. -/
def Policy.exchange (old new : Policy) : Policy → Policy :=
  fun policy => if policy = old then new else policy

/-- Every call has this policy. -/
def CallsUnder (policy : Policy) (moves : List (Nat × DrillMove M)) : Prop :=
  ∀ entry ∈ moves, ∀ called, entry.2 = .call called → called = policy

/-! ### The settings -/

section

variable {config : Config} {settings : Settings}

theorem Config.warns_iff (named : Text.isBlankText config.name = false) :
    config.Warns ↔ config.batch.contentCapIsIdle = true := by
  cases idle : config.batch.contentCapIsIdle <;>
    simp [Warns, validate, named, idle, Notice.entry]

theorem Settings.contentCapIsIdle_iff (enabled : 0 < settings.outBatchSize) :
    settings.contentCapIsIdle = true ↔ settings.batchSize < settings.outBatchSize := by
  simp [contentCapIsIdle, enabled]

theorem Policy.ofSettings_outBatchSize (enabled : 0 < settings.outBatchSize) :
    (Policy.ofSettings settings).outBatchSize = some ⟨settings.outBatchSize, enabled⟩ :=
  dif_pos enabled

theorem Policy.ofSettings_capExit (enabled : 0 < settings.outBatchSize) :
    (Policy.ofSettings settings).capExit = .outBatchSize ↔
      settings.outBatchSize ≤ settings.batchSize := by
  simp only [capExit, ofSettings_outBatchSize enabled]
  show (if settings.outBatchSize ≤ settings.batchSize then _ else _) = _ ↔ _
  split <;> simp_all

theorem Policy.ofSettings_cap (enabled : 0 < settings.outBatchSize) :
    (Policy.ofSettings settings).cap = min settings.batchSize settings.outBatchSize := by
  simp only [cap, ofSettings_outBatchSize enabled]
  rfl

theorem Policy.cap_pos_of_content (enabled : 0 < settings.outBatchSize)
    (content : (Policy.ofSettings settings).capExit = .outBatchSize) :
    0 < (Policy.ofSettings settings).cap := by
  have lower := (ofSettings_capExit enabled).mp content
  rw [ofSettings_cap enabled, Nat.min_eq_right lower]
  exact enabled

theorem Config.warns_iff_capExit (named : Text.isBlankText config.name = false)
    (enabled : 0 < config.batch.outBatchSize) :
    config.Warns ↔ (Policy.ofSettings config.batch).capExit ≠ .outBatchSize := by
  rw [warns_iff named, Settings.contentCapIsIdle_iff enabled, ne_eq,
    Policy.ofSettings_capExit enabled, Nat.not_le]

/-- Without a content cap that cannot take effect a policy limits fill phases as before. -/
theorem Policy.uncapped_alike (enabled : 0 < settings.outBatchSize)
    (idle : settings.batchSize < settings.outBatchSize) :
    (Policy.ofSettings { settings with outBatchSize := 0 }).Alike (Policy.ofSettings settings) where
  cap := by
    rw [ofSettings_cap enabled, Nat.min_eq_left (Nat.le_of_lt idle)]
    rfl
  capExit := by
    simp only [capExit, ofSettings_outBatchSize enabled]
    exact (if_neg (Nat.not_le_of_lt idle)).symm
  batchTimeout := rfl

theorem Policy.exchange_alike {old new : Policy} (alike : new.Alike old) (policy : Policy) :
    (Policy.exchange old new policy).Alike policy := by
  unfold exchange
  split
  · rename_i same
    exact same ▸ alike
  · exact ⟨rfl, rfl, rfl⟩

/-- Where the cap is warned of, the policy without it limits fill phases as before. -/
theorem Config.Warns.exchange_alike (named : Text.isBlankText config.name = false)
    (enabled : 0 < config.batch.outBatchSize) (warned : config.Warns) (policy : Policy) :
    (Policy.exchange (.ofSettings config.batch)
      (.ofSettings { config.batch with outBatchSize := 0 }) policy).Alike policy := by
  have idle := (Settings.contentCapIsIdle_iff enabled).mp ((warns_iff named).mp warned)
  exact Policy.exchange_alike (Policy.uncapped_alike enabled idle) policy

end

/-! ### A fill phase that ends by its cap -/

/-- A source that answers at once, always with the same message. -/
def Behaviour.constant (message : M) : Behaviour (Option M) where
  delay _ := 0
  outcome _ := .returned (some message)

theorem Behaviour.constant_elapsed (message : M) (count : Nat) :
    (Behaviour.constant message).elapsed count = 0 := by
  induction count with
  | zero => rfl
  | succ count ih => exact ih

theorem Policy.fillLength_constant (policy : Policy) (message : M) :
    policy.fillLength (.constant message) = policy.cap := by
  have open_of_ne (count : Nat) (other : count ≠ policy.cap) :
      ¬ policy.FillEnds (.constant message) count := by
    have given : (Behaviour.constant message).message? count = some message := rfl
    simp [FillEnds, other, given, Behaviour.constant_elapsed]
  apply fillLength_eq_iff.mpr
  exact ⟨.inl rfl, fun earlier less => open_of_ne earlier (Nat.ne_of_lt less)⟩

/-- Nothing but resumptions of runners. -/
def OnlyResumes (moves : List (Nat × DrillMove M)) : Prop :=
  ∀ entry ∈ moves, ∃ now id cue, entry = (now, .resume id cue)

namespace Crew

variable {crew : Crew M} {id : Nat} {runner : Runner M} {policy : Policy}

/-- With a source that answers at once the cap ends the fill phase, and the cycle hands on the
first message. -/
theorem Begins.reaches_cap (begins : crew.Begins id runner) (positive : 0 < runner.policy.cap)
    (message : M) :
    ∃ moves after seen, OnlyResumes moves ∧ crew.run? moves = some (after, seen) ∧
      ∀ events, after.FillEnded events id runner.policy.capExit := by
  have full := runner.policy.fillLength_constant message
  have exit : runner.policy.fillExit (.constant message) = .ok runner.policy.capExit := if_pos full
  have reaches := begins.filled (.constant message) 0
  have size := Pipeline.filling_size begins.drained
    (Nat.le_refl (runner.policy.fillLength (.constant message)))
  rw [Pipeline.filledTurn_of_ok _ exit] at reaches
  cases batch : (crew.pipeline.filling (.constant message)
      (runner.policy.fillLength (.constant message))).batch.toList with
  | nil =>
      rw [Batch.size_eq_length, batch, full] at size
      exact absurd size (Nat.ne_of_lt positive)
  | cons first rest =>
      rw [Pipeline.drain_of_cons _ _ _ _ batch] at reaches
      obtain ⟨after, seen, ran, _, _, current, _⟩ := reaches.waiting begins.found begins.holds rfl
      have hands (events : List (Event M)) :
          after.FillEnded events id runner.policy.capExit :=
        .inl ⟨_, _, _, _, (current?_eq_some_iff.mp current).2⟩
      refine ⟨_, after, seen, ?_, ran, hands⟩
      intro entry member
      rcases List.mem_cons.mp member with rfl | later
      · exact ⟨0, id, .resume, rfl⟩
      · obtain ⟨index, _, rfl⟩ := List.mem_map.mp later
        exact ⟨_, id, _, rfl⟩

/-- The first runner of all has the lock as soon as it asks for it. -/
theorem first_begins (pipeline : Pipeline M) (reporter : Reporter) (policy : Policy)
    (repeats : Bool) (drained : pipeline.batch.toList = []) :
    ∃ next told, (({ pipeline, reporter } : Crew M).hire policy repeats).step 0 0 .resume =
        some (next, told) ∧
      next.Begins 0 { policy, repeats, standing := .queued } := by
  cases repeats with
  | false => exact ⟨_, _, rfl, rfl, rfl, rfl, rfl, drained⟩
  | true => exact ⟨_, _, rfl, rfl, rfl, rfl, rfl, drained⟩

theorem exists_content_exit (name : String) (reporter : Reporter) (message : M)
    (positive : 0 < policy.cap) (content : policy.capExit = .outBatchSize) :
    ∃ moves crew events, CallsUnder policy moves ∧
      (make name reporter : Crew M).run? moves = some (crew, events) ∧
      crew.FillEnded events 0 .outBatchSize := by
  obtain ⟨queued, told, asked, begins⟩ :=
    first_begins ({ name } : Pipeline M) reporter policy false rfl
  obtain ⟨moves, crew, seen, resumes, ran, ended⟩ := begins.reaches_cap positive message
  have called : (make name reporter).run? [(0, .call policy), (0, .resume 0 .resume)] =
      some (queued, told) := by
    refine follow?_cons_iff.mpr ⟨_, [], told, rfl, ?_, rfl⟩
    exact follow?_cons_iff.mpr ⟨queued, told, [], asked, rfl, (List.append_nil told).symm⟩
  refine ⟨_, crew, told ++ seen, ?_, follow?_append called ran, content ▸ ended _⟩
  · intro entry member called same
    rcases List.mem_append.mp member with early | late
    · rcases List.mem_cons.mp early with rfl | resumed
      · cases same
        rfl
      · cases List.mem_singleton.mp resumed
        cases same
    · obtain ⟨now, id, cue, rfl⟩ := resumes entry late
      cases same

theorem run?_under {last : Crew M} {moves : List (Nat × DrillMove M)} {events : List (Event M)}
    (under : CallsUnder policy moves) (built : ∀ given ∈ crew.policies, given = policy)
    (ran : crew.run? moves = some (last, events)) : ∀ given ∈ last.policies, given = policy := by
  refine follow?_carries [] (fun _ (crew : Crew M) => ∀ given ∈ crew.policies, given = policy)
    (fun {_ _ _ move _ _} made built moved given member => ?_) built ran
  cases move with
  | call called =>
      cases moved
      rw [policies_hire, under _ made called rfl] at member
      rcases List.mem_append.mp member with early | last
      · exact built given early
      · exact List.mem_singleton.mp last
  | resume id cue =>
      rw [step_policies moved] at member
      exact built given member

/-- No cycle ends its fill phase by a content cap that is not the lower cap of its policy. -/
theorem no_content_exit {name : String} {reporter : Reporter} {moves : List (Nat × DrillMove M)}
    {events : List (Event M)} (other : policy.capExit ≠ .outBatchSize)
    (under : CallsUnder policy moves)
    (ran : (make name reporter).run? moves = some (crew, events)) (id : Nat) :
    ¬ crew.FillEnded events id .outBatchSize := by
  intro ended
  obtain ⟨⟨orderly, measured⟩, reports⟩ := run?_reports name reporter ran
  obtain ⟨given, built, content⟩ := reports.of_fillEnded measured orderly ended
  have unmanned : ∀ given ∈ (make name reporter : Crew M).policies, given = policy := by
    simp [policies, make]
  have same : given = policy := run?_under under unmanned ran given (List.mem_of_getElem? built)
  exact other (same ▸ content)

end Crew

namespace Accumulator

variable {accumulator : Accumulator M} {policy : Policy}

/-- What the runners of a crew can do, the workers of an accumulator can. -/
theorem run?_workers {drills : List (Nat × DrillMove M)} {crew : Crew M} {events : List (Event M)}
    (resumes : OnlyResumes drills) (ran : accumulator.crew.run? drills = some (crew, events)) :
    ∃ moves, accumulator.run? moves = some ({ accumulator with crew }, events) := by
  induction drills generalizing accumulator events with
  | nil =>
      cases ran
      exact ⟨[], rfl⟩
  | cons first rest ih =>
      obtain ⟨⟨now, id, cue, rfl⟩, others⟩ := List.forall_mem_cons.mp resumes
      obtain ⟨next, seen, more, resumed, tail, rfl⟩ := follow?_cons_iff.mp ran
      have stepped := accumulator.step_worker resumed
      obtain ⟨moves, worked⟩ : ∃ moves,
          ({ accumulator with crew := next } : Accumulator M).run? moves =
            some ({ accumulator with crew }, more) := ih others tail
      refine ⟨(now, .worker id cue) :: moves, ?_⟩
      exact follow?_cons_iff.mpr ⟨_, seen, more, stepped, worked, rfl⟩

theorem exists_content_exit (name : String) (reporter : Reporter) (message : M)
    (positive : 0 < policy.cap) (content : policy.capExit = .outBatchSize) :
    ∃ moves accumulator events,
      (make name policy reporter : Accumulator M).run? moves = some (accumulator, events) ∧
      accumulator.crew.policies[0]? = some policy ∧
      accumulator.crew.FillEnded events 0 .outBatchSize := by
  have stopped : (make name policy reporter : Accumulator M).state = .stopped := rfl
  obtain ⟨running, started, ran, hired, active, inForce⟩ :
      ∃ running started, (make name policy reporter : Accumulator M).run?
          [(0, .begin .start), (0, .answer 0 (.ok ())), (0, .answer 0 (.ok ())),
            (0, .answer 0 (.ok ()))] = some (running, started) ∧
        running.crew = ((Crew.make name reporter).markStarted 0).hire policy true ∧
        running.active = some 0 ∧ running.policy = policy := by
    obtain ⟨started, ran⟩ := start_succeeds stopped rfl 0 0 0 0
    exact ⟨_, started, ran, rfl, rfl, rfl⟩
  -- the worker that the start has hired is the first to ask for the lock
  obtain ⟨queued, told, asked, begins⟩ :=
    Crew.first_begins ((Crew.make name reporter : Crew M).markStarted 0).pipeline reporter policy
      true rfl
  obtain ⟨drills, crew, seen, resumes, drilled, ended⟩ := begins.reaches_cap positive message
  have resumed : running.crew.run? ((0, .resume 0 .resume) :: drills) =
      some (crew, told ++ seen) := by
    rw [hired]
    exact follow?_cons_iff.mpr ⟨queued, told, seen, asked, drilled, rfl⟩
  have only : OnlyResumes ((0, .resume 0 .resume) :: drills) :=
    List.forall_mem_cons.mpr ⟨⟨0, 0, .resume, rfl⟩, resumes⟩
  obtain ⟨moves, worked⟩ := run?_workers only resumed
  have whole := follow?_append ran worked
  have built := run?_active_policy name policy reporter whole active
  rw [show ({ running with crew } : Accumulator M).policy = policy from inForce] at built
  exact ⟨_, _, _, whole, built, content ▸ ended _⟩

theorem no_content_exit {name : String} {first : Policy} {reporter : Reporter}
    {moves : List (Nat × Move M)} {events : List (Event M)} {worker : Nat}
    (other : policy.capExit ≠ .outBatchSize)
    (ran : (make name first reporter).run? moves = some (accumulator, events))
    (built : accumulator.crew.policies[worker]? = some policy) :
    ¬ accumulator.crew.FillEnded events worker .outBatchSize := by
  intro ended
  obtain ⟨⟨orderly, measured⟩, reports⟩ := run?_reports name first reporter ran
  obtain ⟨given, there, content⟩ := reports.of_fillEnded measured orderly.crew ended
  cases built.symm.trans there
  exact other content

end Accumulator

/-- The warning about the content cap is exact, and the cap that it speaks of makes no difference.
It is given exactly when no cycle under the policy of the configuration, on its own or in an
accumulator, can end its fill phase by that cap.  Every run is then, with all its times, the run
of the configuration without it: only the policy that is kept and shown is the other one. -/
theorem content_cap_warning_exact [Nonempty M] (config : Config)
    (named : Text.isBlankText config.name = false) (enabled : 0 < config.batch.outBatchSize) :
    let policy := Policy.ofSettings config.batch
    let uncapped := Policy.ofSettings { config.batch with outBatchSize := 0 }
    let exchange := Policy.exchange policy uncapped
    (config.Warns ↔ ∀ (name : String) (reporter : Reporter) (moves : List (Nat × DrillMove M))
        (crew : Crew M) (events : List (Event M)), CallsUnder policy moves →
      (Crew.make name reporter).run? moves = some (crew, events) →
        ∀ id, ¬ crew.FillEnded events id .outBatchSize) ∧
    (config.Warns ↔ ∀ (name : String) (first : Policy) (reporter : Reporter)
        (moves : List (Nat × Move M)) (accumulator : Accumulator M) (events : List (Event M)),
      (Accumulator.make name first reporter).run? moves = some (accumulator, events) →
        ∀ worker, accumulator.crew.policies[worker]? = some policy →
          ¬ accumulator.crew.FillEnded events worker .outBatchSize) ∧
    (config.Warns →
      (∀ (name : String) (reporter : Reporter) (moves : List (Nat × DrillMove M)),
        (Crew.make name reporter).watch?
            (moves.map fun (now, move) => (now, move.mapPolicy exchange)) =
          ((Crew.make name reporter).watch? moves).map fun (last, timed) =>
            (last.mapPolicy exchange, timed)) ∧
      ∀ (name : String) (first : Policy) (reporter : Reporter) (moves : List (Nat × Move M)),
        (Accumulator.make name (exchange first) reporter).watch?
            (moves.map fun (now, move) => (now, move.mapPolicy exchange)) =
          ((Accumulator.make name first reporter).watch? moves).map fun (last, timed) =>
            (last.mapPolicy exchange,
              timed.map fun (now, event) => (now, event.mapPolicy exchange))) := by
  intro policy uncapped exchange
  have warns : config.Warns ↔ policy.capExit ≠ .outBatchSize :=
    config.warns_iff_capExit named enabled
  have message : M := Classical.choice ‹Nonempty M›
  have positive (content : policy.capExit = .outBatchSize) : 0 < policy.cap :=
    Policy.cap_pos_of_content enabled content
  refine ⟨⟨fun warned => ?_, fun never => warns.mpr fun content => ?_⟩,
    ⟨fun warned => ?_, fun never => warns.mpr fun content => ?_⟩, fun warned => ?_⟩
  · intro name reporter moves crew events under ran
    exact Crew.no_content_exit (warns.mp warned) under ran
  · obtain ⟨moves, crew, events, under, ran, ended⟩ :=
      Crew.exists_content_exit "" (.logging "") message (positive content) content
    exact never _ _ moves crew events under ran 0 ended
  · intro name first reporter moves accumulator events ran worker built
    exact Accumulator.no_content_exit (warns.mp warned) ran built
  · obtain ⟨moves, accumulator, events, ran, built, ended⟩ :=
      Accumulator.exists_content_exit "" (.logging "") message (positive content) content
    exact never _ _ _ moves accumulator events ran 0 built ended
  · have alike := warned.exchange_alike named enabled
    exact ⟨fun name reporter moves => Crew.watch?_mapPolicy alike name reporter moves,
      fun name first reporter moves => Accumulator.watch?_mapPolicy alike name first reporter moves⟩

/-- A cap of three messages is warned of beside a batch of two and ends no fill phase; a cap of two
is not, and ends some. -/
theorem content_cap_warning_exact_of_pair :
    (∀ (name : String) (first : Policy) (reporter : Reporter) (moves : List (Nat × Move Nat))
        (accumulator : Accumulator Nat) (events : List (Event Nat)),
      (Accumulator.make name first reporter).run? moves = some (accumulator, events) →
        ∀ worker, accumulator.crew.policies[worker]? = some (Policy.ofSettings ⟨2, 3, 50⟩) →
          ¬ accumulator.crew.FillEnded events worker .outBatchSize) ∧
    ¬ ∀ (name : String) (first : Policy) (reporter : Reporter) (moves : List (Nat × Move Nat))
        (accumulator : Accumulator Nat) (events : List (Event Nat)),
      (Accumulator.make name first reporter).run? moves = some (accumulator, events) →
        ∀ worker, accumulator.crew.policies[worker]? = some (Policy.ofSettings ⟨2, 2, 50⟩) →
          ¬ accumulator.crew.FillEnded events worker .outBatchSize := by
  have warned : ({ name := "pair", batch := ⟨2, 3, 50⟩ } : Config).Warns :=
    (Config.warns_iff (by decide)).mpr (by decide)
  have silent : ¬ ({ name := "pair", batch := ⟨2, 2, 50⟩ } : Config).Warns := fun warned =>
    absurd ((Config.warns_iff (by decide)).mp warned) (by decide)
  have idle := content_cap_warning_exact (M := Nat)
    { name := "pair", batch := ⟨2, 3, 50⟩ } (by decide) (by decide)
  have exact := content_cap_warning_exact (M := Nat)
    { name := "pair", batch := ⟨2, 2, 50⟩ } (by decide) (by decide)
  exact ⟨idle.2.1.mp warned, fun never => silent (exact.2.1.mpr never)⟩

end Batching

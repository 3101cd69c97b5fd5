import Batching.Proofs.NestedCalls
import Batching.Proofs.Retries

namespace Batching

/-! What instrumented layers count.

Every call of a layer is a number of calls of the sink inside it, and all but the last of them
have failed.  So all instrumented layers see the same successes, and the further inside, the
more failures.  They are in nobody's way.
-/

variable {σ M : Type} {base : Base σ M} {message : M} {messages : List M}
  {before : LayeredSink σ M} {outcome : Outcome Unit} {rest : List (Outcome Unit)}

namespace Outcome

def isReturned {α : Type} : Outcome α → Bool
  | .returned _ => true
  | _ => false

def isFailed {α : Type} : Outcome α → Bool
  | .failed _ => true
  | _ => false

def isPanicked {α : Type} : Outcome α → Bool
  | .panicked _ => true
  | _ => false

end Outcome

theorem EndsIn.countP_isReturned (ends : EndsIn outcome rest) :
    rest.countP Outcome.isReturned = [outcome].countP Outcome.isReturned := by
  induction ends with
  | once => rfl
  | again _ ih => exact ih

theorem length_eq_countP (outcomes : List (Outcome Unit)) :
    outcomes.countP Outcome.isReturned + outcomes.countP Outcome.isFailed +
      outcomes.countP Outcome.isPanicked = outcomes.length := by
  induction outcomes with
  | nil => rfl
  | cons outcome rest ih =>
      rw [List.length_cons, ← ih]
      cases outcome <;> simp [List.countP_cons, Outcome.isReturned, Outcome.isFailed,
        Outcome.isPanicked] <;> omega

theorem foldl_counted (processed failed : Nat) (outcomes : List (Outcome Unit)) :
    outcomes.foldl Layer.counted (.instrumented processed failed) =
      .instrumented (processed + outcomes.countP Outcome.isReturned)
        (failed + outcomes.countP Outcome.isFailed) := by
  induction outcomes generalizing processed failed with
  | nil => rfl
  | cons outcome rest ih =>
      rw [List.foldl_cons]
      cases outcome with
      | returned | failed =>
          rw [Layer.counted, ih]
          simp [List.countP_cons, Outcome.isReturned, Outcome.isFailed]
          omega
      | panicked => exact ih processed failed

/-! ### Messages one after the other -/

/-- How calls of the outermost layer ended, the sink after them, and the calls that layers have
received meanwhile, each with the place of the layer. -/
structure Served (σ M : Type) where
  outcomes : List (Outcome Unit)
  sink : LayeredSink σ M
  heard : List (Nat × Outcome Unit)

def LayeredSink.reachAll (base : Base σ M) : List M → LayeredSink σ M → Served σ M
  | [], sink => { outcomes := [], sink, heard := [] }
  | message :: rest, sink =>
      let visit := LayeredSink.reach base message sink.layers.length sink
      let served := reachAll base rest visit.sink
      { served with
        outcomes := visit.outcome :: served.outcomes
        heard := visit.heard ++ served.heard }

theorem serve_reachAll (base : Base σ M) (messages : List M) (sink : LayeredSink σ M) :
    sink.serve base (messages.map .process) =
      ((LayeredSink.reachAll base messages sink).outcomes,
        (LayeredSink.reachAll base messages sink).sink) := by
  induction messages generalizing sink with
  | nil => rfl
  | cons message rest ih =>
      simp only [List.map_cons, LayeredSink.serve, perform_reach, ih, LayeredSink.reachAll]

example :
    (LayeredSink.reachAll
      (⟨"base", fun _ _ _ => (⟨3, .failed (.process "full")⟩, ())⟩ : Base Unit Unit) [()]
      { memory := ()
        layers := [.instrumented 0 0, .retry 2 5, .instrumented 0 0] }).sink.layers =
      [.instrumented 0 2, .retry 2 5, .instrumented 0 1] :=
  rfl

/-- What layers and the base sink have been through together. -/
structure Tallied (before : LayeredSink σ M) (served : Served σ M) : Prop where
  layers : ∀ place, served.sink.layers[place]? = before.layers[place]?.map fun layer =>
    (received served.heard place).foldl Layer.counted layer
  returned : ∀ place < before.layers.length,
    (received served.heard place).countP Outcome.isReturned =
      served.outcomes.countP Outcome.isReturned
  narrows : ∀ inner outer, inner ≤ outer → outer < before.layers.length →
    (received served.heard outer).Sublist (received served.heard inner)
  delivered : ∃ records, served.sink.calls = before.calls ++ records ∧
    (∀ record ∈ records, ∃ message, record.call = .process message) ∧
    (records.map (·.answer.outcome)).countP Outcome.isReturned =
      served.outcomes.countP Outcome.isReturned ∧
    ∀ layer, before.layers[0]? = some layer → layer.counts?.isSome →
      received served.heard 0 = records.map (·.answer.outcome)

namespace Tallied

theorem cons {visit : Visit σ M} {served : Served σ M}
    (visited : Visited message before.layers.length before visit)
    (tallied : Tallied visit.sink served) :
    Tallied before
      { served with
        outcomes := visit.outcome :: served.outcomes
        heard := visit.heard ++ served.heard } where
  layers place := by
    rw [tallied.layers, visited.layers, Option.map_map]
    simp only [Function.comp_def, received_append, List.foldl_append]
  returned place within := by
    have first := (visited.ends place within).countP_isReturned
    have others := tallied.returned place (by rwa [visited.length])
    rw [received_append, List.countP_append, first, others, ← List.countP_append]
    rfl
  narrows inner outer further within := by
    rw [received_append, received_append]
    exact (visited.narrows inner outer further within).append
      (tallied.narrows inner outer further (by rwa [visited.length]))
  delivered := by
    obtain ⟨records, kept, delivered, ends, heard⟩ := visited.delivered
    obtain ⟨others, keptRest, deliveredRest, returned, heardRest⟩ := tallied.delivered
    refine ⟨records ++ others, ?_, ?_, ?_, fun layer innermost counts => ?_⟩
    · rw [keptRest, kept, List.append_assoc]
    · exact List.forall_mem_append.mpr
        ⟨fun record member => ⟨message, delivered record member⟩, deliveredRest⟩
    · rw [List.map_append, List.countP_append, ends.countP_isReturned, returned,
        ← List.countP_append]
      rfl
    · have inside : before.layers.length ≠ 0 :=
        Nat.ne_of_gt (List.getElem?_eq_some_iff.mp innermost).1
      have still : visit.sink.layers[0]? =
          some ((received visit.heard 0).foldl Layer.counted layer) := by
        rw [visited.layers, innermost]
        rfl
      have first := heard layer innermost counts
      rw [if_neg inside] at first
      rw [received_append, List.map_append, first,
        heardRest _ still (by rwa [isSome_counts_counted])]

end Tallied

theorem reachAll_tallied (base : Base σ M) (messages : List M) (sink : LayeredSink σ M) :
    Tallied sink (LayeredSink.reachAll base messages sink) := by
  induction messages generalizing sink with
  | nil =>
      exact ⟨fun _ => Option.map_id_apply.symm, fun _ _ => rfl,
        fun _ _ _ _ => List.Sublist.refl _, [], (List.append_nil _).symm, nofun, rfl,
        fun _ _ _ => rfl⟩
  | cons message rest ih =>
      exact (ih _).cons (reach_visited base message sink (Nat.le_refl _))

/-! ### The counters -/

namespace Layer

def isRetry (layer : Layer) : Bool :=
  layer.repeats?.isSome

/-- A layer that has not counted yet. -/
def fresh : Layer → Layer
  | .instrumented _ _ => .instrumented 0 0
  | .retry limit backoff => .retry limit backoff

theorem repeats?_foldl_counted (layer : Layer) (outcomes : List (Outcome Unit)) :
    (outcomes.foldl counted layer).repeats? = layer.repeats? := by
  induction outcomes generalizing layer with
  | nil => rfl
  | cons outcome rest ih =>
      rw [List.foldl_cons, ih]
      cases layer <;> cases outcome <;> rfl

theorem repeats?_fresh (layer : Layer) : layer.fresh.repeats? = layer.repeats? := by
  cases layer <;> rfl

theorem fresh_eq_of_repeats? {layer : Layer} (instrumented : layer.fresh.repeats? = none) :
    layer.fresh = .instrumented 0 0 := by
  cases layer with
  | instrumented => rfl
  | retry => cases instrumented

end Layer

theorem retriesOf_filter (layers : List Layer) :
    retriesOf (layers.filter Layer.isRetry) = retriesOf layers := by
  induction layers with
  | nil => rfl
  | cons layer outer ih =>
      cases layer with
      | instrumented => exact ih
      | retry limit backoff => exact congrArg ((limit, backoff) :: ·) ih

theorem name_eq (base : Base σ M) (sink : LayeredSink σ M) : sink.name base = base.name := by
  rw [LayeredSink.name]
  induction sink.layers with
  | nil => rfl
  | cons layer outer ih => cases layer <;> exact ih

theorem Tallied.retries {layers : List Layer} {served : Served σ M}
    (tallied : Tallied (before.under (layers.map Layer.fresh)) served) :
    served.sink.layers.map Layer.repeats? = layers.map Layer.repeats? := by
  refine List.ext_getElem? fun place => ?_
  rw [List.getElem?_map, tallied.layers, under_layers, List.getElem?_map, List.getElem?_map,
    Option.map_map, Option.map_map]
  simp only [Function.comp_def, Layer.repeats?_foldl_counted, Layer.repeats?_fresh]

/-- The counters of an instrumented layer that started at zero. -/
theorem Tallied.counters {layers : List Layer} {served : Served σ M}
    {place processed failed : Nat}
    (tallied : Tallied (before.under (layers.map Layer.fresh)) served)
    (found : served.sink.layers[place]? = some (.instrumented processed failed)) :
    (layers.map Layer.fresh)[place]? = some (.instrumented 0 0) ∧
      processed = (received served.heard place).countP Outcome.isReturned ∧
      failed = (received served.heard place).countP Outcome.isFailed := by
  rw [tallied.layers] at found
  obtain ⟨start, here, counted⟩ := Option.map_eq_some_iff.mp found
  change (layers.map Layer.fresh)[place]? = some start at here
  rw [List.getElem?_map] at here
  obtain ⟨layer, there, rfl⟩ := Option.map_eq_some_iff.mp here
  have instrumented := congrArg Layer.repeats? counted
  rw [Layer.repeats?_foldl_counted] at instrumented
  rw [Layer.fresh_eq_of_repeats? instrumented] at here counted
  rw [foldl_counted, Nat.zero_add, Nat.zero_add] at counted
  obtain ⟨successes, failures⟩ := Layer.instrumented.inj counted
  exact ⟨(List.getElem?_map ..).trans here, successes.symm, failures.symm⟩

/-- Instrumented layers are in nobody's way: without them the same is returned and the base
sink is called at the same times and with the same, and goes by the same name.

They all count the same successes, which are those of the outermost layer and those of the base
sink.  The further out a layer, the fewer failures it counts, and it counts every call that it
receives, apart from panics; the innermost one receives every delivery to the base sink. -/
theorem instrumented_layers (base : Base σ M) (sink : LayeredSink σ M) (layers : List Layer)
    (messages : List M) :
    Alike layers (layers.filter Layer.isRetry) ∧
      (sink.under layers).name base = (sink.under (layers.filter Layer.isRetry)).name base ∧
      ∃ (served : Served σ M) (records : List (BaseCall M)),
        served = LayeredSink.reachAll base messages (sink.under (layers.map Layer.fresh)) ∧
        (sink.under (layers.map Layer.fresh)).serve base (messages.map .process) =
          (served.outcomes, served.sink) ∧
        served.sink.layers.map Layer.repeats? = layers.map Layer.repeats? ∧
        served.sink.calls = sink.calls ++ records ∧
        (∀ record ∈ records, ∃ message, record.call = .process message) ∧
        (∀ place processed failed : Nat,
          served.sink.layers[place]? = some (.instrumented processed failed) →
          processed = served.outcomes.countP Outcome.isReturned ∧
          processed = (records.map (·.answer.outcome)).countP Outcome.isReturned ∧
          processed + failed = (received served.heard place).length -
            (received served.heard place).countP Outcome.isPanicked ∧
          (place = 0 → received served.heard 0 = records.map (·.answer.outcome))) ∧
        ∀ inner outer processed failed successes failures : Nat, inner ≤ outer →
          served.sink.layers[inner]? = some (.instrumented processed failed) →
          served.sink.layers[outer]? = some (.instrumented successes failures) →
          failures ≤ failed := by
  have pauses := congrArg pauseAfter (retriesOf_filter layers).symm
  have attempts := congrArg allAttempts (retriesOf_filter layers).symm
  refine ⟨alike_of_pauses attempts pauses, (name_eq ..).trans (name_eq ..).symm, ?_⟩
  obtain ⟨served, reached⟩ : ∃ served,
    served = LayeredSink.reachAll base messages (sink.under (layers.map Layer.fresh)) := ⟨_, rfl⟩
  have tallied : Tallied (sink.under (layers.map Layer.fresh)) served :=
    reached ▸ reachAll_tallied base messages _
  obtain ⟨records, kept, delivered, returned, heard⟩ := tallied.delivered
  refine ⟨served, records, reached, reached ▸ serve_reachAll .., tallied.retries, kept, delivered,
    fun place processed failed found => ?_,
    fun inner outer processed failed successes failures further innermost outermost => ?_⟩
  · obtain ⟨start, successes, failures⟩ := tallied.counters found
    have within := (List.getElem?_eq_some_iff.mp start).1
    have total := length_eq_countP (received served.heard place)
    have same := tallied.returned place within
    refine ⟨successes.trans same, successes.trans (same.trans returned.symm), by omega, ?_⟩
    rintro rfl
    exact heard _ start rfl
  · obtain ⟨start, -, few⟩ := tallied.counters outermost
    obtain ⟨-, -, many⟩ := tallied.counters innermost
    have narrows := tallied.narrows inner outer further (List.getElem?_eq_some_iff.mp start).1
    rw [few, many]
    exact narrows.countP_le

end Batching

import Batching.LayeredSink

namespace Batching

/-! The layers of a sink as nested calls.

A delivery under way is kept flat, as one number for each layer.  Here a layer is what it is
meant to be, a call or a loop of calls of the sink inside it.  Both give the same; the nested
form also tells which calls each layer has received.
-/

variable {σ M : Type}

namespace Layer

/-- A layer after one of the calls it has received: an instrumented layer counts it. -/
def counted : Layer → Outcome Unit → Layer
  | .instrumented processed failed, .returned () => .instrumented (processed + 1) failed
  | .instrumented processed failed, .failed _ => .instrumented processed (failed + 1)
  | layer, _ => layer

def notes (sink : String) : Layer → Outcome Unit → List Notice
  | .instrumented _ _, .returned () => [.delivered sink]
  | .instrumented _ _, .failed failure => [.deliveryFailed sink failure]
  | _, _ => []

end Layer

/-- How a call ended, the sink after it, and the calls that layers have received meanwhile,
each with the place of the layer. -/
structure Visit (σ M : Type) where
  outcome : Outcome Unit
  sink : LayeredSink σ M
  heard : List (Nat × Outcome Unit) := []

/-- The calls that the layer at a place has received. -/
def received (heard : List (Nat × Outcome Unit)) (place : Nat) : List (Outcome Unit) :=
  heard.filterMap fun (other, outcome) => if other = place then some outcome else none

/-- The call has passed through the layer at a place. -/
def Visit.through (visit : Visit σ M) (name : String) (place : Nat) (layer : Layer) :
    Visit σ M where
  outcome := visit.outcome
  sink :=
    { visit.sink with
      layers := visit.sink.layers.set place (layer.counted visit.outcome)
      notices := visit.sink.notices ++ layer.notes name visit.outcome }
  heard := visit.heard ++ [(place, visit.outcome)]

/-- Calls the sink inside again after a failure, `left` times at most. -/
def Layer.insist (name : String) (inner : LayeredSink σ M → Visit σ M) (limit backoff : Nat)
    (attempt : Nat) : Nat → LayeredSink σ M → Visit σ M
  | 0, sink => inner sink
  | left + 1, sink =>
      let visit := inner sink
      match visit.outcome with
      | .failed failure =>
          let retried := visit.sink.noting [.deliveryRetried name attempt limit failure]
          let rest := insist name inner limit backoff (attempt + 1) left (retried.wait backoff)
          { rest with heard := visit.heard ++ rest.heard }
      | _ => visit

/-- What a layer makes of the sink inside it. -/
def Layer.around (name : String) (inner : LayeredSink σ M → Visit σ M) :
    Layer → LayeredSink σ M → Visit σ M
  | .instrumented _ _ => inner
  | .retry limit backoff =>
      insist name inner (attemptsOf limit) backoff 1 (attemptsOf limit - 1)

namespace LayeredSink

/-- A call of the sink inside the layer at a place, which is the base sink at place zero. -/
def reach (base : Base σ M) (message : M) : Nat → LayeredSink σ M → Visit σ M
  | 0, sink =>
      let (outcome, after) := sink.call base (.process message)
      { outcome, sink := after }
  | place + 1, sink =>
      match sink.layers[place]? with
      | none => reach base message place sink
      | some layer =>
          (layer.around base.name (reach base message place) sink).through base.name place layer

end LayeredSink

/-! ### What layers receive -/

variable {base : Base σ M} {message : M} {sink before : LayeredSink σ M} {visit : Visit σ M}
  {outcome : Outcome Unit} {failure : Failure} {place : Nat}

theorem received_append (earlier later : List (Nat × Outcome Unit)) (place : Nat) :
    received (earlier ++ later) place = received earlier place ++ received later place :=
  List.filterMap_append

theorem received_through (name : String) (layer : Layer) (other : Nat) :
    received (visit.through name place layer).heard other =
      received visit.heard other ++ if place = other then [visit.outcome] else [] := by
  rw [Visit.through, received_append]
  by_cases here : place = other <;> simp [received, here]

theorem isSome_counts_counted (layer : Layer) (outcomes : List (Outcome Unit)) :
    (outcomes.foldl Layer.counted layer).counts?.isSome = layer.counts?.isSome := by
  induction outcomes generalizing layer with
  | nil => rfl
  | cons outcome rest ih =>
      rw [List.foldl_cons, ih]
      cases layer <;> cases outcome <;> rfl

/-- Calls of which all but the last have failed. -/
inductive EndsIn (outcome : Outcome Unit) : List (Outcome Unit) → Prop where
  | once : EndsIn outcome [outcome]
  | again {failure : Failure} {rest : List (Outcome Unit)} (ends : EndsIn outcome rest) :
      EndsIn outcome (.failed failure :: rest)

namespace EndsIn

variable {earlier rest : List (Outcome Unit)}

theorem append (failed : EndsIn (.failed failure) earlier) (ends : EndsIn outcome rest) :
    EndsIn outcome (earlier ++ rest) := by
  induction failed with
  | once => exact .again ends
  | again _ ih => exact .again ih

theorem sublist (ends : EndsIn outcome rest) : [outcome].Sublist rest := by
  induction ends with
  | once => exact List.Sublist.refl _
  | again _ ih => exact ih.cons _

end EndsIn

/-- What the first layers, up to a place, and the base sink have been through in a call. -/
structure Visited (message : M) (place : Nat) (before : LayeredSink σ M) (visit : Visit σ M) :
    Prop where
  layers : ∀ other, visit.sink.layers[other]? = before.layers[other]?.map fun layer =>
    (received visit.heard other).foldl Layer.counted layer
  outside : ∀ other, place ≤ other → received visit.heard other = []
  ends : ∀ other, other < place → EndsIn visit.outcome (received visit.heard other)
  narrows : ∀ inner outer, inner ≤ outer → outer < place →
    (received visit.heard outer).Sublist (received visit.heard inner)
  delivered : ∃ records, visit.sink.calls = before.calls ++ records ∧
    (∀ record ∈ records, record.call = .process message) ∧
    EndsIn visit.outcome (records.map (·.answer.outcome)) ∧
    -- An instrumented layer on the base sink hands every call on, and calls only then.
    ∀ layer, before.layers[0]? = some layer → layer.counts?.isSome →
      (if place = 0 then [visit.outcome] else received visit.heard 0) =
        records.map (·.answer.outcome)

namespace Visited

/-- The layers outside have not been touched. -/
theorem untouched (visited : Visited message place before visit) {other : Nat}
    (outside : place ≤ other) : visit.sink.layers[other]? = before.layers[other]? := by
  rw [visited.layers, visited.outside other outside]
  exact Option.map_id_apply

theorem length (visited : Visited message place before visit) :
    visit.sink.layers.length = before.layers.length := by
  have beyond (other : Nat) :
      visit.sink.layers.length ≤ other ↔ before.layers.length ≤ other := by
    rw [← List.getElem?_eq_none_iff, ← List.getElem?_eq_none_iff, visited.layers,
      Option.map_eq_none_iff]
  exact Nat.le_antisymm ((beyond _).mpr (Nat.le_refl _)) ((beyond _).mp (Nat.le_refl _))

theorem called (base : Base σ M) (message : M) (sink : LayeredSink σ M) :
    Visited message 0 sink (LayeredSink.reach base message 0 sink) where
  layers _ := Option.map_id_apply.symm
  outside _ _ := rfl
  ends _ none := absurd none (Nat.not_lt_zero _)
  narrows _ _ _ none := absurd none (Nat.not_lt_zero _)
  delivered := ⟨_, rfl, by simp, .once, fun _ _ _ => rfl⟩

/-- A retry layer calls the sink inside it once more. -/
theorem retried {again : Visit σ M} {notices : List Notice} {limit pause backoff : Nat}
    (found : before.layers[place]? = some (.retry limit pause))
    (visited : Visited message place before visit) (failed : visit.outcome = .failed failure)
    (rest : Visited message place ((visit.sink.noting notices).wait backoff) again) :
    Visited message place before { again with heard := visit.heard ++ again.heard } where
  layers other := by
    rw [rest.layers]
    change visit.sink.layers[other]?.map _ = _
    rw [visited.layers, Option.map_map]
    simp only [Function.comp_def, received_append, List.foldl_append]
  outside other outside := by
    rw [received_append, visited.outside other outside, rest.outside other outside]
    rfl
  ends other within := by
    rw [received_append]
    exact (failed ▸ visited.ends other within).append (rest.ends other within)
  narrows inner outer further within := by
    rw [received_append, received_append]
    exact (visited.narrows inner outer further within).append
      (rest.narrows inner outer further within)
  delivered := by
    obtain ⟨first, kept, delivered, ends, heard⟩ := visited.delivered
    obtain ⟨others, keptRest, deliveredRest, endsRest, heardRest⟩ := rest.delivered
    refine ⟨first ++ others, ?_, ?_, ?_, fun layer innermost counts => ?_⟩
    · rw [keptRest, ← List.append_assoc, ← kept]
      rfl
    · exact List.forall_mem_append.mpr ⟨delivered, deliveredRest⟩
    · rw [List.map_append]
      exact (failed ▸ ends).append endsRest
    · have inside : place ≠ 0 := by
        rintro rfl
        cases innermost.symm.trans found
        cases counts
      have still : ((visit.sink.noting notices).wait backoff).layers[0]? =
          some ((received visit.heard 0).foldl Layer.counted layer) := by
        change visit.sink.layers[0]? = _
        rw [visited.layers, innermost]
        rfl
      have first := heard layer innermost counts
      have second := heardRest _ still (by rwa [isSome_counts_counted])
      rw [if_neg inside] at first second ⊢
      rw [received_append, List.map_append, first, second]

theorem through (visited : Visited message place before visit) {layer : Layer}
    (found : before.layers[place]? = some layer) (name : String) :
    Visited message (place + 1) before (visit.through name place layer) where
  layers other := by
    rw [received_through, Visit.through, List.getElem?_set]
    split
    · rename_i here
      subst here
      have within : place < visit.sink.layers.length := by
        rw [visited.length]
        exact (List.getElem?_eq_some_iff.mp found).1
      rw [visited.outside place (Nat.le_refl _), found, if_pos within]
      rfl
    · rw [List.append_nil]
      exact visited.layers other
  outside other outside := by
    rw [received_through, visited.outside other (by omega), if_neg (by omega)]
    rfl
  ends other within := by
    rw [received_through]
    split
    · rename_i here
      subst here
      rw [visited.outside place (Nat.le_refl _)]
      exact .once
    · rw [List.append_nil]
      exact visited.ends other (by omega)
  narrows inner outer further within := by
    rw [received_through, received_through]
    by_cases last : place = outer
    · subst last
      rw [visited.outside place (Nat.le_refl _), if_pos rfl, List.nil_append]
      by_cases innermost : place = inner
      · rw [if_pos innermost]
        exact List.sublist_append_right ..
      · rw [if_neg innermost, List.append_nil]
        exact (visited.ends inner (by omega)).sublist
    · rw [if_neg last, if_neg (by omega), List.append_nil, List.append_nil]
      exact visited.narrows inner outer further (by omega)
  delivered := by
    obtain ⟨records, kept, delivered, ends, heard⟩ := visited.delivered
    refine ⟨records, kept, delivered, ends, fun layer innermost counts => ?_⟩
    have same := heard layer innermost counts
    rw [if_neg (Nat.succ_ne_zero place), received_through]
    by_cases first : place = 0
    · subst first
      rw [visited.outside 0 (Nat.le_refl _), if_pos rfl]
      exact same
    · rw [if_neg first, List.append_nil]
      rwa [if_neg first] at same

theorem insist {name : String} {inner : LayeredSink σ M → Visit σ M} {limit backoff : Nat}
    (once : ∀ sink : LayeredSink σ M, place < sink.layers.length →
      Visited message place sink (inner sink))
    (attempts attempt left : Nat) (sink : LayeredSink σ M)
    (found : sink.layers[place]? = some (.retry limit backoff)) :
    Visited message place sink (Layer.insist name inner attempts backoff attempt left sink) := by
  have visited := once sink (List.getElem?_eq_some_iff.mp found).1
  induction left generalizing sink attempt with
  | zero => exact visited
  | succ left ih =>
      rw [Layer.insist]
      split
      · rename_i failure failed
        have still := (visited.untouched (Nat.le_refl place)).trans found
        refine visited.retried found failed (ih _ _ still (once _ ?_))
        exact (List.getElem?_eq_some_iff.mp still).1
      · exact visited

end Visited

theorem reach_visited (base : Base σ M) (message : M) (sink : LayeredSink σ M)
    (within : place ≤ sink.layers.length) :
    Visited message place sink (LayeredSink.reach base message place sink) := by
  induction place generalizing sink with
  | zero => exact Visited.called base message sink
  | succ place ih =>
      have found : sink.layers[place]? = some sink.layers[place] := List.getElem?_eq_getElem within
      simp only [LayeredSink.reach, found]
      refine Visited.through ?_ found base.name
      cases layer : sink.layers[place] with
      | instrumented => exact ih sink (Nat.le_of_lt within)
      | retry limit backoff =>
          rw [layer] at found
          exact Visited.insist (fun sink within => ih sink (Nat.le_of_lt within)) _ _ _ sink found

/-! ### The flat delivery is the nested call -/

/-- The layers outside that have their first attempt before them, as they are when a layer
inside them calls for the first time. -/
def Continuation.fresh : Continuation M → Continuation M
  | .ends outcome => .ends outcome
  | .again backoff delivery =>
      .again backoff { delivery with attempts := 1 :: delivery.attempts }

/-- A layer hands on how a call ended, unless it is going to call again. -/
def Layer.HandsOn (attempt : Nat) (outcome : Outcome Unit) : Layer → Prop
  | .instrumented _ _ => True
  | .retry limit _ => (∃ failure, outcome = .failed failure) → attemptsOf limit ≤ attempt

/-- A call that has not panicked. -/
def outcomeOf : Except Failure Unit → Outcome Unit
  | .ok () => .returned ()
  | .error failure => .failed failure

theorem passOut_handsOn {name : String} {layer : Layer} {outer : List Layer} {attempt : Nat}
    {attempts : List Nat} (result : Except Failure Unit)
    (handsOn : layer.HandsOn attempt (outcomeOf result)) :
    passOut name (layer :: outer) (attempt :: attempts) result =
      { layers := layer.counted (outcomeOf result) :: (passOut name outer attempts result).layers
        attempts := 1 :: (passOut name outer attempts result).attempts
        verdict := (passOut name outer attempts result).verdict
        notices := layer.notes name (outcomeOf result) ++
          (passOut name outer attempts result).notices } := by
  cases layer with
  | instrumented => cases result <;> rfl
  | retry limit backoff =>
      cases result with
      | ok => rfl
      | error failure =>
          have spent : ¬ attempt < Layer.attemptsOf limit := Nat.not_lt.mpr (handsOn ⟨failure, rfl⟩)
          rw [passOut, List.headD_cons, if_neg spent]
          rfl

theorem settle_handsOn {name : String} {layer : Layer} {outer : List Layer} {attempt : Nat}
    {attempts : List Nat} (handsOn : layer.HandsOn attempt outcome) :
    (⟨message, attempt :: attempts⟩ : Delivery M).settle name (layer :: outer) outcome =
      (((⟨message, attempts⟩ : Delivery M).settle name outer outcome).1.fresh,
        layer.counted outcome :: ((⟨message, attempts⟩ : Delivery M).settle name outer outcome).2.1,
        layer.notes name outcome ++
          ((⟨message, attempts⟩ : Delivery M).settle name outer outcome).2.2) := by
  have passed (result : Except Failure Unit) (handsOn : layer.HandsOn attempt (outcomeOf result)) :
      Delivery.settle.passed name (layer :: outer) (⟨message, attempt :: attempts⟩ : Delivery M)
          result =
        ((Delivery.settle.passed name outer (⟨message, attempts⟩ : Delivery M) result).1.fresh,
          layer.counted (outcomeOf result) ::
            (Delivery.settle.passed name outer (⟨message, attempts⟩ : Delivery M) result).2.1,
          layer.notes name (outcomeOf result) ++
            (Delivery.settle.passed name outer (⟨message, attempts⟩ : Delivery M) result).2.2) := by
    simp only [Delivery.settle.passed, Delivery.resume, passOut_handsOn result handsOn]
    cases (passOut name outer attempts result).verdict with
    | ends result => cases result <;> rfl
    | again => rfl
  cases outcome with
  | panicked => cases layer <;> rfl
  | returned => exact passed (.ok ()) handsOn
  | failed failure => exact passed (.error failure) handsOn

namespace Visit

/-- What becomes of a delivery when the call of the layers inside a place has ended. -/
def onward (visit : Visit σ M) (base : Base σ M) (message : M) (place : Nat)
    (attempts : List Nat) : Outcome Unit × LayeredSink σ M :=
  let (continuation, outer, notices) := (⟨message, attempts⟩ : Delivery M).settle base.name
    (visit.sink.layers.drop place) visit.outcome
  let after :=
    { visit.sink with layers := visit.sink.layers.take place ++ outer }.noting notices
  match continuation with
  | .ends outcome => (outcome, after)
  | .again backoff next =>
      (after.wait backoff).deliver base ⟨message, List.replicate place 1 ++ next.attempts⟩

theorem onward_handsOn {layer : Layer} {attempt : Nat} {attempts : List Nat}
    (found : visit.sink.layers[place]? = some layer)
    (handsOn : layer.HandsOn attempt visit.outcome) :
    visit.onward base message place (attempt :: attempts) =
      (visit.through base.name place layer).onward base message (place + 1) attempts := by
  obtain ⟨within, here⟩ := List.getElem?_eq_some_iff.mp found
  have split : visit.sink.layers.drop place = layer :: visit.sink.layers.drop (place + 1) := by
    rw [← here, List.getElem_cons_drop]
  have outside : (visit.through base.name place layer).sink.layers.drop (place + 1) =
      visit.sink.layers.drop (place + 1) :=
    List.drop_set_of_lt (Nat.lt_succ_self place)
  have inside : (visit.through base.name place layer).sink.layers.take (place + 1) =
      visit.sink.layers.take place ++ [layer.counted visit.outcome] := by
    change (visit.sink.layers.set place (layer.counted visit.outcome)).take (place + 1) = _
    rw [List.take_add_one, List.take_set_of_le (Nat.le_refl place), List.getElem?_set_self within]
    rfl
  have same : (visit.through base.name place layer).outcome = visit.outcome := rfl
  rw [onward, split, settle_handsOn handsOn, onward, outside, inside, same]
  cases (⟨message, attempts⟩ : Delivery M).settle base.name (visit.sink.layers.drop (place + 1))
    visit.outcome with
  | mk continuation rest =>
      cases continuation <;>
        simp [Continuation.fresh, Visit.through, LayeredSink.noting, LayeredSink.wait,
          List.replicate_succ']

theorem onward_again {limit backoff attempt : Nat} {attempts : List Nat}
    (found : visit.sink.layers[place]? = some (.retry limit backoff))
    (failed : visit.outcome = .failed failure) (more : attempt < Layer.attemptsOf limit) :
    visit.onward base message place (attempt :: attempts) =
      ((visit.sink.noting [.deliveryRetried base.name attempt (Layer.attemptsOf limit)
        failure]).wait backoff).deliver base
          ⟨message, List.replicate place 1 ++ (attempt + 1) :: attempts⟩ := by
  obtain ⟨within, here⟩ := List.getElem?_eq_some_iff.mp found
  have split : visit.sink.layers.drop place =
      .retry limit backoff :: visit.sink.layers.drop (place + 1) := by
    rw [← here, List.getElem_cons_drop]
  have again : (⟨message, attempt :: attempts⟩ : Delivery M).settle base.name
      (.retry limit backoff :: visit.sink.layers.drop (place + 1)) (.failed failure) =
      (.again backoff ⟨message, (attempt + 1) :: attempts⟩,
        .retry limit backoff :: visit.sink.layers.drop (place + 1),
        [.deliveryRetried base.name attempt (Layer.attemptsOf limit) failure]) := by
    simp [Delivery.settle, Delivery.settle.passed, Delivery.resume, passOut, more]
  rw [onward, split, failed, again]
  simp only [← split, List.take_append_drop]

end Visit

/-- A delivery at the first layer is a call of the base sink. -/
theorem deliver_called (base : Base σ M) (message : M) (sink : LayeredSink σ M)
    (attempts : List Nat) :
    sink.deliver base ⟨message, attempts⟩ =
      (LayeredSink.reach base message 0 sink).onward base message 0 attempts := by
  obtain ⟨outcome, called, calls⟩ : ∃ outcome called,
    sink.call base (.process message) = (outcome, called) := ⟨_, _, rfl⟩
  obtain ⟨continuation, layers, notices, settles⟩ : ∃ continuation layers notices,
    (⟨message, attempts⟩ : Delivery M).settle base.name sink.layers outcome =
      (continuation, layers, notices) := ⟨_, _, _, rfl⟩
  have same : called.layers = sink.layers := by
    cases calls
    rfl
  have attempt : sink.attempt base ⟨message, attempts⟩ =
      (continuation, { called with layers }.noting notices) := by
    simp only [LayeredSink.attempt, calls, settles]
  simp only [LayeredSink.reach, calls, Visit.onward, List.drop_zero, List.take_zero,
    List.nil_append, same, settles, List.replicate_zero]
  cases continuation with
  | ends => exact LayeredSink.deliver_of_ends attempt
  | again backoff next =>
      have kept : next.message = message := Delivery.settle_message settles
      rw [LayeredSink.deliver_of_again attempt, ← kept]

/-- The rounds of a delivery through a retry layer are the loop of that layer. -/
theorem deliver_insist {limit backoff attempt left : Nat} {attempts : List Nat}
    (inside : ∀ (sink : LayeredSink σ M) (attempts : List Nat), place ≤ sink.layers.length →
      sink.deliver base ⟨message, List.replicate place 1 ++ attempts⟩ =
        (LayeredSink.reach base message place sink).onward base message place attempts)
    (found : sink.layers[place]? = some (.retry limit backoff))
    (rounds : attempt + left = Layer.attemptsOf limit) :
    sink.deliver base ⟨message, List.replicate place 1 ++ attempt :: attempts⟩ =
      ((Layer.insist base.name (LayeredSink.reach base message place) (Layer.attemptsOf limit)
        backoff attempt left sink).through base.name place (.retry limit backoff)).onward base
          message (place + 1) attempts := by
  have called (sink : LayeredSink σ M) (attempt : Nat)
      (found : sink.layers[place]? = some (.retry limit backoff)) :
      (LayeredSink.reach base message place sink).sink.layers[place]? =
          some (.retry limit backoff) ∧
        sink.deliver base ⟨message, List.replicate place 1 ++ attempt :: attempts⟩ =
          (LayeredSink.reach base message place sink).onward base message place
            (attempt :: attempts) := by
    have within := Nat.le_of_lt (List.getElem?_eq_some_iff.mp found).1
    have visited := reach_visited base message sink within
    exact ⟨(visited.untouched (Nat.le_refl place)).trans found, inside sink _ within⟩
  induction left generalizing sink attempt with
  | zero =>
      obtain ⟨still, same⟩ := called sink attempt found
      rw [same]
      exact Visit.onward_handsOn still fun _ => Nat.le_of_eq rounds.symm
  | succ left ih =>
      obtain ⟨still, same⟩ := called sink attempt found
      rw [same, Layer.insist]
      split
      · rename_i failure failed
        rw [Visit.onward_again still failed (by omega)]
        exact ih still (by omega)
      · rename_i other
        exact Visit.onward_handsOn still fun ⟨failure, failed⟩ => absurd failed (other failure)

/-- A delivery that is inside the first layers, and there at the very first attempt, is a call
of the sink inside the others. -/
theorem deliver_reach (base : Base σ M) (message : M) (sink : LayeredSink σ M)
    (attempts : List Nat) (within : place ≤ sink.layers.length) :
    sink.deliver base ⟨message, List.replicate place 1 ++ attempts⟩ =
      (LayeredSink.reach base message place sink).onward base message place attempts := by
  induction place generalizing sink attempts with
  | zero => exact deliver_called base message sink attempts
  | succ place ih =>
      have found : sink.layers[place]? = some sink.layers[place] := List.getElem?_eq_getElem within
      have started : List.replicate (place + 1) 1 ++ attempts =
          List.replicate place 1 ++ 1 :: attempts := by
        rw [List.replicate_succ', List.append_assoc]
        rfl
      simp only [LayeredSink.reach, found]
      rw [started]
      cases layer : sink.layers[place] with
      | instrumented =>
          rw [ih sink _ (Nat.le_of_lt within)]
          have visited := reach_visited base message sink (Nat.le_of_lt within)
          rw [layer] at found
          exact Visit.onward_handsOn ((visited.untouched (Nat.le_refl place)).trans found) trivial
      | retry limit backoff =>
          rw [layer] at found
          exact deliver_insist (fun sink attempts => ih sink attempts) found
            (Nat.add_sub_cancel' (Nat.le_max_right ..))

/-- A message given to the outermost layer is a call through all of them. -/
theorem perform_reach (base : Base σ M) (message : M) (sink : LayeredSink σ M) :
    sink.perform base (.process message) =
      ((LayeredSink.reach base message sink.layers.length sink).outcome,
        (LayeredSink.reach base message sink.layers.length sink).sink) := by
  have started : (Delivery.start sink.layers message : Delivery M) =
      ⟨message, List.replicate sink.layers.length 1 ++ []⟩ := by
    rw [Delivery.start, List.map_const', List.append_nil]
  rw [LayeredSink.perform, started, deliver_reach base message sink [] (Nat.le_refl _)]
  have visited := reach_visited base message sink (Nat.le_refl _)
  obtain ⟨visit, reached⟩ : ∃ visit,
    LayeredSink.reach base message sink.layers.length sink = visit := ⟨_, rfl⟩
  rw [reached] at visited ⊢
  have settles (outcome : Outcome Unit) :
      (⟨message, []⟩ : Delivery M).settle base.name [] outcome = (.ends outcome, [], []) := by
    cases outcome <;> rfl
  rw [Visit.onward, ← visited.length, List.drop_length, settles]
  simp [LayeredSink.noting]

end Batching

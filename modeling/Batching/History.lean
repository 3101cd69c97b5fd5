import Batching.Outlet

namespace Batching

/-! Histories: moves made one after the other, each at its time.

A history is a list of moves together with the times at which they were made.  It has
a result only if every move was possible when it was made; the result is the state at
its end and all that was seen, in order.
-/

section

variable {σ μ ε : Type}

def follow? (step : Nat → σ → μ → Option (σ × List ε)) :
    σ → List (Nat × μ) → Option (σ × List ε)
  | state, [] => some (state, [])
  | state, (now, move) :: rest =>
      match step now state move with
      | none => none
      | some (next, seen) =>
          match follow? step next rest with
          | none => none
          | some (last, more) => some (last, seen ++ more)

variable {step : Nat → σ → μ → Option (σ × List ε)} {start last : σ} {events : List ε}
  {moves : List (Nat × μ)}

theorem follow?_cons_iff {now : Nat} {move : μ} :
    follow? step start ((now, move) :: moves) = some (last, events) ↔
      ∃ next seen more, step now start move = some (next, seen) ∧
        follow? step next moves = some (last, more) ∧ events = seen ++ more := by
  constructor
  · intro followed
    simp only [follow?] at followed
    split at followed
    · cases followed
    · rename_i next seen stepped
      split at followed
      · cases followed
      · rename_i after more rest
        cases followed
        exact ⟨next, seen, more, stepped, rest, rfl⟩
  · rintro ⟨next, seen, more, stepped, rest, rfl⟩
    simp only [follow?, stepped, rest]

theorem follow?_append {middle : σ} {seen more : List ε} {later : List (Nat × μ)}
    (early : follow? step start moves = some (middle, seen))
    (late : follow? step middle later = some (last, more)) :
    follow? step start (moves ++ later) = some (last, seen ++ more) := by
  induction moves generalizing start seen with
  | nil =>
      cases early
      exact late
  | cons first rest ih =>
      obtain ⟨now, move⟩ := first
      obtain ⟨next, shown, others, stepped, tail, rfl⟩ := follow?_cons_iff.mp early
      rw [List.append_assoc]
      exact follow?_cons_iff.mpr ⟨next, shown, others ++ more, stepped, ih tail, rfl⟩

/-- What every step keeps and what each step adds to a relation between the two ends of
a history hold of the whole history. -/
theorem follow?_induction (Holds : σ → Prop) (Relates : σ → List ε → σ → Prop)
    (kept : ∀ {now state move next seen}, Holds state →
      step now state move = some (next, seen) → Holds next)
    (refl : ∀ {state}, Holds state → Relates state [] state)
    (head : ∀ {now state move next seen last more}, Holds state →
      step now state move = some (next, seen) → Holds next → Relates next more last →
      Relates state (seen ++ more) last)
    (holds : Holds start) (followed : follow? step start moves = some (last, events)) :
    Holds last ∧ Relates start events last := by
  induction moves generalizing start events with
  | nil =>
      cases followed
      exact ⟨holds, refl holds⟩
  | cons first rest ih =>
      obtain ⟨now, move⟩ := first
      obtain ⟨next, seen, more, stepped, tail, rfl⟩ := follow?_cons_iff.mp followed
      obtain ⟨after, related⟩ := ih (kept holds stepped) tail
      exact ⟨after, head holds stepped (kept holds stepped) related⟩

/-- What these moves keep of a state and of all that has been seen before it holds of the end
of a history, and of all that has been seen then. -/
theorem follow?_carries (past : List ε) (Holds : List ε → σ → Prop)
    (kept : ∀ {past now state move next seen}, (now, move) ∈ moves → Holds past state →
      step now state move = some (next, seen) → Holds (past ++ seen) next)
    (holds : Holds past start) (followed : follow? step start moves = some (last, events)) :
    Holds (past ++ events) last := by
  induction moves generalizing start past events with
  | nil =>
      cases followed
      rwa [List.append_nil]
  | cons first rest ih =>
      obtain ⟨now, move⟩ := first
      obtain ⟨next, seen, more, stepped, tail, rfl⟩ := follow?_cons_iff.mp followed
      rw [← List.append_assoc]
      exact ih _ (fun member => kept (.tail _ member)) (kept (.head _) holds stepped) tail

/-- A step whose events carry the time of its move. -/
def clocked (step : Nat → σ → μ → Option (σ × List ε)) (now : Nat) (state : σ) (move : μ) :
    Option (σ × List (Nat × ε)) :=
  (step now state move).map fun (next, seen) => (next, seen.map fun event => (now, event))

theorem clocked_eq_some_iff {now : Nat} {move : μ} {timed : List (Nat × ε)} :
    clocked step now start move = some (last, timed) ↔
      ∃ seen, step now start move = some (last, seen) ∧
        timed = seen.map fun event => (now, event) := by
  constructor
  · intro shown
    obtain ⟨⟨next, seen⟩, stepped, same⟩ := Option.map_eq_some_iff.mp shown
    cases same
    exact ⟨seen, stepped, rfl⟩
  · rintro ⟨seen, stepped, rfl⟩
    simp only [clocked, stepped, Option.map_some]

end

namespace Accumulator

variable {M : Type}

/-- A history of an accumulator. -/
def run? (accumulator : Accumulator M) (moves : List (Nat × Move M)) :
    Option (Accumulator M × List (Event M)) :=
  follow? step accumulator moves

/-- A history of an accumulator, with the time of all that is seen. -/
def watch? (accumulator : Accumulator M) (moves : List (Nat × Move M)) :
    Option (Accumulator M × List (Nat × Event M)) :=
  follow? (clocked step) accumulator moves

end Accumulator

namespace Outlet

variable {M : Type}

def make (name : String) (policy : Policy) (reporter : Reporter) (sink : String)
    (layers : List Layer) : Outlet M :=
  { accumulator := Accumulator.make name policy reporter, sink, layers }

/-- A history of an accumulator and the layers of its sink. -/
def run? (outlet : Outlet M) (moves : List (Nat × OutletMove M)) :
    Option (Outlet M × List (OutletEvent M)) :=
  follow? step outlet moves

end Outlet

/-- One thing that may happen to a crew without an accumulator. -/
inductive DrillMove (M : Type) where
  | call (policy : Policy)
  | resume (runner : Nat) (cue : Cue M)

namespace Crew

variable {M : Type}

/-- Each call hires a runner for a single cycle. -/
def drill (now : Nat) (crew : Crew M) : DrillMove M → Option (Crew M × List (Event M))
  | .call policy => some (crew.hire policy false, [])
  | .resume runner cue => crew.step now runner cue

/-- A history of single cycles over one pipeline. -/
def run? (crew : Crew M) (moves : List (Nat × DrillMove M)) : Option (Crew M × List (Event M)) :=
  follow? drill crew moves

/-- A history of single cycles, with the time of all that is seen. -/
def watch? (crew : Crew M) (moves : List (Nat × DrillMove M)) :
    Option (Crew M × List (Nat × Event M)) :=
  follow? (clocked drill) crew moves

end Crew

end Batching

import Batching.Batch.Operation

namespace Batching.Batch

/-! The batch as a queue that loses nothing.

An operation replies what the content and its gate say, and by its reply it has let a message
in or taken one out.  What goes in and what comes out balance, so over any sequence of
operations the messages let in are those taken out followed by those still held, in order.
An operation sees the batch and nothing else: whether an earlier panic has poisoned the
lock changes no reply and no content.  So an operation that its gate bars might as well
not have been there.
-/

variable {M : Type}

namespace Guarded

theorem items_eq_batch (guarded : Guarded M) : guarded.items = guarded.batch := by
  unfold items lock
  cases guarded.poisoned <;> rfl

/-- The messages that the batch holds, oldest first. -/
def held (guarded : Guarded M) : List M :=
  guarded.items.toList

theorem held_store (guarded : Guarded M) (result : Reply M × Batch M) :
    (guarded.store result).2.held = result.2.toList := by
  rw [held, items_eq_batch]
  rfl

end Guarded

/-- The message that a reply hands out. -/
def Reply.message? : Reply M → Option M
  | .message popped => popped
  | _ => none

namespace Operation

variable {guarded other : Guarded M}

/-- What an operation replies if these messages are held. -/
def answer (held : List M) : Operation M → Reply M
  | .append _ => .done
  | .appendIf _ (.answers allowed) => .truth allowed
  | .popFront => .message held.head?
  | .popFrontIf (.answers allowed) => .message (if allowed then held.head? else none)
  | .size => .count held.length
  | .isEmpty => .truth held.isEmpty
  | .clear => .count held.length
  | .appendIf _ (.panics text) | .popFrontIf (.panics text) => .panicked text

/-- The messages that an operation has let in if this is its reply. -/
def admits : Operation M → Reply M → List M
  | .append message, _ => [message]
  | .appendIf message _, .truth true => [message]
  | _, _ => []

/-- The messages that an operation takes out: all that are held, or the one it hands out. -/
def removes (guarded : Guarded M) : Operation M → List M
  | .clear => guarded.held
  | operation => (apply guarded operation).1.message?.toList

/-- The operation asks a gate, and the gate refuses or panics. -/
def Barred : Operation M → Prop
  | .appendIf _ gate => gate ≠ .answers true
  | .popFrontIf gate => gate ≠ .answers true
  | _ => False

/-- The operation does not append, or its gate refuses or panics. -/
def Shut : Operation M → Prop
  | .append _ => False
  | .appendIf _ gate => gate ≠ .answers true
  | _ => True

/-- The number that a clear replies. -/
def cleared : Operation M → Reply M → Nat
  | .clear, .count dropped => dropped
  | _, _ => 0

def panics : Operation M → Bool
  | .appendIf _ (.panics _) => true
  | .popFrontIf (.panics _) => true
  | _ => false

theorem pop_balance (allowed : Bool) (batch : Batch M) :
    batch.toList = (pop allowed batch).1.message?.toList ++ (pop allowed batch).2.toList := by
  cases found : batch.popFrontIf? allowed with
  | none => simp only [pop, found, Reply.message?, Option.toList_none, List.nil_append]
  | some popped =>
      obtain ⟨message, rest⟩ := popped
      cases allowed with
      | false => cases found
      | true =>
          rw [popFront?_eq_some_iff.mp found]
          simp only [pop, found, Reply.message?, Option.toList_some, List.singleton_append]

theorem pop_reply (allowed : Bool) (batch : Batch M) :
    (pop allowed batch).1 = .message (if allowed then batch.toList.head? else none) := by
  cases allowed with
  | false => rfl
  | true =>
      cases found : batch.popFront? with
      | none =>
          have empty := popFront?_eq_none_iff.mp found
          simp only [pop, popFrontIf?, found, empty, if_true, List.head?_nil]
      | some popped =>
          have first := popFront?_eq_some_iff.mp found
          simp only [pop, popFrontIf?, found, first, if_true, List.head?_cons]

/-- The reply says what is held and what the gate has answered. -/
theorem apply_reply (guarded : Guarded M) (operation : Operation M) :
    (apply guarded operation).1 = operation.answer guarded.held := by
  cases operation with
  | appendIf message gate => cases gate <;> rfl
  | popFront => exact pop_reply true guarded.items
  | popFrontIf gate =>
      cases gate with
      | answers allowed => exact pop_reply allowed guarded.items
      | panics text => rfl
  | append | size | isEmpty | clear => rfl

theorem Shut.admits {operation : Operation M} (shut : operation.Shut) (guarded : Guarded M) :
    operation.admits (apply guarded operation).1 = [] := by
  rw [apply_reply]
  cases operation with
  | append message => exact shut.elim
  | appendIf message gate =>
      cases gate with
      | panics text => rfl
      | answers allowed =>
          cases allowed with
          | true => exact absurd rfl shut
          | false => rfl
  | _ => rfl

/-- What is held and what comes in are what goes out and what is held then. -/
theorem apply_balance (guarded : Guarded M) (operation : Operation M) :
    guarded.held ++ operation.admits (apply guarded operation).1 =
      operation.removes guarded ++ (apply guarded operation).2.held := by
  cases operation with
  | append message =>
      rw [apply, Guarded.held_store, toList_append]
      rfl
  | appendIf message gate =>
      cases gate with
      | answers allowed =>
          rw [apply, Guarded.ask, Guarded.held_store, toList_appendIf]
          cases allowed <;> rfl
      | panics text =>
          rw [apply, Guarded.ask, Guarded.held, Guarded.held, Guarded.items_eq_batch,
            Guarded.items_eq_batch]
          exact List.append_nil _
  | popFront =>
      rw [apply, Guarded.held_store]
      exact (List.append_nil _).trans (pop_balance true guarded.items)
  | popFrontIf gate =>
      cases gate with
      | answers allowed =>
          rw [apply, Guarded.ask, Guarded.held_store]
          exact (List.append_nil _).trans (pop_balance allowed guarded.items)
      | panics text =>
          rw [apply, Guarded.ask, Guarded.held, Guarded.held, Guarded.items_eq_batch,
            Guarded.items_eq_batch]
          exact List.append_nil _
  | size => exact List.append_nil _
  | isEmpty => exact List.append_nil _
  | clear =>
      rw [apply, Guarded.held_store]
      rfl

theorem removes_length (guarded : Guarded M) (operation : Operation M) :
    (operation.removes guarded).length =
      (apply guarded operation).1.message?.toList.length +
        operation.cleared (apply guarded operation).1 := by
  cases operation with
  | clear => exact (Nat.zero_add _).symm
  | _ => rfl

theorem message?_sublist_removes (guarded : Guarded M) (operation : Operation M) :
    (apply guarded operation).1.message?.toList.Sublist (operation.removes guarded) := by
  cases operation with
  | clear => exact List.nil_sublist _
  | _ => exact List.Sublist.refl _

/-- An operation sees the batch and nothing else. -/
theorem apply_congr (same : guarded.items = other.items) (operation : Operation M) :
    (apply guarded operation).1 = (apply other operation).1 ∧
      (apply guarded operation).2.items = (apply other operation).2.items := by
  have stored (result : Reply M × Batch M) :
      (guarded.store result).1 = (other.store result).1 ∧
        (guarded.store result).2.items = (other.store result).2.items := by
    simp only [Guarded.items_eq_batch]
    exact ⟨rfl, rfl⟩
  have poisons : ({ guarded with poisoned := true } : Guarded M).items =
      ({ other with poisoned := true } : Guarded M).items := by
    simpa only [Guarded.items_eq_batch] using same
  cases operation with
  | append message => simp only [apply, same]; exact stored _
  | appendIf message gate =>
      simp only [apply, same]
      cases gate with
      | answers allowed => exact stored _
      | panics text => exact ⟨rfl, poisons⟩
  | popFront => simp only [apply, same]; exact stored _
  | popFrontIf gate =>
      simp only [apply, same]
      cases gate with
      | answers allowed => exact stored _
      | panics text => exact ⟨rfl, poisons⟩
  | size => simp only [apply, same, and_self]
  | isEmpty => simp only [apply, same, and_self]
  | clear => simp only [apply, same]; exact stored _

theorem Barred.items_apply {operation : Operation M} (barred : operation.Barred)
    (guarded : Guarded M) : (apply guarded operation).2.items = guarded.items := by
  have refused {gate : Gate} (shut : gate ≠ .answers true)
      {proceed : Bool → Reply M × Batch M} (idle : (proceed false).2 = guarded.items) :
      (guarded.ask gate proceed).2.items = guarded.items := by
    cases gate with
    | panics text => simp only [Guarded.ask, Guarded.items_eq_batch]
    | answers allowed =>
        cases allowed with
        | true => exact absurd rfl shut
        | false =>
            simp only [Guarded.items_eq_batch] at idle ⊢
            exact idle
  cases operation with
  | appendIf message gate => exact refused barred rfl
  | popFrontIf gate => exact refused barred rfl
  | _ => exact barred.elim

theorem apply_poisoned (guarded : Guarded M) (operation : Operation M) :
    (apply guarded operation).2.poisoned = (guarded.poisoned || operation.panics) := by
  cases operation with
  | appendIf message gate => cases gate <;> simp [apply, Guarded.ask, Guarded.store, panics]
  | popFrontIf gate => cases gate <;> simp [apply, Guarded.ask, Guarded.store, panics]
  | _ => simp [apply, Guarded.store, panics]

/-! Sequences of operations. -/

/-- What the operations leave. -/
def after (guarded : Guarded M) (operations : List (Operation M)) : Guarded M :=
  ((trace guarded operations).getLast?.map Prod.snd).getD guarded

def replies (guarded : Guarded M) (operations : List (Operation M)) : List (Reply M) :=
  (trace guarded operations).map Prod.fst

/-- The messages that the operations let in, in order. -/
def admitted (guarded : Guarded M) : List (Operation M) → List M
  | [] => []
  | operation :: rest =>
      operation.admits (apply guarded operation).1 ++ admitted (apply guarded operation).2 rest

/-- The messages that the operations take out, in order. -/
def removed (guarded : Guarded M) : List (Operation M) → List M
  | [] => []
  | operation :: rest => operation.removes guarded ++ removed (apply guarded operation).2 rest

/-- The messages that pops hand out, in order. -/
def popped (guarded : Guarded M) (operations : List (Operation M)) : List M :=
  (replies guarded operations).filterMap Reply.message?

/-- The numbers that clears reply, added up. -/
def clearedTotal (guarded : Guarded M) : List (Operation M) → Nat
  | [] => 0
  | operation :: rest =>
      operation.cleared (apply guarded operation).1 +
        clearedTotal (apply guarded operation).2 rest

variable {operations : List (Operation M)}

theorem after_cons (guarded : Guarded M) (operation : Operation M) (rest : List (Operation M)) :
    after guarded (operation :: rest) = after (apply guarded operation).2 rest := by
  cases rest with
  | nil => rfl
  | cons next others =>
      simp only [after, trace, List.getLast?_cons_cons]
      rw [List.getLast?_cons, Option.map_some, Option.getD_some, Option.getD_some]

theorem after_append (guarded : Guarded M) (earlier later : List (Operation M)) :
    after guarded (earlier ++ later) = after (after guarded earlier) later := by
  induction earlier generalizing guarded with
  | nil => rfl
  | cons operation rest ih => rw [List.cons_append, after_cons, after_cons, ih]

theorem length_replies (guarded : Guarded M) (operations : List (Operation M)) :
    (replies guarded operations).length = operations.length := by
  induction operations generalizing guarded with
  | nil => rfl
  | cons operation rest ih => exact congrArg Nat.succ (ih (apply guarded operation).2)

theorem replies_append (guarded : Guarded M) (earlier later : List (Operation M)) :
    replies guarded (earlier ++ later) =
      replies guarded earlier ++ replies (after guarded earlier) later := by
  induction earlier generalizing guarded with
  | nil => rfl
  | cons operation rest ih =>
      rw [after_cons]
      exact congrArg (List.cons _) (ih (apply guarded operation).2)

/-- Each reply says what was held when its operation began. -/
theorem reply_eq_answer (guarded : Guarded M) (earlier : List (Operation M))
    (operation : Operation M) (later : List (Operation M)) :
    (replies guarded (earlier ++ operation :: later))[earlier.length]? =
      some (operation.answer (after guarded earlier).held) := by
  rw [replies_append, ← length_replies guarded earlier, List.getElem?_append_right (Nat.le_refl _),
    Nat.sub_self, ← apply_reply]
  rfl

theorem popped_cons (guarded : Guarded M) (operation : Operation M)
    (rest : List (Operation M)) :
    popped guarded (operation :: rest) =
      (apply guarded operation).1.message?.toList ++ popped (apply guarded operation).2 rest := by
  cases found : (apply guarded operation).1.message? <;>
    simp [popped, replies, trace, found]

theorem after_balance (guarded : Guarded M) (operations : List (Operation M)) :
    guarded.held ++ admitted guarded operations =
      removed guarded operations ++ (after guarded operations).held := by
  induction operations generalizing guarded with
  | nil => exact List.append_nil _
  | cons operation rest ih =>
      rw [admitted, ← List.append_assoc, apply_balance, List.append_assoc, ih, removed,
        after_cons, List.append_assoc]

theorem popped_sublist_removed (guarded : Guarded M) (operations : List (Operation M)) :
    (popped guarded operations).Sublist (removed guarded operations) := by
  induction operations generalizing guarded with
  | nil => exact List.Sublist.refl _
  | cons operation rest ih =>
      rw [popped_cons, removed]
      exact (message?_sublist_removes guarded operation).append (ih _)

theorem removed_length (guarded : Guarded M) (operations : List (Operation M)) :
    (removed guarded operations).length =
      (popped guarded operations).length + clearedTotal guarded operations := by
  induction operations generalizing guarded with
  | nil => rfl
  | cons operation rest ih =>
      rw [removed, List.length_append, removes_length, ih, popped_cons, List.length_append,
        clearedTotal]
      omega

/-- Operations see the batch and nothing else. -/
theorem trace_congr (same : guarded.items = other.items) (operations : List (Operation M)) :
    replies guarded operations = replies other operations ∧
      (after guarded operations).items = (after other operations).items := by
  induction operations generalizing guarded other with
  | nil => exact ⟨rfl, same⟩
  | cons operation rest ih =>
      obtain ⟨reply, next⟩ := apply_congr same operation
      obtain ⟨others, last⟩ := ih next
      rw [after_cons, after_cons]
      refine ⟨?_, last⟩
      simp only [replies, trace, List.map_cons] at others ⊢
      rw [reply, others]

theorem admitted_of_shut (shut : ∀ operation ∈ operations, operation.Shut)
    (guarded : Guarded M) : admitted guarded operations = [] := by
  induction operations generalizing guarded with
  | nil => rfl
  | cons operation rest ih =>
      obtain ⟨first, others⟩ := List.forall_mem_cons.mp shut
      rw [admitted, first.admits, ih others, List.append_nil]

theorem held_after_of_shut (shut : ∀ operation ∈ operations, operation.Shut)
    (empty : guarded.held = []) : (after guarded operations).held = [] := by
  have balance := after_balance guarded operations
  rw [admitted_of_shut shut, empty, List.append_nil] at balance
  exact (List.append_eq_nil_iff.mp balance.symm).2

theorem after_poisoned (guarded : Guarded M) (operations : List (Operation M)) :
    (after guarded operations).poisoned = (guarded.poisoned || operations.any panics) := by
  induction operations generalizing guarded with
  | nil => exact (Bool.or_false _).symm
  | cons operation rest ih =>
      rw [after_cons, ih, apply_poisoned, List.any_cons, Bool.or_assoc]

/-- For any operations on a new batch, with gates that allow, refuse or panic: each of them
replies what the content and its gate say; the messages that they have let in by their
replies are those taken out followed by those held, in order, and those that pops hand out
are among them in the same order; the messages popped, the counts that clears reply and the
size that the batch replies in the end add up to the messages let in; an operation whose gate
refuses or panics changes neither the content nor anything that a later operation replies or
leaves, though the lock is poisoned from the first panic on; and a clear leaves the batch
empty for as long as no operation appends, so through all gated operations once every gate
has shut. -/
theorem fifo_accounts (operations : List (Operation M)) :
    (∀ earlier operation later, operations = earlier ++ operation :: later →
        (replies {} operations)[earlier.length]? =
          some (operation.answer (after {} earlier).held)) ∧
      admitted {} operations = removed {} operations ++ (after {} operations).held ∧
      (popped {} operations).Sublist (admitted {} operations) ∧
      (∃ size, (apply (after {} operations) .size).1 = .count size ∧
        (popped {} operations).length + clearedTotal {} operations + size =
          (admitted {} operations).length) ∧
      (∀ earlier operation later, operations = earlier ++ operation :: later →
        operation.Barred →
          (after {} (earlier ++ [operation])).held = (after {} earlier).held ∧
          replies (after {} (earlier ++ [operation])) later = replies (after {} earlier) later ∧
          (after {} operations).held = (after {} (earlier ++ later)).held) ∧
      (after {} operations).poisoned = operations.any panics ∧
      ∀ earlier later, operations = earlier ++ .clear :: later →
        (∀ operation ∈ later, operation.Shut) → (after {} operations).held = [] := by
  have balance : admitted {} operations = removed {} operations ++ (after {} operations).held :=
    after_balance {} operations
  refine ⟨?_, balance, ?_, ?_, ?_, ?_, ?_⟩
  · rintro earlier operation later rfl
    exact reply_eq_answer {} earlier operation later
  · rw [balance]
    exact (popped_sublist_removed {} operations).trans (List.sublist_append_left _ _)
  · refine ⟨_, apply_reply (after {} operations) .size, ?_⟩
    rw [balance, List.length_append, removed_length]
  · rintro earlier operation later rfl barred
    have unchanged := barred.items_apply (after {} earlier)
    obtain ⟨sameReplies, sameItems⟩ := trace_congr unchanged later
    have ends : after {} (earlier ++ [operation]) = (apply (after {} earlier) operation).2 := by
      rw [after_append]
      rfl
    refine ⟨?_, ?_, ?_⟩
    · rw [ends, Guarded.held, unchanged, Guarded.held]
    · rw [ends]
      exact sameReplies
    · rw [after_append, after_cons, after_append, Guarded.held, sameItems, Guarded.held]
  · rw [after_poisoned, Bool.false_or]
  · rintro earlier later rfl shut
    rw [after_append, after_cons]
    exact held_after_of_shut shut (Guarded.held_store _ _)

/-- A gate that panics between two appends, and gates that refuse after a clear. -/
def crowdedGates : List (Operation Nat) :=
  [.append 1, .appendIf 2 (.answers true), .appendIf 3 (.panics "full"), .popFront, .append 4,
    .clear, .appendIf 5 (.answers false), .popFrontIf (.answers false)]

/-- Nothing shows that the panic was there, and the clear is final. -/
theorem fifo_accounts_of_panic :
    admitted {} crowdedGates = [1, 2, 4] ∧ popped {} crowdedGates = [1] ∧
      (replies {} crowdedGates)[5]? = some (.count 2) ∧
      (apply (after {} crowdedGates) .size).1 = .count 0 ∧
      replies (after {} (crowdedGates.take 3)) (crowdedGates.drop 3) =
        replies (after {} (crowdedGates.take 2)) (crowdedGates.drop 3) ∧
      (after {} crowdedGates).poisoned = true ∧ (after {} crowdedGates).held = [] := by
  obtain ⟨replied, balance, _, counted, barred, poisoned, cleared⟩ := fifo_accounts crowdedGates
  have empty : (after {} crowdedGates).held = [] :=
    cleared (crowdedGates.take 5) [.appendIf 5 (.answers false), .popFrontIf (.answers false)]
      rfl (by simp [Shut])
  have panicked := barred (crowdedGates.take 2) (.appendIf 3 (.panics "full"))
    (crowdedGates.drop 3) rfl nofun
  have dropped := replied (crowdedGates.take 5) .clear (crowdedGates.drop 6) rfl
  obtain ⟨size, sized, total⟩ := counted
  have none : size = 0 := by
    have total : 1 + 2 + size = 3 := total
    omega
  rw [empty, List.append_nil] at balance
  exact ⟨balance, rfl, dropped, none ▸ sized, panicked.2.1, poisoned, empty⟩

end Operation

end Batching.Batch

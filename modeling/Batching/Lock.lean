namespace Batching

/-! A mutual exclusion lock that is handed over in the order of the requests.

The lock passes straight from one holder to the next: while anyone waits it is
never free, and a newcomer cannot overtake.
-/

structure FairLock where
  holder : Option Nat := none
  waiting : List Nat := []
deriving DecidableEq, Repr

namespace FairLock

def free : FairLock := {}

/-- Takes the lock if nobody holds it, and otherwise joins the end of the queue. -/
def request (lock : FairLock) (who : Nat) : FairLock :=
  match lock.holder with
  | none => { lock with holder := some who }
  | some _ => { lock with waiting := lock.waiting ++ [who] }

/-- The longest waiting becomes the holder. -/
def release (lock : FairLock) : FairLock :=
  match lock.waiting with
  | [] => free
  | next :: rest => { holder := some next, waiting := rest }

/-- Only a lock that is held has a queue. -/
def WellFormed (lock : FairLock) : Prop :=
  lock.holder = none → lock.waiting = []

/-- The holder and those who wait, in the order in which they have the lock. -/
def order (lock : FairLock) : List Nat :=
  lock.holder.toList ++ lock.waiting

theorem wellFormed_free : free.WellFormed := fun _ => rfl

theorem wellFormed_request (lock : FairLock) (who : Nat) :
    (lock.request who).WellFormed := by
  intro unheld
  cases held : lock.holder with
  | none => simp [request, held] at unheld
  | some other => simp [request, held] at unheld

theorem wellFormed_release (lock : FairLock) : lock.release.WellFormed := by
  intro unheld
  cases queue : lock.waiting with
  | nil => simp [release, queue, free]
  | cons next rest => simp [release, queue] at unheld

theorem order_request {lock : FairLock} (wellFormed : lock.WellFormed) (who : Nat) :
    (lock.request who).order = lock.order ++ [who] := by
  cases held : lock.holder with
  | none => simp [request, order, held, wellFormed held]
  | some other => simp [request, order, held]

theorem order_release {lock : FairLock} (wellFormed : lock.WellFormed) :
    lock.release.order = lock.order.drop 1 := by
  cases held : lock.holder with
  | none => simp [release, order, held, wellFormed held, free]
  | some holder =>
      cases queue : lock.waiting with
      | nil => simp [release, order, held, queue, free]
      | cons next rest => simp [release, order, held, queue]

end FairLock

end Batching

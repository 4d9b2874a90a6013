/-!
# Channels

A first-in first-out queue between one sender and one receiver, bounded or not. Either side may go
away: what was queued before can still be received, and a sender learns that its receiver is gone.
A sender that waits for places is given each as it becomes free. It keeps them when the receiver
closes, until it moves again.
-/

namespace SerialRelay

/-- What a receiver sees when it looks at its channel. -/
inductive Poll (α : Type) where
  | ready (a : α)
  /-- Nothing is left and nothing can arrive. -/
  | ended
  | pending
  deriving DecidableEq, Repr

structure Channel (α : Type) where
  items : List α := []
  /-- The most items that wait at a time; none for no bound. -/
  capacity : Option Nat := none
  /-- The sender is still there. -/
  sending : Bool := true
  /-- The receiver still takes part. -/
  receiving : Bool := true
  /-- The places that a waiting sender had been given when the receiver closed. -/
  held : Nat := 0
  deriving DecidableEq, Repr

namespace Channel

variable {α : Type}

/-- What the receiver sees. A channel that it has closed ends when no sender holds a place in it. -/
def poll (c : Channel α) : Poll α :=
  match c.items with
  | a :: _ => .ready a
  | [] => if c.sending && (c.receiving || 0 < c.held) then .pending else .ended

/-- Drops the item in front. -/
def pop (c : Channel α) : Channel α := { c with items := c.items.tail }

def isFull (c : Channel α) : Bool :=
  match c.capacity with
  | none => false
  | some n => n ≤ c.items.length

/-- Adds an item behind the others. -/
def push (c : Channel α) (a : α) : Channel α := { c with items := c.items ++ [a] }

/-- The sender goes away. -/
def endSending (c : Channel α) : Channel α := { c with sending := false }

/-- The receiver goes away and takes the queue with it. -/
def dropReceiver (c : Channel α) : Channel α := { c with receiving := false, items := [] }

/-- The free places among those that a sender waits for. -/
def room (c : Channel α) (wanted : Nat) : Nat :=
  match c.capacity with
  | none => wanted
  | some n => min wanted (n - c.items.length)

/-- The receiver takes no more, but keeps what is queued. A sender that waits for so many places
keeps the free ones of them. -/
def close (c : Channel α) (wanted : Nat) : Channel α :=
  if c.receiving then { c with receiving := false, held := c.room wanted } else c

/-- What arrives when both sides are there. -/
def offer (c : Channel α) (a : α) : Option (Channel α) :=
  if c.sending && c.receiving then some (c.push a) else none

theorem items_of_poll_ready {c : Channel α} {a : α} (h : c.poll = .ready a) :
    c.items = a :: c.pop.items := by
  unfold poll at h
  split at h
  · next hi => simp only [Poll.ready.injEq] at h; simp [pop, hi, h]
  · split at h <;> cases h

theorem poll_ended {c : Channel α} (h : c.poll = .ended) :
    c.items = [] ∧ (c.receiving = true → c.sending = false) := by
  unfold poll at h
  split at h
  · cases h
  · next hi =>
    refine ⟨hi, fun hr => ?_⟩
    cases hs : c.sending <;> simp_all

theorem poll_pending {c : Channel α} (h : c.poll = .pending) :
    c.items = [] ∧ c.sending = true := by
  unfold poll at h
  split at h
  · cases h
  · next hi => exact ⟨hi, by cases hs : c.sending <;> simp_all⟩

theorem offer_eq_some {c d : Channel α} {a : α} (h : c.offer a = some d) :
    c.sending = true ∧ c.receiving = true ∧ d = c.push a := by
  unfold offer at h
  split at h
  · next hc =>
    simp only [Bool.and_eq_true] at hc
    exact ⟨hc.1, hc.2, (Option.some.inj h).symm⟩
  · cases h

end Channel

end SerialRelay

import SerialRelay.Bytes
import SerialRelay.Port.Error

/-!
# Devices and complete writes

A device answers each offer of octets by taking some of them or by a fault. A complete write offers
what is still pending until nothing is left, and a delivery flushes after it.

* `Device.writeAll`: the write loop within a number of calls; `none` means that the calls ran out.
* `Device.deliver`: the write and its flush, as a handle performs them.
* `Device.Patience.writeAll_isSome`: a device that interrupts a bounded number of times ends every
  write within the pending octets and that bound.
-/

namespace SerialRelay

/-- What a device answers when octets are offered to it. -/
inductive Answer where
  /-- It took that many of them from the front. -/
  | took (count : Nat)
  | failed (e : PortError)
  /-- The call never came back in order. -/
  | brokeDown
  deriving DecidableEq, Repr

/-- How a write or a flush ends. -/
inductive Outcome where
  | done
  | failed (e : PortError)
  | brokeDown
  deriving DecidableEq, Repr

/-- The write side of a port, over a state `σ`. -/
structure Device (σ : Type) where
  offer : σ → Bytes → Answer × σ
  flush : σ → Outcome × σ

namespace Device

variable {σ : Type} (d : Device σ)

/-- **The write loop**: offers what is pending, again after an interruption, in `calls` calls at
most. It breaks down on a count of more than was offered. -/
def writeAll : Nat → σ → Bytes → Option (Outcome × σ)
  | _, s, [] => some (.done, s)
  | 0, _, _ :: _ => none
  | calls + 1, s, b :: bs =>
    match d.offer s (b :: bs) with
    | (.took 0, t) => some (.failed (.writeZero (bs.length + 1)), t)
    | (.took (n + 1), t) =>
      if n ≤ bs.length then writeAll calls t (bs.drop n) else some (.brokeDown, t)
    | (.failed e, t) => if e.isInterrupted then writeAll calls t (b :: bs) else some (.failed e, t)
    | (.brokeDown, t) => some (.brokeDown, t)

/-- The flush after a complete write: a device that cannot flush has nothing left to do. -/
def settle (s : σ) : Except PortError Unit × σ :=
  match d.flush s with
  | (.done, t) => (.ok (), t)
  | (.failed e, t) => if e.isUnsupported then (.ok (), t) else (.error e, t)
  | (.brokeDown, t) => (.error .taskLost, t)

/-- **A delivery**: the complete write and, if it succeeds, one flush. -/
def deliver (calls : Nat) (s : σ) (data : Bytes) : Option (Except PortError Unit × σ) :=
  match d.writeAll calls s data with
  | none => none
  | some (.done, t) => some (d.settle t)
  | some (.failed e, t) => some (.error e, t)
  | some (.brokeDown, t) => some (.error .taskLost, t)

/-- A bound on the interruptions that a device has still to make. -/
structure Patience where
  bound : σ → Nat
  took : ∀ {s t : σ} {data : Bytes} {n : Nat}, d.offer s data = (.took n, t) → bound t ≤ bound s
  interrupted : ∀ {s t : σ} {data : Bytes} {e : PortError},
    d.offer s data = (.failed e, t) → e.isInterrupted → bound t < bound s

variable {d} (p : d.Patience)

theorem Patience.writeAll_isSome : ∀ (calls : Nat) (s : σ) (data : Bytes),
    data.length + p.bound s ≤ calls → (d.writeAll calls s data).isSome
  | _, _, [], _ => by simp [writeAll]
  | 0, _, _ :: _, h => by simp at h
  | calls + 1, s, b :: bs, h => by
    rw [List.length_cons] at h
    unfold writeAll
    split
    · rfl
    next n t ho =>
      have := p.took ho
      split
      next => exact Patience.writeAll_isSome calls t _ (by simp only [List.length_drop]; omega)
      next => rfl
    next e t ho =>
      split
      next hi =>
        have := p.interrupted ho hi
        exact Patience.writeAll_isSome calls t _ (by simp only [List.length_cons]; omega)
      next => rfl
    · rfl

theorem Patience.deliver_isSome (s : σ) (data : Bytes) :
    (d.deliver (data.length + p.bound s) s data).isSome := by
  have h := p.writeAll_isSome _ s data (Nat.le_refl _)
  unfold deliver
  split <;> simp_all

/-- The write loop of a patient device. -/
def Patience.write (s : σ) (data : Bytes) : Outcome × σ :=
  (d.writeAll (data.length + p.bound s) s data).get (p.writeAll_isSome _ s data (Nat.le_refl _))

/-- A delivery to a patient device. -/
def Patience.send (s : σ) (data : Bytes) : Except PortError Unit × σ :=
  (d.deliver (data.length + p.bound s) s data).get (p.deliver_isSome s data)

end Device

end SerialRelay

import Mathlib.Data.List.Basic
import SerialRelay.Port.Device

/-!
# Calls on a device

A device that keeps a record of the calls made on it shows what a write does to it.

* `PortCall`, `accepted`, `interruptions`: the calls on a device, what they have taken, and how
  often it interrupted.
* `Device.recorded`: a device that keeps a record of its calls.
* `OffersRest`, `Ends`: what the calls of a write offer, and how a write ends with the last of them.
-/

namespace SerialRelay

variable {σ : Type}

/-- A call on a device, with its answer. -/
inductive PortCall where
  | offered (data : Bytes) (answer : Answer)
  | flushed (outcome : Outcome)
  deriving DecidableEq, Repr

namespace Answer

/-- The octets that an answer takes from those offered. -/
def taken (data : Bytes) : Answer → Bytes
  | took n => data.take n
  | failed _ => []
  | brokeDown => []

/-- The octets that a device says that it has taken. -/
def count : Answer → ℕ
  | took n => n
  | failed _ => 0
  | brokeDown => 0

def isInterruption : Answer → Bool
  | failed e => e.isInterrupted
  | _ => false

/-- Whether the write loop goes on after this answer to an offer. -/
def passes (data : Bytes) : Answer → Bool
  | took n => 0 < n && n ≤ data.length
  | failed e => e.isInterrupted
  | brokeDown => false

/-- How the write loop ends with an answer that it does not pass over, with so many octets
pending. -/
def ending (pending : ℕ) : Answer → Outcome
  | took 0 => .failed (.writeZero pending)
  | took (_ + 1) => .brokeDown
  | failed e => .failed e
  | brokeDown => .brokeDown

theorem taken_append_drop (data : Bytes) (a : Answer) :
    a.taken data ++ data.drop a.count = data := by
  cases a with
  | took n => exact List.take_append_drop n data
  | failed e => rfl
  | brokeDown => rfl

theorem length_taken_pos {data : Bytes} {a : Answer} (hp : a.passes data = true) :
    0 < (a.taken data).length ∨ a.isInterruption = true := by
  cases a with
  | took n =>
    simp only [passes, Bool.and_eq_true, decide_eq_true_eq] at hp
    left
    simp only [taken, List.length_take]
    omega
  | failed e => exact .inr hp
  | brokeDown => cases hp

end Answer

namespace PortCall

def taken : PortCall → Bytes
  | offered data a => a.taken data
  | flushed _ => []

def isInterruption : PortCall → Bool
  | offered _ a => a.isInterruption
  | flushed _ => false

/-- Whether the write loop goes on after this call. -/
def passes : PortCall → Bool
  | offered data a => a.passes data
  | flushed _ => false

end PortCall

/-- **What calls have taken**, one piece after the other. -/
def accepted (log : List PortCall) : Bytes := log.flatMap PortCall.taken

theorem accepted_concat (log : List PortCall) (data : Bytes) (a : Answer) :
    accepted (log ++ [.offered data a]) = accepted log ++ a.taken data := by
  rw [accepted, List.flatMap_append, List.flatMap_singleton]
  rfl

/-- The interruptions among calls. -/
def interruptions (log : List PortCall) : ℕ := log.countP PortCall.isInterruption

/-- **Each call offers what the earlier ones have left**, and that is something. -/
def OffersRest (data : Bytes) (log : List PortCall) : Prop :=
  ∀ front call back, log = front ++ call :: back →
    ∃ rest answer, call = .offered rest answer ∧ rest ≠ [] ∧ accepted front ++ rest = data

/-- **How a loop ends**: all is taken, or there is a first answer that the loop does not pass over.
A count of nothing says how much is left. -/
inductive Ends (data : Bytes) (log : List PortCall) : Outcome → Prop
  | done (hpasses : ∀ c ∈ log, c.passes = true) (hall : accepted log = data) : Ends data log .done
  | tookNothing {front : List PortCall} {rest : Bytes}
      (hlog : log = front ++ [.offered rest (.took 0)])
      (hpasses : ∀ c ∈ front, c.passes = true) (hpre : accepted log <+: data)
      (hne : accepted log ≠ data) :
      Ends data log (.failed (.writeZero (data.length - (accepted log).length)))
  | failed {front : List PortCall} {rest : Bytes} {e : PortError}
      (hlog : log = front ++ [.offered rest (.failed e)])
      (hpasses : ∀ c ∈ front, c.passes = true) (he : e.isInterrupted = false)
      (hpre : accepted log <+: data)
      (hne : accepted log ≠ data) : Ends data log (.failed e)
  | brokeDown {front : List PortCall} {rest : Bytes} {a : Answer}
      (hlog : log = front ++ [.offered rest a])
      (hpasses : ∀ c ∈ front, c.passes = true)
      (ha : a = .brokeDown ∨ ∃ n, a = .took n ∧ rest.length < n) :
      Ends data log .brokeDown

theorem OffersRest.cons {data : Bytes} {a : Answer} {log : List PortCall}
    (h : OffersRest (data.drop a.count) log) (hne : data ≠ []) :
    OffersRest data (.offered data a :: log) := by
  intro front call back hlog
  cases front with
  | nil =>
    obtain ⟨rfl, -⟩ := List.cons.inj hlog
    exact ⟨data, a, rfl, hne, rfl⟩
  | cons c front =>
    obtain ⟨rfl, htail⟩ := List.cons.inj hlog
    obtain ⟨rest, answer, rfl, hrest, hall⟩ := h front call back htail
    refine ⟨rest, answer, rfl, hrest, ?_⟩
    rw [accepted, List.flatMap_cons, List.append_assoc]
    exact (congrArg _ hall).trans (Answer.taken_append_drop data a)

theorem OffersRest.concat {data rest : Bytes} {log : List PortCall} (h : OffersRest data log)
    (hne : rest ≠ []) (hall : accepted log ++ rest = data) (a : Answer) :
    OffersRest data (log ++ [.offered rest a]) := by
  intro front call back hlog
  rcases List.eq_nil_or_concat back with rfl | ⟨init, c, rfl⟩
  · obtain ⟨rfl, hlast⟩ := List.append_inj' hlog rfl
    obtain rfl := List.singleton_inj.1 hlast
    exact ⟨rest, a, rfl, hne, hall⟩
  · rw [List.concat_eq_append, ← List.cons_append, ← List.append_assoc] at hlog
    obtain ⟨hfront, -⟩ := List.append_inj' hlog rfl
    exact h front call init hfront

/-- **A device that keeps a record of the calls made on it.** -/
def Device.recorded (d : Device σ) : Device (σ × List PortCall) where
  offer s data :=
    ((d.offer s.1 data).1, (d.offer s.1 data).2, s.2 ++ [.offered data (d.offer s.1 data).1])
  flush s := ((d.flush s.1).1, (d.flush s.1).2, s.2 ++ [.flushed (d.flush s.1).1])

end SerialRelay

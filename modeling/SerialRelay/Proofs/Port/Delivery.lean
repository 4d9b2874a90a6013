import SerialRelay.Port.Terminal
import SerialRelay.Proofs.Port.Handles
import SerialRelay.Proofs.Port.Turns
import SerialRelay.Writer.Bench

/-!
# What a delivery does

A delivery is a write and, if that ends well, one flush. A fault of the write is its result, and
nothing is flushed; of the faults of a flush one is forgiven, that there is nothing to flush.

* `Device.Follows`: what a delivery does behind its write.
* `Device.deliver_mono`, `Device.Patience.deliver_eq_send`: enough calls are enough.
* `Terminals.deliverTo_eq_write`, `Bench.deliverTo_eq_deliver`: the deliveries of terminals and of a
  bench.
* `Device.deliver_succeeds_iff_all_taken`: when a delivery succeeds, its faults otherwise, and what
  it leaves to the handles on its device.
-/

namespace SerialRelay

variable {σ : Type}

def PortCall.isFlush : PortCall → Bool
  | offered _ _ => false
  | flushed _ => true

/-- Nothing is flushed while something is offered. -/
theorem OffersRest.countP_isFlush {data : Bytes} {log : List PortCall} (h : OffersRest data log) :
    log.countP PortCall.isFlush = 0 := by
  refine List.countP_eq_zero.2 fun c hc => ?_
  obtain ⟨front, back, rfl⟩ := List.append_of_mem hc
  obtain ⟨rest, a, rfl, -⟩ := h front c back rfl
  exact Bool.false_ne_true

/-- What a flush that ends like this means for the delivery. -/
def Outcome.verdict : Outcome → Except PortError Unit
  | done => .ok ()
  | failed e => if e.isUnsupported then .ok () else .error e
  | brokeDown => .error .taskLost

theorem Outcome.verdict_eq_ok_iff {o : Outcome} :
    o.verdict = .ok () ↔ o = .done ∨ ∃ e, o = .failed e ∧ e.isUnsupported = true := by
  cases o with
  | done => simp [verdict]
  | failed e => cases he : e.isUnsupported <;> simp [verdict, he]
  | brokeDown => simp [verdict]

theorem Outcome.verdict_eq_error_iff {o : Outcome} {e : PortError} :
    o.verdict = .error e ↔
      o = .failed e ∧ e.isUnsupported = false ∨ o = .brokeDown ∧ e = .taskLost := by
  cases o with
  | done => simp [verdict]
  | failed e' =>
    cases he : e'.isUnsupported with
    | true => simpa [verdict, he] using fun h => h ▸ he
    | false =>
      have hx : (Outcome.failed e').verdict = .error e' := by simp [verdict, he]
      rw [hx, Except.error.injEq, Outcome.failed.injEq]
      exact ⟨fun h => .inl ⟨h, h ▸ he⟩, fun h => h.elim And.left nofun⟩
  | brokeDown => simpa [verdict] using eq_comm

namespace Device

variable (d : Device σ)

/-- **What a delivery does behind its write**: one flush if that is done, else nothing. -/
inductive Follows : Outcome → σ → List PortCall → Except PortError Unit → σ → Prop
  | flushed {u : σ} : Follows .done u [.flushed (d.flush u).1] (d.flush u).1.verdict (d.flush u).2
  | failed {e : PortError} {u : σ} : Follows (.failed e) u [] (.error e) u
  | brokeDown {u : σ} : Follows .brokeDown u [] (.error .taskLost) u

variable {d}

theorem exists_follows (out : Outcome) (u : σ) : ∃ flushes x t, d.Follows out u flushes x t := by
  cases out with
  | done => exact ⟨_, _, _, .flushed⟩
  | failed e => exact ⟨_, _, _, .failed⟩
  | brokeDown => exact ⟨_, _, _, .brokeDown⟩

theorem settle_eq (s : σ) : d.settle s = ((d.flush s).1.verdict, (d.flush s).2) := by
  rw [settle]
  rcases d.flush s with ⟨_ | e | _, t⟩
  · rfl
  · cases he : e.isUnsupported <;> simp [Outcome.verdict, he]
  · rfl

theorem deliver_eq_none_iff {calls : ℕ} {s : σ} {data : Bytes} :
    d.deliver calls s data = none ↔ d.writeAll calls s data = none := by
  rw [deliver]
  rcases d.writeAll calls s data with _ | ⟨_ | e | _, t⟩ <;> simp

namespace Follows

variable {calls : ℕ} {s t u : σ} {data : Bytes} {out : Outcome} {x : Except PortError Unit}
  {flushes : List PortCall}

/-- **A delivery is its write and what follows.** -/
theorem deliver (h : d.Follows out u flushes x t) (hw : d.writeAll calls s data = some (out, u)) :
    d.deliver calls s data = some (x, t) := by
  rw [Device.deliver, hw]
  cases h with
  | flushed => exact congrArg some (settle_eq u)
  | failed => rfl
  | brokeDown => rfl

theorem recorded (h : d.Follows out u flushes x t) (log : List PortCall) :
    d.recorded.Follows out (u, log) flushes x (t, log ++ flushes) := by
  cases h with
  | flushed => exact .flushed
  | failed => rw [List.append_nil]; exact .failed
  | brokeDown => rw [List.append_nil]; exact .brokeDown

theorem flushes_eq (h : d.Follows out u flushes x t) :
    flushes = if out = .done then [.flushed (d.flush u).1] else [] := by
  cases h with
  | flushed => rfl
  | failed => rfl
  | brokeDown => rfl

theorem state_eq (h : d.Follows out u flushes x t) :
    t = if out = .done then (d.flush u).2 else u := by
  cases h with
  | flushed => rfl
  | failed => rfl
  | brokeDown => rfl

theorem eq_ok_iff (h : d.Follows out u flushes x t) :
    x = .ok () ↔
      ∃ o, flushes = [.flushed o] ∧ (o = .done ∨ ∃ e, o = .failed e ∧ e.isUnsupported = true) := by
  cases h with
  | flushed => simp [Outcome.verdict_eq_ok_iff]
  | failed => simp
  | brokeDown => simp

theorem eq_error_iff (h : d.Follows out u flushes x t) (e : PortError) :
    x = .error e ↔ out = .failed e ∨ out = .brokeDown ∧ e = .taskLost ∨
      ∃ o, flushes = [.flushed o] ∧
        (o = .failed e ∧ e.isUnsupported = false ∨ o = .brokeDown ∧ e = .taskLost) := by
  cases h with
  | flushed => simp [Outcome.verdict_eq_error_iff]
  | failed => simp
  | brokeDown => simpa using eq_comm

end Follows

/-- More calls than a delivery needs change nothing. -/
theorem deliver_mono {calls more : ℕ} {s : σ} {data : Bytes} {r : Except PortError Unit × σ}
    (h : d.deliver calls s data = some r) (hle : calls ≤ more) :
    d.deliver more s data = some r := by
  cases hw : d.writeAll calls s data with
  | none => rw [deliver_eq_none_iff.2 hw] at h; cases h
  | some w =>
    obtain ⟨log, hlog, hlength⟩ := exists_finishes hw
    rw [← h, Device.deliver, Device.deliver, hw, hlog.writeAll (Nat.le_trans hlength hle)]

/-- A delivery to a patient device, within enough calls. -/
theorem Patience.deliver_eq_send (p : d.Patience) {calls : ℕ} {s : σ} {data : Bytes}
    (hle : data.length + p.bound s ≤ calls) : d.deliver calls s data = some (p.send s data) :=
  deliver_mono (Option.some_get _).symm hle

end Device

/-- A write to the terminals is a delivery through a handle. -/
theorem Terminals.deliverTo_eq_write (timeout : Duration) (ts : Terminals) (h : Handle)
    (data : Bytes) {calls : ℕ} (hle : data.length ≤ calls) :
    (Terminal.device timeout).deliverTo calls ts h data = some (ts.write timeout h data) := by
  rw [Terminals.write, Terminals.on]
  cases hs : ts[h.device]? with
  | none => rw [Device.deliverTo_of_none hs]; rfl
  | some t =>
    rw [Device.deliverTo_of_some hs, (Terminal.patience timeout).deliver_eq_send hle]
    rfl

/-- A delivery on the bench is one through a handle on its simulated ports. -/
theorem Bench.deliverTo_eq_deliver (b : Bench) (h : Handle) (data : Bytes) {calls : ℕ}
    (hle : ∀ p, b.port? h.device = some p → data.length + p.device.interrupts ≤ calls) :
    FaultyPort.device.deliverTo calls (b.ports.map (·.device)) h data =
      some ((b.deliver h.device data).1, (b.deliver h.device data).2.ports.map (·.device)) := by
  rw [Bench.deliver]
  cases hp : b.port? h.device with
  | none =>
    have hs : (b.ports.map (·.device))[h.device]? = none := by
      rw [List.getElem?_map]
      exact congrArg _ hp
    rw [Device.deliverTo_of_none hs]
  | some p =>
    have hs : (b.ports.map (·.device))[h.device]? = some p.device := by
      rw [List.getElem?_map]
      exact congrArg _ hp
    rw [Device.deliverTo_of_some hs, FaultyPort.patience.deliver_eq_send (hle p hp)]
    simp [Bench.setPort, FaultyPort.send, List.map_set]

namespace Device

variable {d : Device σ}

/-- **A delivery succeeds exactly if the device took everything** and its one flush is no fault, or
a fault that says that there is nothing to flush. There is a flush just behind a write that is done.
Any fault of the write is the result as it is, also one that would be forgiven of a flush; so is any
other fault of the flush; and a breakdown is the loss of the task. Whatever came of the deliveries
before it, a delivery through any handle on a device is one to the device as the last has left
it. -/
theorem deliver_succeeds_iff_all_taken (d : Device σ) (calls : ℕ) :
    (∀ s data, (d.deliver calls s data = none ↔ d.writeAll calls s data = none) ∧
      ∀ out u, d.writeAll calls s data = some (out, u) →
        ∃ x t offers flushes, d.deliver calls s data = some (x, t) ∧
          d.recorded.writeAll calls (s, []) data = some (out, u, offers) ∧
          d.recorded.deliver calls (s, []) data = some (x, t, offers ++ flushes) ∧
          OffersRest data offers ∧ Ends data offers out ∧
          flushes = (if out = .done then [.flushed (d.flush u).1] else []) ∧
          (offers ++ flushes).countP PortCall.isFlush = (if out = .done then 1 else 0) ∧
          t = (if out = .done then (d.flush u).2 else u) ∧
          (x = .ok () ↔ accepted offers = data ∧
            ∃ o, flushes = [.flushed o] ∧
              (o = .done ∨ ∃ e, o = .failed e ∧ e.isUnsupported = true)) ∧
          ∀ e, x = .error e ↔ out = .failed e ∨ out = .brokeDown ∧ e = .io ⟨.other, .taskLost⟩ ∨
            ∃ o, flushes = [.flushed o] ∧
              (o = .failed e ∧ e.isUnsupported = false ∨
                o = .brokeDown ∧ e = .io ⟨.other, .taskLost⟩)) ∧
    ∀ ports writes, ((d.deliverAll calls ports writes).isSome ↔
        ∀ k s, ports[k]? = some s → (d.deliverEach calls s (dataFor k writes)).isSome) ∧
      ∀ done ports', d.deliverAll calls ports writes = some (done, ports') →
        done.map Call.target = writes ∧
        ∀ k s, ports[k]? = some s → ∃ t, ports'[k]? = some t ∧
          d.deliverEach calls s (dataFor k writes) = some (resultsFor k done, t) ∧
          ∀ (h : Handle) data, h.device = k → d.deliverAll calls ports (writes ++ [(h, data)]) =
            (d.deliver calls t data).map fun r => (done ++ [⟨h, data, r.1⟩], ports'.set k r.2) := by
  refine ⟨fun s data => ⟨deliver_eq_none_iff, fun out u hw => ?_⟩,
    fun ports writes => ⟨deliverAll_isSome_iff, fun done ports' hall =>
      ⟨target_of_deliverAll hall, fun k s hs => ?_⟩⟩⟩
  · obtain ⟨log, hlog, hle⟩ := exists_finishes hw
    obtain ⟨flushes, x, t, hx⟩ := exists_follows (d := d) out u
    have hrecord := hlog.writeAll_recorded hle []
    refine ⟨x, t, log, flushes, hx.deliver hw, hrecord, (hx.recorded log).deliver hrecord,
      hlog.offersRest, hlog.ends, hx.flushes_eq, ?_, hx.state_eq, ?_, hx.eq_error_iff⟩
    · rw [List.countP_append, hlog.offersRest.countP_isFlush, hx.flushes_eq, Nat.zero_add]
      split <;> rfl
    · refine ⟨fun hok => ⟨?_, hx.eq_ok_iff.1 hok⟩, fun h => hx.eq_ok_iff.2 h.2⟩
      obtain ⟨o, ho, -⟩ := hx.eq_ok_iff.1 hok
      cases hx with
      | flushed => cases hlog.ends with | done _ hall => exact hall
      | failed => cases ho
      | brokeDown => cases ho
  · obtain ⟨t, ht, heach⟩ := deliverEach_of_deliverAll hall hs
    refine ⟨t, ht, heach, ?_⟩
    rintro h data rfl
    rw [deliverAll_append, hall, Option.bind_some, deliverAll, deliverTo_of_some ht]
    cases d.deliver calls t data <;> rfl

end Device

namespace FaultyPort

/-- A port that times out once. -/
def late : FaultyPort := { port := { timeoutArmed := true } }

/-- A port that has nothing to flush. -/
def unflushed : FaultyPort := { flushError := some .unsupported }

end FaultyPort

theorem Device.deliver_succeeds_iff_all_taken_unflushed :
    (∃ x t log, FaultyPort.device.recorded.deliver 4 (FaultyPort.unflushed, []) [7] =
        some (x, t, log) ∧
      x = .ok () ∧ log.countP PortCall.isFlush = 1) ∧
    ∃ done ports t, FaultyPort.device.deliverAll 4 [FaultyPort.late, FaultyPort.unflushed]
        [(⟨0, "COM1"⟩, [1]), (⟨1, "COM2"⟩, [7])] = some (done, ports) ∧
      resultsFor 0 done = [.error (.timeout SimPort.timeoutSpan)] ∧
      FaultyPort.device.deliverAll 4 [FaultyPort.late, FaultyPort.unflushed]
          [(⟨0, "COM1"⟩, [1]), (⟨1, "COM2"⟩, [7]), (⟨0, "COM1"⟩, [2, 3])] =
        some (done ++ [⟨⟨0, "COM1"⟩, [2, 3], .ok ()⟩], ports.set 0 t) := by
  obtain ⟨hone, hall⟩ := Device.deliver_succeeds_iff_all_taken FaultyPort.device 4
  constructor
  · have hw : FaultyPort.device.writeAll 4 FaultyPort.unflushed [7] =
        some (.done, { FaultyPort.unflushed with port := { log := [[7]] } }) := by decide
    obtain ⟨x, t, offers, flushes, -, -, hrecord, -, hends, hflushes, hcount, -, hok, -⟩ :=
      (hone _ _).2 _ _ hw
    refine ⟨x, t, offers ++ flushes, hrecord, hok.2 ⟨?_, ?_⟩, hcount⟩
    · cases hends with
      | done _ haccepted => exact haccepted
    · exact ⟨_, hflushes, .inr ⟨_, rfl, rfl⟩⟩
  · have hfirst : FaultyPort.device.deliverAll 4 [FaultyPort.late, FaultyPort.unflushed]
        [(⟨0, "COM1"⟩, [1]), (⟨1, "COM2"⟩, [7])] =
          some ([⟨⟨0, "COM1"⟩, [1], .error (.timeout SimPort.timeoutSpan)⟩,
            ⟨⟨1, "COM2"⟩, [7], .ok ()⟩],
            [{}, { FaultyPort.unflushed with port := { log := [[7]] } }]) := rfl
    obtain ⟨-, hports⟩ := (hall _ _).2 _ _ hfirst
    obtain ⟨t, ht, -, hnext⟩ := hports 0 FaultyPort.late rfl
    obtain rfl : ({} : FaultyPort) = t := Option.some.inj ht
    exact ⟨_, _, _, hfirst, rfl, hnext ⟨0, "COM1"⟩ [2, 3] rfl⟩

end SerialRelay

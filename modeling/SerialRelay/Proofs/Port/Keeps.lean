import SerialRelay.Port.Simulated
import SerialRelay.Proofs.Port.Turns

/-!
# Devices that keep what they take

A device that keeps a record of the octets that it takes ends every write with a first part of the
data in the record, behind what was there before; a write that succeeds leaves all of it there.

* `Device.Keeps`: each offer adds to the record what it takes, a flush adds nothing.
* `Device.Keeps.writeAll`, `Device.Keeps.deliver`: what a write and a delivery add.
* `SimPort.keeps`, `FaultyPort.keeps`: the log of a simulated port is such a record.
-/

namespace SerialRelay

variable {σ : Type}

/-- **A device keeps what it takes.** -/
structure Device.Keeps (d : Device σ) (kept : σ → Bytes) : Prop where
  offer : ∀ s data, kept (d.offer s data).2 = kept s ++ (d.offer s data).1.taken data
  flush : ∀ s, kept (d.flush s).2 = kept s

namespace Device.Keeps

variable {d : Device σ} {kept : σ → Bytes}

theorem passes (hk : d.Keeps kept) {s t : σ} {data pending : Bytes} {log : List PortCall}
    (h : d.Passes s data log t pending) : kept t = kept s ++ accepted log := by
  induction h with
  | start => exact (List.append_nil _).symm
  | turn hne hp h ih =>
    rw [ih, hk.offer, List.append_assoc]
    rfl

theorem finishes (hk : d.Keeps kept) {s t : σ} {data : Bytes} {log : List PortCall} {out : Outcome}
    (h : d.Finishes s data log out t) : kept t = kept s ++ accepted log := by
  cases h with
  | all h => exact hk.passes h
  | last h hne hp =>
    rw [hk.offer, hk.passes h, accepted_concat, List.append_assoc]

/-- **A write adds a first part of the data**, and all of it if it ends well. -/
theorem writeAll (hk : d.Keeps kept) {calls : Nat} {s t : σ} {data : Bytes} {out : Outcome}
    (h : d.writeAll calls s data = some (out, t)) :
    ∃ accepted, accepted <+: data ∧ kept t = kept s ++ accepted ∧
      (out = .done → accepted = data) := by
  obtain ⟨log, hlog, -⟩ := exists_finishes h
  refine ⟨accepted log, hlog.accepted_prefix, hk.finishes hlog, ?_⟩
  rintro rfl
  cases hlog.ends with
  | done _ hall => exact hall

theorem settle (hk : d.Keeps kept) (s : σ) : kept (d.settle s).2 = kept s := by
  have hflush := hk.flush s
  unfold Device.settle
  split
  · next t ht => rw [ht] at hflush; exact hflush
  · next e t ht =>
    rw [ht] at hflush
    split <;> exact hflush
  · next t ht => rw [ht] at hflush; exact hflush

/-- **A delivery adds a first part of the data**, and all of it if it succeeds. -/
theorem deliver (hk : d.Keeps kept) {calls : Nat} {s t : σ} {data : Bytes}
    {x : Except PortError Unit} (h : d.deliver calls s data = some (x, t)) :
    ∃ accepted, accepted <+: data ∧ kept t = kept s ++ accepted ∧
      (x = .ok () → accepted = data) := by
  unfold Device.deliver at h
  split at h
  · cases h
  · next u hu =>
    obtain ⟨accepted, hpre, hkept, hdone⟩ := hk.writeAll hu
    have ht : t = (d.settle u).2 := (congrArg Prod.snd (Option.some.inj h)).symm
    exact ⟨accepted, hpre, by rw [ht, hk.settle, hkept], fun _ => hdone rfl⟩
  · next e u hu =>
    obtain ⟨accepted, hpre, hkept, -⟩ := hk.writeAll hu
    cases h
    exact ⟨accepted, hpre, hkept, nofun⟩
  · next u hu =>
    obtain ⟨accepted, hpre, hkept, -⟩ := hk.writeAll hu
    cases h
    exact ⟨accepted, hpre, hkept, nofun⟩

end Device.Keeps

namespace SimPort

theorem transmitted_accept (p : SimPort) (data : Bytes) :
    (p.accept data).2.transmitted = p.transmitted ++ (p.accept data).1.taken data := by
  by_cases hn : (p.maxChunk.getD data.length).min data.length = 0
  · simp [accept, hn, Answer.taken]
  · simp [accept, hn, Answer.taken, transmitted]

/-- The log of a simulated port keeps what the port takes. -/
theorem keeps : device.Keeps transmitted where
  offer p data := by
    simp only [device, offer]
    split
    · simp [Answer.taken]
    · split
      · simp [Answer.taken, transmitted]
      · split
        · simp [Answer.taken]
        · exact transmitted_accept _ data
        · exact transmitted_accept p data
  flush p := by
    simp only [device, flush]
    split
    · rfl
    · split <;> rfl

end SimPort

namespace FaultyPort

/-- What the port has taken. -/
def transmitted (p : FaultyPort) : Bytes := p.port.transmitted

theorem keeps : device.Keeps transmitted where
  offer p data := by
    simp only [device, offer]
    split
    · simp [Answer.taken]
    · split
      · simp [Answer.taken, transmitted]
      · exact SimPort.keeps.offer p.port data
  flush p := by
    simp only [device, flush]
    split
    · rfl
    · exact SimPort.keeps.flush p.port

/-- **A delivery to a port adds a first part of the data to its log**, and all of it if it
succeeds. -/
theorem transmitted_send (p : FaultyPort) (data : Bytes) :
    ∃ accepted, accepted <+: data ∧ (p.send data).2.transmitted = p.transmitted ++ accepted ∧
      ((p.send data).1 = .ok () → accepted = data) := by
  have hsend : device.deliver (data.length + patience.bound p) p data = some (p.send data) :=
    (Option.some_get _).symm
  exact keeps.deliver hsend

end FaultyPort

end SerialRelay

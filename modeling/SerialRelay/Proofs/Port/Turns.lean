import SerialRelay.Proofs.Port.Record

/-!
# The turns of the write loop

A turn of the write loop offers what is pending. Most answers are passed over, a count of some
octets or an interruption; then the loop goes on with what is left. The first other answer ends it.

* `Device.writeAll_turn`: one turn of the loop.
* `Device.Passes`: the calls that the loop has passed over, and where it then stands.
* `Device.Finishes`: the calls of a loop that ends.
* `Device.finishes_or_passes`: within any number of calls the loop has ended, or it has passed over
  all of them.
* `Device.exists_finishes`: the calls of a loop that is seen to end.
* `Device.Patience.finishes`: the calls of a complete write to a patient device.
-/

namespace SerialRelay.Device

variable {σ : Type} {d : Device σ}

/-- **One turn of the write loop.** -/
theorem writeAll_turn {data : Bytes} (hne : data ≠ []) (calls : ℕ) (s : σ) :
    d.writeAll (calls + 1) s data =
      if (d.offer s data).1.passes data then
        d.writeAll calls (d.offer s data).2 (data.drop (d.offer s data).1.count)
      else some ((d.offer s data).1.ending data.length, (d.offer s data).2) := by
  obtain ⟨b, bs, rfl⟩ := List.exists_cons_of_ne_nil hne
  rw [Device.writeAll]
  rcases d.offer s (b :: bs) with ⟨(_ | n) | e | _, t⟩
  · rfl
  · by_cases hn : n ≤ bs.length <;> simp [Answer.passes, Answer.count, Answer.ending, hn]
  · cases he : e.isInterrupted <;> simp [Answer.passes, Answer.count, Answer.ending, he]
  · rfl

theorem writeAll_recorded_turn {data : Bytes} (hne : data ≠ []) (calls : ℕ) (s : σ)
    (before : List PortCall) :
    d.recorded.writeAll (calls + 1) (s, before) data =
      if (d.offer s data).1.passes data then
        d.recorded.writeAll calls ((d.offer s data).2, before ++ [.offered data (d.offer s data).1])
          (data.drop (d.offer s data).1.count)
      else some ((d.offer s data).1.ending data.length, (d.offer s data).2,
        before ++ [.offered data (d.offer s data).1]) :=
  writeAll_turn hne calls (s, before)

theorem writeAll_nil (calls : ℕ) (s : σ) : d.writeAll calls s [] = some (.done, s) := by
  cases calls <;> rfl

theorem writeAll_zero {data : Bytes} (hne : data ≠ []) (s : σ) : d.writeAll 0 s data = none := by
  obtain ⟨b, bs, rfl⟩ := List.exists_cons_of_ne_nil hne
  rfl

/-- Without its record the loop is the loop. -/
theorem map_writeAll_recorded (calls : ℕ) (s : σ) (before : List PortCall) (data : Bytes) :
    (d.recorded.writeAll calls (s, before) data).map (fun r => (r.1, r.2.1)) =
      d.writeAll calls s data := by
  induction calls generalizing s before data with
  | zero => cases data <;> rfl
  | succ calls ih =>
    by_cases hne : data = []
    · subst hne
      rfl
    · rw [writeAll_recorded_turn hne, writeAll_turn hne]
      split
      · exact ih _ _ _
      · rfl

/-- **The calls that the loop has passed over**, from a device and what is offered to it to the
device behind them and what is then pending. -/
inductive Passes (d : Device σ) : σ → Bytes → List PortCall → σ → Bytes → Prop
  | start {s : σ} {data : Bytes} : Passes d s data [] s data
  | turn {s t : σ} {data pending : Bytes} {log : List PortCall} (hne : data ≠ [])
      (hp : (d.offer s data).1.passes data = true)
      (h : Passes d (d.offer s data).2 (data.drop (d.offer s data).1.count) log t pending) :
      Passes d s data (.offered data (d.offer s data).1 :: log) t pending

namespace Passes

variable {s t : σ} {data pending : Bytes} {log : List PortCall}

/-- **Behind these calls the loop is the loop on what is pending**, and they are on record. -/
theorem writeAll_recorded (h : d.Passes s data log t pending) (more : ℕ) (before : List PortCall) :
    d.recorded.writeAll (log.length + more) (s, before) data =
      d.recorded.writeAll more (t, before ++ log) pending := by
  induction h generalizing before with
  | start => rw [List.append_nil, List.length_nil, Nat.zero_add]
  | @turn s t data pending log hne hp h ih =>
    rw [List.length_cons, Nat.add_right_comm, writeAll_recorded_turn hne, if_pos hp, ih,
      List.append_assoc]
    rfl

theorem writeAll (h : d.Passes s data log t pending) (more : ℕ) :
    d.writeAll (log.length + more) s data = d.writeAll more t pending := by
  rw [← map_writeAll_recorded _ s [], h.writeAll_recorded, map_writeAll_recorded]

theorem passes (h : d.Passes s data log t pending) : ∀ c ∈ log, c.passes = true := by
  induction h with
  | start => nofun
  | turn hne hp h ih => exact List.forall_mem_cons.2 ⟨hp, ih⟩

/-- What is taken and what is pending make up the data. -/
theorem accepted_append (h : d.Passes s data log t pending) : accepted log ++ pending = data := by
  induction h with
  | start => rfl
  | @turn s t data pending log hne hp h ih =>
    rw [accepted, List.flatMap_cons, List.append_assoc]
    exact (congrArg _ ih).trans (Answer.taken_append_drop data _)

theorem offersRest (h : d.Passes s data log t pending) : OffersRest data log := by
  induction h with
  | start => exact fun front call back hlog => by simp at hlog
  | @turn s t data pending log hne hp h ih => exact ih.cons hne

/-- Each call takes something or is interrupted. -/
theorem length_le (h : d.Passes s data log t pending) :
    log.length ≤ (accepted log).length + interruptions log := by
  induction h with
  | start => exact Nat.zero_le _
  | @turn s t data pending log hne hp h ih =>
    have hcall := Answer.length_taken_pos hp
    rw [accepted, interruptions] at ih
    rw [accepted, interruptions, List.flatMap_cons, List.length_append, List.countP_cons,
      List.length_cons]
    simp only [PortCall.taken, PortCall.isInterruption]
    rcases hcall with hcall | hcall
    · omega
    · simp only [hcall, if_true]
      omega

/-- An answer that is not passed over ends the loop. -/
theorem ends (h : d.Passes s data log t pending) (hne : pending ≠ []) {a : Answer}
    (ha : a.passes pending = false) :
    Ends data (log ++ [.offered pending a]) (a.ending pending.length) := by
  have hall := h.accepted_append
  -- where nothing is taken at last, what is pending is missing
  have hmissing (htaken : a.taken pending = []) : accepted (log ++ [.offered pending a]) <+: data ∧
      accepted (log ++ [.offered pending a]) ≠ data := by
    rw [accepted_concat, htaken, List.append_nil]
    refine ⟨⟨pending, hall⟩, fun hsame => hne ?_⟩
    rw [hsame] at hall
    exact List.append_right_eq_self.1 hall
  cases a with
  | took n =>
    cases n with
    | zero =>
      obtain ⟨hpre, hneq⟩ := hmissing rfl
      have hrest : pending.length =
          data.length - (accepted (log ++ [.offered pending (.took 0)])).length := by
        have hlength := congrArg List.length hall
        rw [List.length_append] at hlength
        rw [accepted_concat, List.length_append]
        simp only [Answer.taken, List.take_zero, List.length_nil]
        omega
      rw [Answer.ending, hrest]
      exact .tookNothing rfl h.passes hpre hneq
    | succ n =>
      refine .brokeDown rfl h.passes (.inr ⟨n + 1, rfl, ?_⟩)
      simpa [Answer.passes] using ha
  | failed e =>
    obtain ⟨hpre, hneq⟩ := hmissing rfl
    exact .failed rfl h.passes ha hpre hneq
  | brokeDown => exact .brokeDown rfl h.passes (.inl rfl)

end Passes

variable {s : σ} {data : Bytes}

/-- **The calls of a loop that ends**: it passes over all of them with nothing left, or over all but
the last. -/
inductive Finishes (d : Device σ) (s : σ) (data : Bytes) : List PortCall → Outcome → σ → Prop
  | all {t : σ} {log : List PortCall} (h : d.Passes s data log t []) : Finishes d s data log .done t
  | last {t : σ} {pending : Bytes} {log : List PortCall} (h : d.Passes s data log t pending)
      (hne : pending ≠ [])
      (hp : (d.offer t pending).1.passes pending = false) :
      Finishes d s data (log ++ [.offered pending (d.offer t pending).1])
        ((d.offer t pending).1.ending pending.length) (d.offer t pending).2

namespace Finishes

variable {t : σ} {log : List PortCall} {out : Outcome}

/-- **The loop ends like this** as soon as it is given that many calls, and has them on record. -/
theorem writeAll_recorded (h : d.Finishes s data log out t) {calls : ℕ}
    (hcalls : log.length ≤ calls) (before : List PortCall) :
    d.recorded.writeAll calls (s, before) data = some (out, t, before ++ log) := by
  cases h with
  | all h =>
    obtain ⟨more, rfl⟩ := Nat.exists_eq_add_of_le hcalls
    rw [h.writeAll_recorded, writeAll_nil]
  | @last t pending log h hne hp =>
    rw [List.length_append, List.length_singleton] at hcalls
    obtain ⟨more, rfl⟩ := Nat.exists_eq_add_of_le hcalls
    rw [Nat.add_assoc, Nat.add_comm 1, h.writeAll_recorded, writeAll_recorded_turn hne,
      if_neg (Bool.eq_false_iff.1 hp), List.append_assoc]

theorem writeAll (h : d.Finishes s data log out t) {calls : ℕ} (hcalls : log.length ≤ calls) :
    d.writeAll calls s data = some (out, t) := by
  rw [← map_writeAll_recorded _ s [], h.writeAll_recorded hcalls]
  rfl

/-- One more turn in front. -/
theorem turn (hne : data ≠ []) (hp : (d.offer s data).1.passes data = true)
    (h : d.Finishes (d.offer s data).2 (data.drop (d.offer s data).1.count) log out t) :
    d.Finishes s data (.offered data (d.offer s data).1 :: log) out t := by
  cases h with
  | all h => exact .all (.turn hne hp h)
  | last h hne' hp' => exact .last (.turn hne hp h) hne' hp'

theorem offersRest (h : d.Finishes s data log out t) : OffersRest data log := by
  cases h with
  | all h => exact h.offersRest
  | last h hne hp => exact h.offersRest.concat hne h.accepted_append _

theorem ends (h : d.Finishes s data log out t) : Ends data log out := by
  cases h with
  | all h =>
    have hall := h.accepted_append
    rw [List.append_nil] at hall
    exact .done h.passes hall
  | last h hne hp => exact h.ends hne hp

theorem accepted_prefix (h : d.Finishes s data log out t) : accepted log <+: data := by
  cases h with
  | all h => exact ⟨[], h.accepted_append⟩
  | @last t pending log h hne hp =>
    refine ⟨pending.drop (d.offer t pending).1.count, ?_⟩
    rw [accepted_concat, List.append_assoc, Answer.taken_append_drop, h.accepted_append]

theorem length_le (h : d.Finishes s data log out t) :
    log.length ≤ data.length + interruptions log := by
  cases h with
  | all h =>
    have hle := h.length_le
    rwa [← List.append_nil (accepted log), h.accepted_append] at hle
  | @last t pending log h hne hp =>
    have hle := h.length_le
    have hall := congrArg List.length h.accepted_append
    have hpos := List.length_pos_iff.2 hne
    rw [List.length_append] at hall
    rw [interruptions] at hle
    rw [interruptions, List.countP_append, List.length_append, List.length_singleton]
    omega

end Finishes

/-- **Within any number of calls** the loop has ended, or it has passed over all of them with
something left. -/
theorem finishes_or_passes (calls : ℕ) (s : σ) (data : Bytes) :
    (∃ log out t, d.Finishes s data log out t ∧ log.length ≤ calls) ∨
      ∃ log t pending, d.Passes s data log t pending ∧ log.length = calls ∧ pending ≠ [] := by
  by_cases hne : data = []
  · subst hne
    exact .inl ⟨[], .done, s, .all .start, Nat.zero_le _⟩
  induction calls generalizing s data with
  | zero => exact .inr ⟨[], s, data, .start, rfl, hne⟩
  | succ calls ih =>
    by_cases hp : (d.offer s data).1.passes data = true
    · by_cases hrest : data.drop (d.offer s data).1.count = []
      · have hturn := Passes.turn hne hp .start
        rw [hrest] at hturn
        exact .inl ⟨_, _, _, .all hturn, by simp⟩
      · rcases ih (d.offer s data).2 _ hrest with
            ⟨log, out, t, h, hle⟩ | ⟨log, t, pending, h, hlength, hpending⟩
        · exact .inl ⟨_, out, t, h.turn hne hp, Nat.succ_le_succ hle⟩
        · exact .inr ⟨_, t, pending, .turn hne hp h, congrArg (· + 1) hlength, hpending⟩
    · exact .inl ⟨_, _, _, .last .start hne (Bool.eq_false_iff.2 hp), by simp⟩

/-- A loop that ends does so within its calls. -/
theorem exists_finishes {calls : ℕ} {t : σ} {out : Outcome}
    (hw : d.writeAll calls s data = some (out, t)) :
    ∃ log, d.Finishes s data log out t ∧ log.length ≤ calls := by
  rcases finishes_or_passes (d := d) calls s data with
      ⟨log, out', t', h, hle⟩ | ⟨log, t', pending, h, rfl, hne⟩
  · rw [h.writeAll hle] at hw
    cases hw
    exact ⟨log, h, hle⟩
  · have hnone := (h.writeAll 0).trans (writeAll_zero hne t')
    rw [Nat.add_zero, hw] at hnone
    cases hnone

/-- The calls of a complete write to a patient device. -/
def Patience.calls (p : d.Patience) (s : σ) (data : Bytes) : List PortCall :=
  (d.recorded.writeAll (data.length + p.bound s) (s, []) data).elim [] (·.2.2)

/-- **A complete write to a patient device is made of its calls.** -/
theorem Patience.finishes (p : d.Patience) (s : σ) (data : Bytes) :
    d.Finishes s data (p.calls s data) (p.write s data).1 (p.write s data).2 := by
  have hwrite : d.writeAll (data.length + p.bound s) s data =
      some ((p.write s data).1, (p.write s data).2) :=
    (Option.some_get _).symm
  obtain ⟨log, hlog, hle⟩ := exists_finishes hwrite
  have hcalls : p.calls s data = log := by
    rw [Patience.calls, hlog.writeAll_recorded hle]
    rfl
  rwa [hcalls]

end SerialRelay.Device

import SerialRelay.Port.Simulated
import SerialRelay.Proofs.Port.Turns

/-!
# What the write loop does

The write loop offers just what is left of the data until nothing is left or an answer ends it, and
interruptions only add calls: a device without them takes the same pieces, with the same end.

* `Device.Answers`, `Device.IsUninterrupted`: what a device answers in the end, and a device that
  says so at once.
* `Device.Passes.uninterrupted`, `Device.Finishes.uninterrupted`: the loop over such a device.
* `Device.writeAll_neither_loses_nor_repeats`: what is offered, what is taken, how the loop ends,
  and after how many calls.
-/

namespace SerialRelay

variable {σ : Type}

namespace Device

variable {d : Device σ} {s : σ} {data : Bytes}

/-- What a device answers in the end, if the same is offered again after each interruption. -/
inductive Answers (d : Device σ) (data : Bytes) : σ → Answer → σ → Prop
  | now {s : σ} (h : (d.offer s data).1.isInterruption = false) :
      Answers d data s (d.offer s data).1 (d.offer s data).2
  | later {s t : σ} {a : Answer} (h : (d.offer s data).1.isInterruption = true)
      (hnext : Answers d data (d.offer s data).2 a t) : Answers d data s a t

/-- **A device without the interruptions of another one**: it gives at once the answer that comes in
the end. -/
def IsUninterrupted (d' d : Device σ) : Prop :=
  ∀ s data a t, data ≠ [] → d.Answers data s a t → d'.offer s data = (a, t)

/-- **The loop over a device without interruptions** passes over the other calls alone, with the
same left; and it then stands where its next answer is that of the interrupted device. -/
theorem Passes.uninterrupted {d' : Device σ} (hd : d'.IsUninterrupted d) {t : σ} {pending : Bytes}
    {log : List PortCall} (h : d.Passes s data log t pending) :
    ∃ t', d'.Passes s data (log.filter (!·.isInterruption)) t' pending ∧ (pending = [] → t' = t) ∧
      ∀ a u, pending ≠ [] → d.Answers pending t a u → d'.offer t' pending = (a, u) := by
  -- behind interruptions the device has moved on, while the other has not; it stands at `s₀`, where
  -- it gives at once what is answered in the end
  suffices hall : ∀ s₀, (data = [] → s₀ = s) →
      (∀ a u, data ≠ [] → d.Answers data s a u → d'.offer s₀ data = (a, u)) →
      ∃ t', d'.Passes s₀ data (log.filter (!·.isInterruption)) t' pending ∧
        (pending = [] → t' = t) ∧
        ∀ a u, pending ≠ [] → d.Answers pending t a u → d'.offer t' pending = (a, u) from
    hall s (fun _ => rfl) fun a u hne => hd s data a u hne
  induction h with
  | start => exact fun s₀ hnil hoffer => ⟨s₀, .start, hnil, hoffer⟩
  | @turn s t data pending log hne hp h ih =>
    intro s₀ _ hoffer
    by_cases hi : (d.offer s data).1.isInterruption = true
    · have hsame : data.drop (d.offer s data).1.count = data := by
        cases ha : (d.offer s data).1 with
        | failed e => rfl
        | took n => rw [ha] at hi; cases hi
        | brokeDown => rw [ha] at hi; cases hi
      have hdrop : PortCall.isInterruption (.offered data (d.offer s data).1) = true := hi
      rw [List.filter_cons_of_neg (by rw [hdrop]; exact Bool.false_ne_true)]
      rw [hsame] at ih
      exact ih s₀ (fun hnil => absurd hnil hne) fun a u _ hnext => hoffer a u hne (.later hi hnext)
    · have hnow : d'.offer s₀ data = ((d.offer s data).1, (d.offer s data).2) :=
        hoffer _ _ hne (.now (Bool.eq_false_iff.2 hi))
      have hkeep : PortCall.isInterruption (.offered data (d.offer s data).1) = false :=
        Bool.eq_false_iff.2 hi
      rw [List.filter_cons_of_pos (by rw [hkeep]; rfl)]
      obtain ⟨t', h', hend⟩ := ih (d.offer s data).2 (fun _ => rfl) fun a u hne' => hd _ _ a u hne'
      have hturn : d'.Passes s₀ data
          (.offered data (d'.offer s₀ data).1 :: log.filter (!·.isInterruption)) t'
          pending :=
        .turn hne (by rw [hnow]; exact hp) (by rw [hnow]; exact h')
      rw [hnow] at hturn
      exact ⟨t', hturn, hend⟩

/-- **Without its interruptions a device ends the loop alike**, by its other calls alone. -/
theorem Finishes.uninterrupted {d' : Device σ} (hd : d'.IsUninterrupted d) {t : σ}
    {log : List PortCall} {out : Outcome} (h : d.Finishes s data log out t) :
    d'.Finishes s data (log.filter (!·.isInterruption)) out t := by
  cases h with
  | all h =>
    obtain ⟨t', h', hsame, -⟩ := h.uninterrupted hd
    rw [hsame rfl] at h'
    exact .all h'
  | @last t pending log h hne hp =>
    obtain ⟨t', h', -, hoffer⟩ := h.uninterrupted hd
    have hkeep : (d.offer t pending).1.isInterruption = false := by
      cases ha : (d.offer t pending).1 with
      | failed e => rwa [ha] at hp
      | took n => rfl
      | brokeDown => rfl
    have hnow := hoffer _ _ hne (.now hkeep)
    have hlast : d'.Finishes s data
        (log.filter (!·.isInterruption) ++ [.offered pending (d'.offer t' pending).1])
        ((d'.offer t' pending).1.ending pending.length) (d'.offer t' pending).2 :=
      .last h' hne (by rw [hnow]; exact hp)
    rw [hnow] at hlast
    have hone : PortCall.isInterruption (.offered pending (d.offer t pending).1) = false := hkeep
    rwa [List.filter_append, List.filter_singleton, hone]

/-- **The write loop neither loses, repeats nor reorders octets.** Each call offers just what the
earlier ones have left, which is never nothing. Within any number of calls the loop has ended, or
the device has answered all of them in such a way that it goes on with what is left. If it ends well
the pieces taken are the data; if it fails they are a proper first part, and the fault is the first
answer that is neither a count of some octets nor an interruption, where a count of none tells how
many are left. There are no more calls than octets and interruptions. Without its interruptions a
device takes the same pieces, with the same end. -/
theorem writeAll_neither_loses_nor_repeats (d : Device σ) (s : σ) (data : Bytes) (calls : ℕ) :
    (∃ out t log, d.writeAll calls s data = some (out, t) ∧
      d.recorded.writeAll calls (s, []) data = some (out, t, log) ∧
      OffersRest data log ∧ Ends data log out ∧ log.length ≤ data.length + interruptions log ∧
      ∀ d', IsUninterrupted d' d →
        d'.recorded.writeAll calls (s, []) data = some (out, t, log.filter (!·.isInterruption))) ∨
    (d.writeAll calls s data = none ∧ ∃ t log pending, d.Passes s data log t pending ∧
      log.length = calls ∧
      (∀ more, d.recorded.writeAll (calls + more) (s, []) data =
        d.recorded.writeAll more (t, log) pending) ∧
      OffersRest data log ∧ (∀ c ∈ log, c.passes = true) ∧ accepted log ++ pending = data ∧
      pending ≠ [] ∧
      calls < data.length + interruptions log ∧
      ∀ d', IsUninterrupted d' d → ∃ t', ∀ more,
        d'.recorded.writeAll ((log.filter (!·.isInterruption)).length + more) (s, []) data =
          d'.recorded.writeAll more (t', log.filter (!·.isInterruption)) pending) := by
  rcases finishes_or_passes (d := d) calls s data with
      ⟨log, out, t, h, hle⟩ | ⟨log, t, pending, h, rfl, hne⟩
  · refine .inl ⟨out, t, log, h.writeAll hle, h.writeAll_recorded hle [], h.offersRest, h.ends,
      h.length_le, ?_⟩
    intro d' hd
    have hfewer : (log.filter (!·.isInterruption)).length ≤ calls :=
      Nat.le_trans (List.length_filter_le _ _) hle
    exact (h.uninterrupted hd).writeAll_recorded hfewer []
  · have hnone : d.writeAll log.length s data = none := (h.writeAll 0).trans (writeAll_zero hne t)
    have hcalls : log.length < data.length + interruptions log := by
      have hle := h.length_le
      have hall := congrArg List.length h.accepted_append
      have hpos := List.length_pos_iff.2 hne
      rw [List.length_append] at hall
      omega
    refine .inr ⟨hnone, t, log, pending, h, rfl, fun more => h.writeAll_recorded more [],
      h.offersRest, h.passes, h.accepted_append, hne, hcalls, ?_⟩
    intro d' hd
    obtain ⟨t', h', -⟩ := h.uninterrupted hd
    exact ⟨t', fun more => h'.writeAll_recorded more []⟩

end Device

namespace FaultyPort

/-- A simulated port without the interruptions in front of it. -/
def undisturbed : Device FaultyPort where
  offer p data :=
    if p.breaksDown then (.brokeDown, p) else device.offer { p with interrupts := 0 } data
  flush := flush

theorem undisturbed_isUninterrupted : undisturbed.IsUninterrupted device := by
  intro s data a t _ h
  induction h with
  | @now s h =>
    obtain ⟨port, interrupts, flushError, breaksDown⟩ := s
    cases breaksDown with
    | true => rfl
    | false =>
      cases interrupts with
      | zero => rfl
      | succ n => cases h
  | @later s t a h hnext ih =>
    obtain ⟨port, interrupts, flushError, breaksDown⟩ := s
    cases breaksDown with
    | true => cases h
    | false =>
      cases interrupts with
      | succ n => exact ih
      | zero =>
        -- the port behind it never interrupts
        have hi : (port.offer data).1.isInterruption = true := h
        cases ha : (port.offer data).1 with
        | failed e =>
          have hport : port.offer data = (.failed e, (port.offer data).2) := Prod.ext ha rfl
          rw [ha] at hi
          exact absurd (hi.symm.trans (SimPort.offer_not_interrupted hport)) (by decide)
        | took n => rw [ha] at hi; cases hi
        | brokeDown => rw [ha] at hi; cases hi

/-- A port that is interrupted once, then takes two octets at a time, and fails after two offers. -/
def failing : FaultyPort := { port := { budget := some 2, maxChunk := some 2 }, interrupts := 1 }

end FaultyPort

theorem Device.writeAll_neither_loses_nor_repeats_failing :
    ∃ t, FaultyPort.undisturbed.IsUninterrupted FaultyPort.device ∧
      FaultyPort.device.recorded.writeAll 5 (FaultyPort.failing, []) [1, 2, 3, 4, 5] =
        some (.failed SimPort.spent, t,
          [.offered [1, 2, 3, 4, 5] (.failed FaultyPort.interruption),
            .offered [1, 2, 3, 4, 5] (.took 2), .offered [3, 4, 5] (.took 2),
            .offered [5] (.failed SimPort.spent)]) ∧
      FaultyPort.undisturbed.recorded.writeAll 5 (FaultyPort.failing, []) [1, 2, 3, 4, 5] =
        some (.failed SimPort.spent, t,
          [.offered [1, 2, 3, 4, 5] (.took 2), .offered [3, 4, 5] (.took 2),
            .offered [5] (.failed SimPort.spent)]) := by
  have hd := FaultyPort.undisturbed_isUninterrupted
  have hsome : (FaultyPort.device.writeAll 5 FaultyPort.failing [1, 2, 3, 4, 5]).isSome := by decide
  rcases Device.writeAll_neither_loses_nor_repeats FaultyPort.device FaultyPort.failing
    [1, 2, 3, 4, 5] 5 with
    ⟨out, t, log, -, hlog, -, -, -, hall⟩ | ⟨hnone, -⟩
  · have hother := hall _ hd
    have hends : FaultyPort.device.recorded.writeAll 5 (FaultyPort.failing, []) [1, 2, 3, 4, 5] =
        some (.failed SimPort.spent, { FaultyPort.failing with
            port := { log := [[1, 2], [3, 4]], budget := some 0, maxChunk := some 2 },
            interrupts := 0 },
          [.offered [1, 2, 3, 4, 5] (.failed FaultyPort.interruption),
            .offered [1, 2, 3, 4, 5] (.took 2), .offered [3, 4, 5] (.took 2),
            .offered [5] (.failed SimPort.spent)]) := by decide
    rw [hends] at hlog
    obtain ⟨rfl, rfl, rfl⟩ : _ ∧ _ ∧ _ := by simpa using hlog
    exact ⟨_, hd, hends, hother⟩
  · rw [hnone] at hsome
    cases hsome

end SerialRelay

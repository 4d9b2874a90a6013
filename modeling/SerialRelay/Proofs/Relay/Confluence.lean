import SerialRelay.Proofs.Relay.Outlook

/-!
# All schedules of a relay end alike

With a handle on the link before the pump starts, the writer is never without one: it takes that
handle in its first round. The outlook is then kept by every step, and in a complete relay it is
what the relay has come to.

* `Relay.Anchored`: the writer has a handle, or one is ready that it will take next.
* `Relay.upshot_of_isComplete`: a complete relay has come to the course of the lines.
* `Relay.schedules_end_alike`: two complete schedules, on queues of any room, end with the same
  output, the same write calls and the same counters.
-/

namespace SerialRelay

variable {W : Type}

/-- Ports that keep a record of the write calls. -/
def recording (write : W → Handle → Bytes → Except PortError Unit × W)
    (s : W × List (Handle × Bytes)) (h : Handle) (b : Bytes) :
    Except PortError Unit × (W × List (Handle × Bytes)) :=
  ((write s.1 h b).1, (write s.1 h b).2, s.2 ++ [(h, b)])

namespace Relay

variable {site : Site W} {cfg : InputSettings} {openPort : String → Except PortError Handle}
  {write : W → Handle → Bytes → Except PortError Unit × W} {r r' : Relay W}

/-- The writer has a handle, or one is ready that it will take next. -/
def Anchored (r : Relay W) : Prop :=
  r.writer.phase ≠ .ended → r.writer.current = none →
    r.link.ports.items ≠ [] ∧ r.writer.portsInRow = 0

theorem Anchored.not_deserted (ha : r.Anchored) : ¬ r.Deserted := fun ⟨hp, hc, hi, _⟩ =>
  (ha (by simp [hp]) hc).1 hi

theorem Anchored.stepPump (ha : r.Anchored) (h : r.stepPump site cfg = some r') : r'.Anchored := by
  obtain ⟨m, hm, rfl⟩ := moves_of_stepPump h
  intro hp hc
  obtain ⟨hi, hr⟩ := ha hp hc
  refine ⟨?_, hr⟩
  cases Pump.handover_of_moves hm with
  | nothing hl => simpa [hl] using hi
  | handle _ hl => simp [hl, Channel.push]
  | buffer hl => simpa [hl] using hi
  | ended hl => simpa [hl] using hi

/-- An anchored writer without a handle takes the one that is ready. -/
theorem Anchored.react {e : Event} (ha : r.Anchored) (hw : r.Wired)
    (hp : r.writer.phase = .selecting)
    (he : r.writer.Selects r.stop r.link.ports.poll r.link.buffers.poll e) :
    (r.react e).Anchored := by
  -- without a handle before and after the round, the event is not the handle that was ready
  intro hp' hc'
  exfalso
  have hcur : r.writer.current = none ∧ ∀ h, e ≠ .port h := by
    cases e with
    | port h => simp [Relay.react, Writer.react] at hc'
    | shutdown | buffersEnded => exact ⟨hc', by simp⟩
    | portsEnded | buffer =>
      refine ⟨?_, by simp⟩
      cases hc : r.writer.current <;> simp_all [Relay.react, Writer.react]
  obtain ⟨hi, hr⟩ := ha (by simp [hp]) hcur.1
  have hopen : r.writer.portsOpen = true := by
    by_contra ho
    exact hi (hw.portsOpen (by simpa using ho)).1
  have ht : r.writer.takesPorts = true := Writer.takesPorts_iff.2 ⟨hopen, by rw [hr]; decide⟩
  cases he with
  | shutdown hs => rw [hw.stop] at hs; contradiction
  | port hs _ hq => exact hcur.2 _ rfl
  | portsEnded hs _ hq => exact hi (Channel.poll_ended hq).1
  | buffer hs hq hb => exact hi (Channel.poll_pending (hq ht)).1
  | buffersEnded hs hq hb => exact hi (Channel.poll_pending (hq ht)).1

theorem Anchored.move {t : Turn} (ha : r.Anchored) (hw : r.Wired)
    (h : r.move site cfg t = some r') :
    r'.Anchored := by
  cases t with
  | pump => exact ha.stepPump h
  | writer =>
    have hs : WriterSteps site r r' := writerSteps_of_step h
    cases hs with
    | took hp he => exact ha.react hw hp he
    | @landed hd b hp =>
      obtain ⟨-, hcurrent, hinRow, -⟩ := land_keeps site r hd b
      intro _ hc
      rw [hinRow]
      exact ha (by simp [hp]) (hcurrent.symm.trans hc)
    | left hp => exact fun h => absurd rfl h

/-- What a relay is that starts with a handle on its link. -/
theorem follow_anchored {s : List Turn} (hw : r.Wired) (ha : r.Anchored)
    (h : r.follow (Site.ofPorts openPort write) cfg s = some r') :
    r'.Wired ∧ r'.Anchored ∧ r'.outlook cfg openPort write = r.outlook cfg openPort write := by
  -- induction on the schedule; an anchored relay is never deserted, so no step changes the outlook
  refine foldlM_keeps (P := fun q => q.Wired ∧ q.Anchored ∧
    q.outlook cfg openPort write = r.outlook cfg openPort write) ?_ ⟨hw, ha, rfl⟩ h
  rintro t - q q' ⟨hwq, haq, hoq⟩ hq
  exact ⟨hwq.move hq, haq.move hwq hq, (outlook_of_move hwq haq.not_deserted hq).trans hoq⟩

/-- **A complete relay has come to the course of the lines.** -/
theorem upshot_of_isComplete {capacity : ℕ} (hk : 0 < capacity) {kept : Bool} {input : Bytes}
    {h : Handle} {world : W} {s : List Turn}
    (hs : (start { Link.withCapacity capacity with portsKept := kept } input (some h) world).follow
      (Site.ofPorts openPort write) cfg s = some r)
    (hc : r.IsComplete (Site.ofPorts openPort write) cfg) :
    r.standing.upshot =
      course write { waiting := [h], world := world }
        (deliveries cfg openPort (splitLines input)) := by
  obtain ⟨hw, -, ho⟩ := follow_anchored (start_wired hk kept input (some h) world)
    (fun _ _ => ⟨List.cons_ne_nil _ _, rfl⟩) hs
  have he := hw.ended_of_isComplete hc
  have hend : r.outlook cfg openPort write = r.standing.upshot := by simp only [outlook, he]
  exact hend.symm.trans ho

/-- **All schedules end alike.** Two complete schedules of relays on the same lines and the same
ports, with one handle on the link before the pump starts, end with the same output, the same write
calls in the same order, the same ports and the same counters, whatever room their buffer queues
have. -/
theorem schedules_end_alike {world : W} {input : Bytes} {h : Handle} {k₁ k₂ : ℕ} (hk₁ : 0 < k₁)
    (hk₂ : 0 < k₂) {kept₁ kept₂ : Bool} {s₁ s₂ : List Turn}
    {r₁ r₂ : Relay (W × List (Handle × Bytes))}
    (h₁ : (start { Link.withCapacity k₁ with portsKept := kept₁ } input (some h) (world, [])).follow
      (Site.ofPorts openPort (recording write)) cfg s₁ = some r₁)
    (h₂ : (start { Link.withCapacity k₂ with portsKept := kept₂ } input (some h) (world, [])).follow
      (Site.ofPorts openPort (recording write)) cfg s₂ = some r₂)
    (c₁ : r₁.IsComplete (Site.ofPorts openPort (recording write)) cfg)
    (c₂ : r₂.IsComplete (Site.ofPorts openPort (recording write)) cfg) :
    r₁.output = r₂.output ∧ r₁.world.2 = r₂.world.2 ∧ r₁.world.1 = r₂.world.1 ∧
      r₁.writer.stats = r₂.writer.stats := by
  have he : r₁.standing.upshot = r₂.standing.upshot :=
    (upshot_of_isComplete hk₁ h₁ c₁).trans (upshot_of_isComplete hk₂ h₂ c₂).symm
  have hworld : r₁.world = r₂.world := congrArg Upshot.world he
  exact ⟨congrArg Upshot.output he, congrArg Prod.snd hworld, congrArg Prod.fst hworld,
    congrArg Upshot.stats he⟩

/-- Two ports known by their names. -/
def twoPorts (name : String) : Except PortError Handle :=
  if name = "A" then .ok ⟨0, name⟩
  else if name = "B" then .ok ⟨1, name⟩
  else .error (.notFound name)

/-- Ports whose second write fails, whichever of them it goes to. -/
def brittle (writes : ℕ) (_ : Handle) (_ : Bytes) : Except PortError Unit × ℕ :=
  (if writes = 1 then .error .notOpen else .ok (), writes + 1)

/-- A relay on those ports, with a command among three payloads. -/
def brittleRelay (capacity : ℕ) : Relay (ℕ × List (Handle × Bytes)) :=
  start { Link.withCapacity capacity with portsKept := false } (Text.utf8 "x\n:port B\ny\nz\n")
    (some ⟨0, "A"⟩) (0, [])

/-- The writer first and one place in the queue, or the pump first and two: the second of three
buffers fails, and both relays stop behind it. -/
theorem schedules_end_alike_writer_first_pump_first :
    ∃ r₁ r₂ : Relay (ℕ × List (Handle × Bytes)),
      (0 < 1 ∧ (brittleRelay 1).follow (Site.ofPorts twoPorts (recording brittle)) {}
        [.writer, .pump, .pump, .writer, .writer, .pump, .pump, .writer, .pump, .pump, .writer,
          .writer, .writer, .pump, .pump] = some r₁ ∧
        r₁.IsComplete (Site.ofPorts twoPorts (recording brittle)) {}) ∧
      (0 < 2 ∧ (brittleRelay 2).follow (Site.ofPorts twoPorts (recording brittle)) {}
        [.pump, .pump, .pump, .writer, .writer, .pump, .pump, .pump, .pump, .pump, .pump, .writer,
          .writer, .writer, .writer, .writer, .writer] = some r₂ ∧
        r₂.IsComplete (Site.ofPorts twoPorts (recording brittle)) {}) ∧
      (r₁.output = r₂.output ∧ r₁.world.2 = r₂.world.2 ∧ r₁.world.1 = r₂.world.1 ∧
        r₁.writer.stats = r₂.writer.stats) ∧
      r₁.output = [.forwarded [120, 10], .failed ⟨"B", .notOpen⟩] := by
  obtain ⟨r₁, h₁, c₁, o₁⟩ : ∃ r₁, (brittleRelay 1).follow
      (Site.ofPorts twoPorts (recording brittle)) {}
      [.writer, .pump, .pump, .writer, .writer, .pump, .pump, .writer, .pump, .pump, .writer,
        .writer, .writer, .pump, .pump] = some r₁ ∧
        r₁.IsComplete (Site.ofPorts twoPorts (recording brittle)) {} ∧
      r₁.output = [.forwarded [120, 10], .failed ⟨"B", .notOpen⟩] := ⟨_, rfl, ⟨rfl, rfl⟩, rfl⟩
  obtain ⟨r₂, h₂, c₂⟩ : ∃ r₂, (brittleRelay 2).follow (Site.ofPorts twoPorts (recording brittle)) {}
      [.pump, .pump, .pump, .writer, .writer, .pump, .pump, .pump, .pump, .pump, .pump, .writer,
        .writer, .writer, .writer, .writer, .writer] = some r₂ ∧
      r₂.IsComplete (Site.ofPorts twoPorts (recording brittle)) {} := ⟨_, rfl, ⟨rfl, rfl⟩⟩
  exact ⟨r₁, r₂, ⟨by decide, h₁, c₁⟩, ⟨by decide, h₂, c₂⟩,
    schedules_end_alike (by decide) (by decide) h₁ h₂ c₁ c₂, o₁⟩

end Relay

end SerialRelay

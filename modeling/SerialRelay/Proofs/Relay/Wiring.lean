import SerialRelay.Proofs.Pump.Deliveries
import SerialRelay.Proofs.Relay.Schedule

/-!
# The ends of the link agree with the phases

The pump sends on the link and the writer receives, so their phases say which ends of a queue are
still there. No step changes that, and a relay in which neither can move has come to the end of its
output: where the writer waits no buffer is queued, and there no pump waits.

* `Relay.Linked`: the buffer queue agrees with the phases, whatever is signalled.
* `Relay.Linked.ended_of_isComplete`: pump and writer never wait for each other.
* `Relay.Wired`: the handles agree with the phases too, and nothing is signalled.
-/

namespace SerialRelay.Relay

variable {W : Type} {site : Site W} {cfg : InputSettings} {r r' : Relay W}

/-- What the reaction to an event leaves as it is. -/
theorem react_keeps (r : Relay W) (e : Event) :
    (r.react e).pump = r.pump ∧ (r.react e).stop = r.stop ∧
      (r.react e).link.buffers.sending = r.link.buffers.sending ∧
      (r.react e).link.ports.sending = r.link.ports.sending ∧
      (r.react e).link.buffers.capacity = r.link.buffers.capacity ∧
      ((r.react e).writer.phase ≠ .ended →
        (r.react e).link.buffers.receiving = r.link.buffers.receiving ∧
          (r.react e).link.ports.receiving = r.link.ports.receiving) := by
  by_cases h : (r.writer.react e).1.phase = .ended
  · cases e <;> simp [react, h, Link.take, Link.dropReceivers, Channel.dropReceiver, Channel.pop]
  · cases e <;> simp [react, h, Link.take, Channel.pop]

/-- The handles that are queued can only become fewer. -/
theorem react_ports_nil (r : Relay W) (e : Event) (h : r.link.ports.items = []) :
    (r.react e).link.ports.items = [] := by
  by_cases hp : (r.writer.react e).1.phase = .ended
  · simp [react, hp, Link.dropReceivers, Channel.dropReceiver]
  · cases e <;> simp [react, hp, Link.take, Channel.pop, h]

/-- **The buffer queue knows who is there**, and has room for a buffer. -/
structure Linked (r : Relay W) : Prop where
  receiving : r.link.buffers.receiving = !decide (r.writer.phase = .ended)
  sending : r.link.buffers.sending = !r.pump.isOver
  room : ∃ n, 0 < n ∧ r.link.buffers.capacity = some n

theorem start_linked {capacity : ℕ} (hk : 0 < capacity) (kept : Bool) (input : Bytes)
    (initial : Option Handle) (world : W) :
    (start { Link.withCapacity capacity with portsKept := kept } input initial world).Linked where
  receiving := rfl
  sending := rfl
  room := ⟨capacity, hk, rfl⟩

/-- The signal to stop is no part of the link. -/
theorem Linked.signal (hl : r.Linked) (stop : Bool) : ({ r with stop := stop } : Relay W).Linked :=
  ⟨hl.receiving, hl.sending, hl.room⟩

theorem Linked.stepPump (hl : r.Linked) (h : r.stepPump site cfg = some r') : r'.Linked := by
  obtain ⟨m, hm, rfl⟩ := moves_of_stepPump h
  have hgoes := Pump.isOver_of_moves hm
  have hand := Pump.handover_of_moves hm
  obtain ⟨hreceiving, -, hcapacity⟩ := hand.receiving
  obtain ⟨hstays, hends⟩ := hand.sending
  refine ⟨hreceiving.trans hl.receiving, ?_, ?_⟩
  · cases hover : m.pump.isOver with
    | true => exact hends hover
    | false =>
      have hsending := hl.sending
      rw [hgoes] at hsending
      exact (hstays hover).1.trans hsending
  · simpa only [hcapacity] using hl.room

theorem Linked.react {e : Event} (hl : r.Linked) (hp : r.writer.phase = .selecting) :
    (r.react e).Linked := by
  obtain ⟨hpump, -, hsending, -, hcapacity, hstays⟩ := react_keeps r e
  refine ⟨?_, ?_, ?_⟩
  · by_cases hend : (r.react e).writer.phase = .ended
    · rw [(link_react r e).2 hend]
      simp [hend, Link.dropReceivers, Channel.dropReceiver]
    · rw [(hstays hend).1, hl.receiving]
      simp [hp, hend]
  · rw [hsending, hpump]
    exact hl.sending
  · rw [hcapacity]
    exact hl.room

theorem Linked.stepWriter (hl : r.Linked) (h : WriterSteps site r r') : r'.Linked := by
  cases h with
  | took hp he => exact hl.react hp
  | @landed hd b hp =>
    have hgoes : (r.land site hd b).writer.phase ≠ .ended := (land_keeps site r hd b).1
    have hlink : (r.land site hd b).link = r.link := rfl
    refine ⟨?_, hl.sending, hl.room⟩
    rw [hlink, hl.receiving]
    simp [hp, hgoes]
  | left hp => exact ⟨rfl, hl.sending, hl.room⟩

/-- **Pump and writer never wait for each other**: as long as the output has not ended, the writer
waits for a buffer only if none is queued, and then the pump can move. -/
theorem Linked.ended_of_isComplete (hl : r.Linked) (hc : r.IsComplete site cfg) :
    r.writer.phase = .ended := by
  rcases stepWriter_eq_none hc.2 with hend | ⟨-, -, -, hbuffers⟩
  · exact hend
  -- a writer that waits has no buffer before it, so neither reason to wait holds for the pump
  obtain ⟨hempty, hsending⟩ := Channel.poll_pending hbuffers
  have hgoes : r.pump.isOver = false := by
    rw [hl.sending] at hsending
    simpa using hsending
  obtain ⟨n, hn, hcapacity⟩ := hl.room
  rcases Pump.step_eq_none (Option.map_eq_none_iff.1 hc.1) with
      hover | ⟨-, ⟨-, hqueued⟩ | ⟨-, hfull⟩⟩
  · rw [hgoes] at hover
    cases hover
  · exact absurd hempty hqueued
  · rw [Channel.isFull, hcapacity, hempty, List.length_nil, decide_eq_true_eq] at hfull
    omega

/-- **The ends of the link agree with the phases**, and nothing is signalled. -/
structure Wired (r : Relay W) : Prop extends Linked r where
  stop : r.stop = false
  portsReceiving : r.writer.phase ≠ .ended → r.link.ports.receiving = true
  portsSending : r.pump.isOver = false → r.link.ports.sending = true
  portsOpen : r.writer.portsOpen = false → r.link.ports.items = [] ∧ r.pump.isOver = true

theorem start_wired {capacity : ℕ} (hk : 0 < capacity) (kept : Bool) (input : Bytes)
    (initial : Option Handle) (world : W) :
    (start { Link.withCapacity capacity with portsKept := kept } input initial world).Wired where
  toLinked := start_linked hk kept input initial world
  stop := rfl
  portsReceiving _ := rfl
  portsSending _ := rfl
  portsOpen h := by cases h

/-- A writer that is not gone receives from both queues. -/
theorem Wired.receivers (hw : r.Wired) (hp : r.writer.phase ≠ .ended) :
    r.link.buffers.receiving = true ∧ r.link.ports.receiving = true :=
  ⟨by simp [hw.receiving, hp], hw.portsReceiving hp⟩

/-- A queue of handles that the writer sees to end belongs to a pump that has ended. -/
theorem Wired.isOver_of_portsEnded (hw : r.Wired) (hp : r.writer.phase ≠ .ended)
    (he : r.link.ports.poll = .ended) : r.pump.isOver = true := by
  have hs := (Channel.poll_ended he).2 (hw.portsReceiving hp)
  by_contra ho
  rw [hw.portsSending (by simpa using ho)] at hs
  contradiction

theorem Wired.isOver_of_buffersEnded (hw : r.Wired) (hp : r.writer.phase ≠ .ended)
    (he : r.link.buffers.poll = .ended) : r.pump.isOver = true := by
  have hs := (Channel.poll_ended he).2 (hw.receivers hp).1
  rw [hw.sending] at hs
  simpa using hs

theorem Wired.stepPump (hw : r.Wired) (h : r.stepPump site cfg = some r') : r'.Wired := by
  have hlinked := hw.toLinked.stepPump h
  obtain ⟨m, hm, rfl⟩ := moves_of_stepPump h
  have hgoes := Pump.isOver_of_moves hm
  -- a writer that has seen the handles end has seen the pump end
  have hports : r.writer.portsOpen = true := by
    by_contra hc
    rw [(hw.portsOpen (by simpa using hc)).2] at hgoes
    contradiction
  have hand := Pump.handover_of_moves hm
  refine ⟨hlinked, hw.stop, ?_, ?_, ?_⟩
  · simpa only [hand.receiving.2.1] using hw.portsReceiving
  · intro ho
    exact (hand.sending.1 ho).2.trans (hw.portsSending hgoes)
  · intro hc
    rw [hports] at hc
    contradiction

theorem Wired.react {e : Event} (hw : r.Wired) (hp : r.writer.phase = .selecting)
    (he : r.writer.Selects r.stop r.link.ports.poll r.link.buffers.poll e) : (r.react e).Wired := by
  obtain ⟨hpump, hstop, -, hsending, -, hstays⟩ := react_keeps r e
  have hph : r.writer.phase ≠ .ended := by simp [hp]
  refine ⟨hw.toLinked.react hp, hstop.trans hw.stop, ?_, ?_, ?_⟩
  · intro hgoes
    rw [(hstays hgoes).2]
    exact hw.portsReceiving hph
  · rw [hsending, hpump]
    exact hw.portsSending
  · intro ho
    rw [hpump]
    cases he with
    | portsEnded hs ht hq =>
      exact ⟨react_ports_nil r _ (Channel.poll_ended hq).1, hw.isOver_of_portsEnded hph hq⟩
    | shutdown hs => exact ⟨react_ports_nil r _ (hw.portsOpen ho).1, (hw.portsOpen ho).2⟩
    | port hs ht hq => exact ⟨react_ports_nil r _ (hw.portsOpen ho).1, (hw.portsOpen ho).2⟩
    | buffersEnded hs hq hb => exact ⟨react_ports_nil r _ (hw.portsOpen ho).1, (hw.portsOpen ho).2⟩
    | buffer hs hq hb =>
      have ho' : r.writer.portsOpen = false := by
        cases hc : r.writer.current <;> simpa [Relay.react, Writer.react, hc] using ho
      exact ⟨react_ports_nil r _ (hw.portsOpen ho').1, (hw.portsOpen ho').2⟩

theorem Wired.stepWriter (hw : r.Wired) (h : WriterSteps site r r') : r'.Wired := by
  have hlinked := hw.toLinked.stepWriter h
  cases h with
  | took hp he => exact hw.react hp he
  | @landed hd b hp =>
    have hthere := hw.portsReceiving (by simp [hp])
    obtain ⟨-, -, -, ho⟩ := land_keeps site r hd b
    exact ⟨hlinked, hw.stop, fun _ => hthere, hw.portsSending,
      fun h => hw.portsOpen (ho.symm.trans h)⟩
  | left hp =>
    exact ⟨hlinked, hw.stop, fun h => absurd rfl h, hw.portsSending,
      fun h => ⟨rfl, (hw.portsOpen h).2⟩⟩

theorem Wired.move {t : Turn} (hw : r.Wired) (h : r.move site cfg t = some r') : r'.Wired := by
  cases t with
  | pump => exact hw.stepPump h
  | writer => exact hw.stepWriter (writerSteps_of_step h)

end SerialRelay.Relay

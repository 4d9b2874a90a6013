import Mathlib.Tactic.Common
import SerialRelay.Proofs.Relay.Course
import SerialRelay.Proofs.Relay.Wiring

/-!
# The outlook of a relay

The outlook is what a relay will have come to when it stops: the course of what is queued and of
what the pump has still to bring, behind a write that is under way. No step changes it. So all
schedules end alike, although a step of the pump and a step of the writer need not commute one by
one.

The argument is that no handle waits together with an older buffer: the pump sends a handle to a
writer that is there only when no buffer is queued. A pending handle may then be taken before or
after the next one is sent (`course_attach`), and a buffer is taken behind the same handles at any
time.

* `Relay.outlook_of_move`: a step keeps the outlook, unless the writer is deserted.
* `Relay.outlook_of_deserted`: a deserted writer has nothing to write.
-/

namespace SerialRelay

variable {W : Type}

/-- Ports that open by their name alone. -/
def Site.ofPorts (openPort : String → Except PortError Handle)
    (write : W → Handle → Bytes → Except PortError Unit × W) : Site W :=
  ⟨fun _ _ => openPort, write⟩

namespace Relay

/-- The writer of a relay, with its ports and its output. -/
def standing (r : Relay W) : Standing W :=
  { current := r.writer.current
    inRow := r.writer.portsInRow
    stats := r.writer.stats
    waiting := r.link.ports.items
    world := r.world
    output := r.output }

variable (cfg : InputSettings) (openPort : String → Except PortError Handle)
  (write : W → Handle → Bytes → Except PortError Unit × W)

/-- The buffers that are queued, and what the pump has still to bring. -/
def remaining (r : Relay W) : List Delivery :=
  r.link.buffers.items.map .buffer ++ r.pump.deliveries cfg openPort

/-- **What a relay will have come to when it stops.** -/
def outlook (r : Relay W) : Upshot W :=
  match r.writer.phase with
  | .selecting => course write r.standing (r.remaining cfg openPort)
  | .writing h b => r.standing.land write h b fun s => course write s (r.remaining cfg openPort)
  | .failed => r.standing.upshot
  | .ended => r.standing.upshot

variable {cfg openPort write} {r r' : Relay W}

/-- A move of the pump leaves what remains, or puts its first handle behind those that wait. -/
theorem remaining_of_stepPump (hw : r.Wired) (hph : r.writer.phase ≠ .ended)
    (h : r.stepPump (Site.ofPorts openPort write) cfg = some r') :
    r'.writer = r.writer ∧
      (r'.standing = r.standing ∧ r'.remaining cfg openPort = r.remaining cfg openPort ∨
        ∃ hd, r'.standing = r.standing.push hd ∧
          r.remaining cfg openPort = .handle hd :: r'.remaining cfg openPort) := by
  obtain ⟨m, hm, rfl⟩ := moves_of_stepPump h
  obtain ⟨hb, hp⟩ := hw.receivers hph
  refine ⟨rfl, ?_⟩
  cases Pump.handover_of_moves hm with
  | nothing hl hd ho =>
    refine .inl ⟨by simp only [standing, hl], ?_⟩
    simp only [remaining, hl]
    exact congrArg _ hd.symm
  | @handle hd hi hl hd' ho =>
    refine .inr ⟨hd, by simp [standing, hl, Standing.push, Channel.push], ?_⟩
    simp only [remaining, hl, hi hb, List.map_nil, List.nil_append]
    exact hd'
  | buffer hl hd ho =>
    refine .inl ⟨by simp only [standing, hl], ?_⟩
    simp only [remaining, hl, Channel.push, List.map_append, List.map_cons, List.map_nil,
      List.append_assoc, List.singleton_append]
    exact congrArg _ hd.symm
  | ended hl hd ho =>
    refine .inl ⟨by simp [standing, hl], ?_⟩
    simp only [remaining, hl, Link.endSending_buffers, Pump.deliveries_of_isOver ho]
    exact congrArg _ (hd hb hp).symm

theorem land_push (s : Standing W) (hd h : Handle) (b : Bytes) (next : Standing W → Upshot W) :
    (s.push hd).land write h b next = s.land write h b fun t => next (t.push hd) := by
  simp only [Standing.land, Standing.push]

/-- **A move of the pump keeps the outlook.** -/
theorem outlook_of_stepPump (hw : r.Wired)
    (h : r.stepPump (Site.ofPorts openPort write) cfg = some r') :
    r'.outlook cfg openPort write = r.outlook cfg openPort write := by
  have hout : r'.standing.upshot = r.standing.upshot := by
    obtain ⟨m, hm, rfl⟩ := moves_of_stepPump h
    rfl
  by_cases hph : r.writer.phase = .ended
  · have hph' : r'.writer.phase = .ended := by
      obtain ⟨m, hm, rfl⟩ := moves_of_stepPump h
      exact hph
    simp only [outlook, hph, hph', hout]
  obtain ⟨hwr, hrest⟩ := remaining_of_stepPump hw hph h
  simp only [outlook, hwr]
  cases hp : r.writer.phase with
  | ended => exact hout
  | failed => exact hout
  | selecting =>
    rcases hrest with ⟨hs, hr⟩ | ⟨hd, hs, hr⟩
    · simp only [hs, hr]
    · simp only [hs, hr, course]
  | writing h b =>
    rcases hrest with ⟨hs, hr⟩ | ⟨hd, hs, hr⟩
    · simp only [hs, hr]
    · simp only [hs, hr, course, land_push]

/-- The writer is open, and no handle has come and none will. -/
def Deserted (r : Relay W) : Prop :=
  r.writer.phase = .selecting ∧ r.writer.current = none ∧ r.link.ports.items = [] ∧
    r.pump.isOver = true

/-- When a writer turns to its buffers, it has caught up with its handles as far as it may. -/
theorem Wired.catchUp_standing (hw : r.Wired)
    (hq : r.writer.takesPorts = true → r.link.ports.poll = .pending) :
    r.standing.catchUp = r.standing := by
  by_cases ht : r.writer.takesPorts = true
  · exact Standing.catchUp_of_waiting_nil (Channel.poll_pending (hq ht)).1
  · rw [Writer.takesPorts_iff, not_and_or] at ht
    rcases ht with ho | hr
    · exact Standing.catchUp_of_waiting_nil (hw.portsOpen (by simpa using ho)).1
    · exact Standing.catchUp_of_inRow (Nat.not_lt.1 hr)

/-- **A round of the writer keeps the outlook**, unless the writer is deserted. -/
theorem outlook_of_react {e : Event} (hw : r.Wired) (hp : r.writer.phase = .selecting)
    (hd : ¬ r.Deserted) (he : r.writer.Selects r.stop r.link.ports.poll r.link.buffers.poll e) :
    (r.react e).outlook cfg openPort write = r.outlook cfg openPort write := by
  have hph : r.writer.phase ≠ .ended := by simp [hp]
  have hout : r.outlook cfg openPort write =
      course write r.standing (r.remaining cfg openPort) := by
    simp only [outlook, hp]
  rw [hout]
  cases he with
  | shutdown hs => rw [hw.stop] at hs; contradiction
  | @port h hs ht hq =>
    have hi := Channel.items_of_poll_ready hq
    -- the course takes this handle before the next buffer, and may as well take it now
    rw [course_attach hi (Writer.takesPorts_iff.1 ht).2]
    simp [outlook, react, Writer.react, hp, standing, remaining, Standing.attach, Link.take]
  | portsEnded hs ht hq =>
    cases hc : r.writer.current with
    | none =>
      exact absurd ⟨hp, hc, (Channel.poll_ended hq).1, hw.isOver_of_portsEnded hph hq⟩ hd
    | some h => simp [outlook, react, Writer.react, hp, hc, standing, remaining, Link.take]
  | @buffer b hs hq hb =>
    have hi := Channel.items_of_poll_ready hb
    have hrem : r.remaining cfg openPort = .buffer b ::
        (r.link.buffers.pop.items.map .buffer ++ r.pump.deliveries cfg openPort) := by
      rw [remaining, hi]; rfl
    -- the writer looks at its buffers only when it may take no other handle
    rw [hrem, course, hw.catchUp_standing hq]
    have hcur : r.standing.current = r.writer.current := rfl
    cases hc : r.writer.current with
    | none =>
      rw [hcur, hc]
      simp [outlook, react, Writer.react, hp, hc, standing, remaining, Standing.drop, Link.take]
    | some h =>
      rw [hcur, hc]
      simp [outlook, react, Writer.react, hc, standing, remaining, Standing.begin, Link.take]
  | buffersEnded hs hq hb =>
    have hrem : r.remaining cfg openPort = [] := by
      rw [remaining, (Channel.poll_ended hb).1,
        Pump.deliveries_of_isOver (hw.isOver_of_buffersEnded hph hb)]
      rfl
    rw [hrem, course, hw.catchUp_standing hq]
    simp [outlook, react, Writer.react, standing, Standing.upshot]

/-- **A step keeps the outlook**, unless the writer is deserted. -/
theorem outlook_of_move {t : Turn} (hw : r.Wired) (hd : ¬ r.Deserted)
    (h : r.move (Site.ofPorts openPort write) cfg t = some r') :
    r'.outlook cfg openPort write = r.outlook cfg openPort write := by
  cases t with
  | pump => exact outlook_of_stepPump hw h
  | writer =>
    have hs : WriterSteps (Site.ofPorts openPort write) r r' := writerSteps_of_step h
    cases hs with
    | took hp he => exact outlook_of_react hw hp hd he
    | @landed hd b hp =>
      have hout : r.outlook cfg openPort write =
          r.standing.land write hd b fun s => course write s (r.remaining cfg openPort) := by
        simp only [outlook, hp]
      rw [hout, Standing.land]
      have hworld : r.standing.world = r.world := rfl
      rw [hworld]
      rcases hwrite : write r.world hd b with ⟨result, w⟩
      cases result with
      | ok => simp [outlook, land, Site.ofPorts, hwrite, Writer.settle, standing, remaining]
      | error e =>
        simp [outlook, land, Site.ofPorts, hwrite, Writer.settle, standing, Standing.upshot]
    | left hp => simp [outlook, leave, hp, Writer.finish, standing, Standing.upshot]

/-- **A deserted writer has nothing to write.** -/
theorem outlook_of_deserted (hd : r.Deserted) :
    (r.outlook cfg openPort write).world = r.world ∧
      (r.outlook cfg openPort write).output = r.output := by
  obtain ⟨hp, hc, hi, ho⟩ := hd
  have hout : r.outlook cfg openPort write =
      course write r.standing (r.link.buffers.items.map .buffer) := by
    simp only [outlook, hp, remaining, Pump.deliveries_of_isOver ho, List.append_nil]
  rw [hout]
  exact course_of_no_handle hc hi _

end Relay

end SerialRelay

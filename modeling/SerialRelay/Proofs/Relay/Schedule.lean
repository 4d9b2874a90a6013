import SerialRelay.Proofs.Pump.Moves
import SerialRelay.Proofs.Trail
import SerialRelay.Proofs.Writer.Rounds
import SerialRelay.Relay

/-!
# Schedules of a relay

A schedule says whose turn it is, step by step; it is followed as long as the one whose turn it is
can move. Nothing else is assumed about the order of the steps.

* `Relay.follow`: the relay after a schedule, and `Relay.IsComplete` for one in which nobody can
  move.
* `Relay.weight_lt_of_move`: every step makes the weight smaller, so every schedule comes to an end.
* `Relay.run_follows`: `Relay.run` is one of the schedules, and it is complete.
-/

namespace SerialRelay

/-- Who moves. -/
inductive Turn where
  | pump
  | writer
  deriving DecidableEq, Repr

namespace Relay

variable {W : Type} (site : Site W) (cfg : InputSettings)

/-- A step of the one whose turn it is. -/
def move (r : Relay W) : Turn → Option (Relay W)
  | .pump => r.stepPump site cfg
  | .writer => r.stepWriter site

/-- **The relay after a schedule**; none if a turn falls on one that cannot move. -/
def follow (s : List Turn) (r : Relay W) : Option (Relay W) := s.foldlM (move site cfg) r

/-- Neither the pump nor the writer can move. -/
def IsComplete (r : Relay W) : Prop := r.stepPump site cfg = none ∧ r.stepWriter site = none

/-- The relay after the end of a write. -/
def land (r : Relay W) (h : Handle) (b : Bytes) : Relay W :=
  { r with
    writer := (r.writer.settle h b (site.write r.world h b).1).1
    world := (site.write r.world h b).2
    output := r.output ++ [(r.writer.settle h b (site.write r.world h b).1).2.1]
    writerLog := r.writerLog ++ (r.writer.settle h b (site.write r.world h b).1).2.2 }

/-- The relay after the output has ended behind a failed write. -/
def leave (r : Relay W) : Relay W :=
  { r with writer := r.writer.finish, link := r.link.dropReceivers }

/-- **The steps of a writer**: it takes an event, ends a write, or leaves after a failed one. -/
inductive WriterSteps (r : Relay W) : Relay W → Prop
  | took {e : Event} (hp : r.writer.phase = .selecting)
      (he : r.writer.Selects r.stop r.link.ports.poll r.link.buffers.poll e) :
        WriterSteps r (r.react e)
  | landed {h : Handle} {b : Bytes} (hp : r.writer.phase = .writing h b) :
      WriterSteps r (r.land site h b)
  | left (hp : r.writer.phase = .failed) : WriterSteps r r.leave

variable {site cfg} {r r' : Relay W}

theorem writerSteps_of_step (h : r.stepWriter site = some r') : WriterSteps site r r' := by
  unfold stepWriter at h
  split at h
  · cases h
  · next hp => cases h; exact .left hp
  · next hd b hp => cases h; exact .landed hp
  · next hp =>
    obtain ⟨e, he, rfl⟩ := Option.map_eq_some_iff.1 h
    exact .took hp (Writer.select_eq_some_iff.1 he)

/-- An event leaves the ends of a link as they are; a writer that ends at it drops the receivers. -/
theorem link_react (r : Relay W) (e : Event) :
    ((r.react e).writer.phase ≠ .ended → (r.react e).link = r.link.take e) ∧
      ((r.react e).writer.phase = .ended → (r.react e).link = (r.link.take e).dropReceivers) :=
  ⟨fun h => if_neg h, fun h => if_pos h⟩

/-- The end of a write is not the end of the output, and leaves the writer its handle. -/
theorem land_keeps (site : Site W) (r : Relay W) (h : Handle) (b : Bytes) :
    (r.land site h b).writer.phase ≠ .ended ∧ (r.land site h b).writer.current = r.writer.current ∧
      (r.land site h b).writer.portsInRow = r.writer.portsInRow ∧
      (r.land site h b).writer.portsOpen = r.writer.portsOpen := by
  unfold land
  cases (site.write r.world h b).1 with
  | ok => exact ⟨nofun, rfl, rfl, rfl⟩
  | error e => exact ⟨nofun, rfl, rfl, rfl⟩

/-- A writer that cannot move has ended, or has seen nothing ready. -/
theorem stepWriter_eq_none (h : r.stepWriter site = none) :
    r.writer.phase = .ended ∨ r.writer.phase = .selecting ∧ r.stop = false ∧
      (r.writer.takesPorts = true → r.link.ports.poll = .pending) ∧
        r.link.buffers.poll = .pending := by
  unfold stepWriter at h
  split at h
  · next hp => exact .inl hp
  · cases h
  · cases h
  · next hp => exact .inr ⟨hp, Writer.select_eq_none (Option.map_eq_none_iff.1 h)⟩

/-- What a step of the pump changes. -/
theorem moves_of_stepPump (h : r.stepPump site cfg = some r') :
    ∃ m, Pump.Moves cfg (site.openPort r.world r.handles) r.pump r.link m ∧
      r' = { r with pump := m.pump, link := m.link, pumpLog := r.pumpLog ++ m.log } := by
  obtain ⟨m, hm, rfl⟩ := Option.map_eq_some_iff.1 h
  exact ⟨m, Pump.moves_of_step hm, rfl⟩

/-- What a pump and its queues weigh: a line that is read becomes a lighter phase, and what the
phase sends is lighter still. -/
theorem weight_lt_of_moves {openPort : String → Except PortError Handle} {p : Pump} {l : Link}
    {m : Pump.Move} (h : Pump.Moves cfg openPort p l m) :
    pumpWeight m.pump + 2 * m.link.buffers.items.length + m.link.ports.items.length
      < pumpWeight p + 2 * l.buffers.items.length + l.ports.items.length := by
  -- one case for each kind of move; a line counts four, so what it becomes is lighter
  cases h with
  | inputEnd hp hi => simp [Pump.stop, pumpWeight, hp, Channel.endSending]
  | notText hp hi ht => simp [Pump.stop, pumpWeight, hp, Channel.endSending]
  | @line raw rest text hp hi ht =>
    cases cfg.read text <;>
      simp [Pump.takeUp, Pump.nextLine, Pump.countRejected, pumpWeight, hp, hi] <;> omega
  | @opened name hp hd =>
    unfold Pump.publish
    split
    · simp only
      split
      · simp [Pump.countOpened, pumpWeight, hp, Channel.push]; omega
      · simp [Pump.stop, pumpWeight, hp, Channel.endSending]
    · simp [Pump.countRejected, pumpWeight, hp]
  | refused hp hr => simp [Pump.stop, pumpWeight, hp, Channel.endSending]
  | sent hp hr hf =>
    simp only [Pump.countBuffer, pumpWeight, hp, Channel.push, List.length_append, List.length_cons,
      List.length_nil]
    omega

theorem weight_lt_of_writerSteps (h : WriterSteps site r r') : r'.weight < r.weight := by
  cases h with
  | @landed hd b hp =>
    cases hw : (site.write r.world hd b).1 <;>
      simp [land, hw, Writer.settle, weight, writerWeight, hp]
  | left hp =>
    have hw : writerWeight r.writer.finish < writerWeight r.writer := by
      cases ho : r.writer.portsOpen <;> simp [Writer.finish, writerWeight, hp, ho]
    simp only [leave, weight, Link.dropReceivers, Channel.dropReceiver, List.length_nil]
    omega
  | @took e hp he =>
    cases he with
    | shutdown hs =>
      simp only [react, Writer.react, if_true, weight, writerWeight, hp, Link.take,
        Link.dropReceivers, Channel.dropReceiver, List.length_nil]
      omega
    | port hs ht hq =>
      have hi := congrArg List.length (Channel.items_of_poll_ready hq)
      simp only [List.length_cons] at hi
      simp [react, Writer.react, weight, writerWeight, hp, Link.take]
      omega
    | portsEnded hs ht hq =>
      have ho := (Writer.takesPorts_iff.1 ht).1
      cases hc : r.writer.current with
      | none =>
        simp only [react, Writer.react, hc, if_true, weight, writerWeight, hp, ho, Link.take,
          Link.dropReceivers, Channel.dropReceiver, List.length_nil]
        simp only [Bool.false_eq_true, if_false]
        omega
      | some hd => simp [react, Writer.react, hc, weight, writerWeight, hp, ho, Link.take]
    | buffer hs hq hb =>
      have hi := congrArg List.length (Channel.items_of_poll_ready hb)
      simp only [List.length_cons] at hi
      cases hc : r.writer.current with
      | none => simp [react, Writer.react, hc, weight, writerWeight, hp, Link.take]; omega
      | some hd => simp [react, Writer.react, hc, weight, writerWeight, hp, Link.take]; omega
    | buffersEnded hs hq hb =>
      simp only [react, Writer.react, if_true, weight, writerWeight, hp, Link.take,
        Link.dropReceivers, Channel.dropReceiver, List.length_nil]
      omega

/-- **Every step makes the weight smaller.** -/
theorem weight_lt_of_move {t : Turn} (h : r.move site cfg t = some r') : r'.weight < r.weight := by
  cases t with
  | pump =>
    obtain ⟨m, hm, rfl⟩ := moves_of_stepPump h
    have := weight_lt_of_moves hm
    simp only [weight]
    omega
  | writer => exact weight_lt_of_writerSteps (writerSteps_of_step h)

theorem move_of_step (h : r.step site cfg = some r') : ∃ t, r.move site cfg t = some r' := by
  unfold step at h
  split at h
  · next r₁ h₁ => cases h; exact ⟨.writer, h₁⟩
  · exact ⟨.pump, h⟩

theorem isComplete_of_step (h : r.step site cfg = none) : r.IsComplete site cfg := by
  unfold step at h
  split at h
  · cases h
  · next hw => exact ⟨h, hw⟩

theorem runWithin_follows (site : Site W) (cfg : InputSettings) (n : Nat) (r : Relay W)
    (hn : r.weight ≤ n) :
    ∃ s, r.follow site cfg s = some (r.runWithin site cfg n) ∧
      (r.runWithin site cfg n).IsComplete site cfg := by
  induction n generalizing r with
  | zero =>
    refine ⟨[], rfl, isComplete_of_step ?_⟩
    rw [runWithin]
    cases hs : r.step site cfg with
    | none => rfl
    | some r₁ =>
      obtain ⟨t, ht⟩ := move_of_step hs
      have := weight_lt_of_move ht
      omega
  | succ n ih =>
    unfold runWithin
    split
    · next hs => exact ⟨[], rfl, isComplete_of_step hs⟩
    · next r₁ hs =>
      obtain ⟨t, ht⟩ := move_of_step hs
      have := weight_lt_of_move ht
      obtain ⟨s, h₁, h₂⟩ := ih r₁ (by omega)
      exact ⟨t :: s, foldlM_cons_eq_some.2 ⟨r₁, ht, h₁⟩, h₂⟩

/-- **The run is complete**, and it is what one of the schedules gives. -/
theorem run_follows (site : Site W) (cfg : InputSettings) (r : Relay W) :
    ∃ s, r.follow site cfg s = some (r.run site cfg) ∧ (r.run site cfg).IsComplete site cfg :=
  runWithin_follows site cfg r.weight r (Nat.le_refl _)

end Relay

end SerialRelay

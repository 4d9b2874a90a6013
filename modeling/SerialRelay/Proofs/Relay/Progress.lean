import Mathlib.Logic.Relation
import SerialRelay.Proofs.Relay.Wiring

/-!
# Pump and writer always finish

Each side can wait for the other: the pump for room in the buffer queue, or until that is empty, and
the writer for something to take. They never wait for each other at once, since a writer waits only
where no buffer is queued, and that is where no pump waits. Nothing is assumed about the ports here:
every opening and every write may come out either way, and differently each time. The signal to stop
may change before any step.

* `Relay.Passes`: one step of one of them, whatever the ports answer.
* `Relay.Linked.isComplete_iff`: neither can move just if both have ended.
* `Relay.relay_finishes`: no state that can be reached is stuck, and every interleaving comes to the
  end within a number of steps that the lines of the input bound.
-/

namespace SerialRelay.Relay

variable {W : Type} {site : Site W} {cfg : InputSettings} {r r' : Relay W}

/-- The pump has returned and the output has ended. -/
def HasFinished (r : Relay W) : Prop := r.pump.isOver = true ∧ r.writer.phase = .ended

/-- **One step of the pump or of the writer**, on ports that answer as they like. The signal to stop
may have changed before it. -/
def Passes (cfg : InputSettings) (r r' : Relay W) : Prop :=
  ∃ stop site t, ({ r with stop := stop } : Relay W).move site cfg t = some r'

theorem Linked.passes (hl : r.Linked) (h : Passes cfg r r') : r'.Linked := by
  obtain ⟨stop, site, t, hmove⟩ := h
  cases t with
  | pump => exact (hl.signal stop).stepPump hmove
  | writer => exact (hl.signal stop).stepWriter (writerSteps_of_step hmove)

theorem linked_of_reachable (hl : r.Linked) (h : Relation.ReflTransGen (Passes cfg) r r') :
    r'.Linked := by
  induction h with
  | refl => exact hl
  | tail _ hlast ih => exact ih.passes hlast

/-- A pump that has not returned can move once the writer is gone. -/
theorem Linked.isOver_of_ended (hl : r.Linked) (hend : r.writer.phase = .ended)
    (hnone : r.stepPump site cfg = none) : r.pump.isOver = true := by
  have hgone : r.link.buffers.receiving = false := by
    rw [hl.receiving]
    simp [hend]
  rcases Pump.step_eq_none (Option.map_eq_none_iff.1 hnone) with hover | ⟨hthere, -⟩
  · exact hover
  · rw [hgone] at hthere
    cases hthere

/-- **Neither can move just if both have ended.** -/
theorem Linked.isComplete_iff (hl : r.Linked) : r.IsComplete site cfg ↔ r.HasFinished := by
  constructor
  · intro hc
    have hend := hl.ended_of_isComplete hc
    exact ⟨hl.isOver_of_ended hend hc.1, hend⟩
  · rintro ⟨hover, hend⟩
    refine ⟨?_, by rw [Relay.stepWriter, hend]⟩
    by_contra hmoves
    obtain ⟨r', hr'⟩ := Option.ne_none_iff_exists'.1 hmoves
    obtain ⟨m, hm, -⟩ := moves_of_stepPump hr'
    have hgoes := Pump.isOver_of_moves hm
    rw [hover] at hgoes
    cases hgoes

/-- Every step makes the weight smaller, whatever the signal says. -/
theorem weight_lt_of_passes (h : Passes cfg r r') : r'.weight < r.weight := by
  obtain ⟨stop, site, t, hmove⟩ := h
  have hless := weight_lt_of_move hmove
  exact hless

/-- What a relay has to do before its first step. -/
theorem weight_start_le (capacity : ℕ) (kept : Bool) (input : Bytes) (initial : Option Handle)
    (world : W) :
    (start { Link.withCapacity capacity with portsKept := kept } input initial world).weight ≤
      4 * (splitLines input).length + 5 := by
  have hinitial : initial.toList.length ≤ 1 := by cases initial <;> simp
  simp only [start, weight, Pump.ofInput, pumpWeight, writerWeight, Link.withCapacity,
    List.length_nil, if_true]
  omega

/-- An interleaving goes on for no more steps than the relay weighs at its start. -/
theorem exists_hasFinished {ρ : ℕ → Relay W}
    (hρ : ∀ n, (ρ n).HasFinished ∨ Passes cfg (ρ n) (ρ (n + 1))) :
    ∃ n ≤ (ρ 0).weight, (ρ n).HasFinished := by
  by_contra hnever
  push Not at hnever
  -- as long as it has not finished, each step takes something off the weight
  have hweight : ∀ n, n ≤ (ρ 0).weight + 1 → (ρ n).weight + n ≤ (ρ 0).weight := by
    intro n
    induction n with
    | zero => intro _; exact Nat.le_refl _
    | succ n ih =>
      intro hle
      have hpasses := (hρ n).resolve_left (hnever n (by omega))
      have hless := weight_lt_of_passes hpasses
      have hbefore := ih (by omega)
      omega
  have hlast := hweight ((ρ 0).weight + 1) (Nat.le_refl _)
  omega

/-- **Pump and writer never deadlock and always finish.** Whatever the ports answer and whenever the
signal to stop changes, in a state that can be reached neither of them can move just if the pump has
returned and the output has ended; and every interleaving of their steps reaches such a state,
within four steps for each line of the input and five more. -/
theorem relay_finishes {capacity : ℕ} (hk : 0 < capacity) (cfg : InputSettings) (kept : Bool)
    (input : Bytes) (initial : Option Handle) (world : W) :
    (∀ r, Relation.ReflTransGen (Passes cfg)
        (start { Link.withCapacity capacity with portsKept := kept } input initial world) r →
      ∀ stop site, ({ r with stop := stop } : Relay W).IsComplete site cfg ↔ r.HasFinished) ∧
    ∀ ρ : ℕ → Relay W,
      ρ 0 = start { Link.withCapacity capacity with portsKept := kept } input initial world →
      (∀ n, (ρ n).HasFinished ∨ Passes cfg (ρ n) (ρ (n + 1))) →
      ∃ n ≤ 4 * (splitLines input).length + 5, (ρ n).HasFinished := by
  refine ⟨?_, ?_⟩
  · intro r hreach stop site
    have hl := linked_of_reachable (start_linked hk kept input initial world) hreach
    exact (hl.signal stop).isComplete_iff
  · intro ρ hstart hρ
    obtain ⟨n, hn, hfinished⟩ := exists_hasFinished hρ
    rw [hstart] at hn
    exact ⟨n, Nat.le_trans hn (weight_start_le capacity kept input initial world), hfinished⟩

/-- One more step at the end of a run. -/
theorem runWithin_succ (site : Site W) (cfg : InputSettings) (n : ℕ) (r : Relay W) :
    r.runWithin site cfg (n + 1) =
      ((r.runWithin site cfg n).step site cfg).getD (r.runWithin site cfg n) := by
  induction n generalizing r with
  | zero =>
    rw [runWithin, runWithin]
    cases r.step site cfg <;> rfl
  | succ n ih =>
    rw [runWithin]
    cases hs : r.step site cfg with
    | none => simp only [runWithin, hs, Option.getD_none]
    | some r₁ =>
      simp only [ih r₁]
      rw [runWithin, hs]

/-- What a run passes through is reachable. -/
theorem reachable_runWithin (site : Site W) (cfg : InputSettings) (n : ℕ) (r : Relay W) :
    Relation.ReflTransGen (Passes cfg) r (r.runWithin site cfg n) := by
  induction n with
  | zero => exact .refl
  | succ n ih =>
    rw [runWithin_succ]
    cases hs : (r.runWithin site cfg n).step site cfg with
    | none => exact ih
    | some r₁ =>
      obtain ⟨t, ht⟩ := move_of_step hs
      exact ih.tail ⟨_, site, t, ht⟩

/-- A run from a linked state goes on until both have ended. -/
theorem Linked.hasFinished_or_passes (hl : r.Linked) (site : Site W) (cfg : InputSettings) (n : ℕ) :
    (r.runWithin site cfg n).HasFinished ∨
      Passes cfg (r.runWithin site cfg n) (r.runWithin site cfg (n + 1)) := by
  have hlinked := linked_of_reachable hl (reachable_runWithin site cfg n r)
  rw [runWithin_succ]
  cases hs : (r.runWithin site cfg n).step site cfg with
  | none => exact .inl (hlinked.isComplete_iff.1 (isComplete_of_step hs))
  | some r₁ =>
    obtain ⟨t, ht⟩ := move_of_step hs
    exact .inr ⟨_, site, t, ht⟩

/-- Every name opens a port, and every write fails. -/
def brokenSite : Site Unit where
  openPort _ _ name := .ok ⟨0, name⟩
  write _ _ _ := (.error .notOpen, ())

/-- The first write fails, with a command and a payload still to come. -/
theorem relay_finishes_failed_write :
    ∃ ρ : ℕ → Relay Unit,
      (0 < 1 ∧
        ρ 0 = start { Link.withCapacity 1 with portsKept := false } (Text.utf8 "x\n:port B\ny\n")
          (some ⟨0, "A"⟩) () ∧
        ∀ n, (ρ n).HasFinished ∨ Passes {} (ρ n) (ρ (n + 1))) ∧
      (∃ n ≤ 17, (ρ n).HasFinished) ∧ (ρ 17).output = [.failed ⟨"A", .notOpen⟩] ∧
      (ρ 17).pump.summary.portsOpened = 1 := by
  have hk : 0 < 1 := by decide
  have hl := start_linked hk false (Text.utf8 "x\n:port B\ny\n") (some ⟨0, "A"⟩) ()
  have hρ := hl.hasFinished_or_passes brokenSite {}
  have hends :=
    (relay_finishes hk {} false (Text.utf8 "x\n:port B\ny\n") (some ⟨0, "A"⟩) ()).2 _ rfl hρ
  exact ⟨_, ⟨hk, rfl, hρ⟩, hends, rfl, rfl⟩

end SerialRelay.Relay

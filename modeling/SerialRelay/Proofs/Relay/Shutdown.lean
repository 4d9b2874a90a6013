import Mathlib.Data.List.Infix
import SerialRelay.Proofs.Relay.Failure

/-!
# Shutdown only truncates

A writer that has been given a signal to stop looks at it first in every round. A round that has not
looked yet reads the value; if that does not say to stop, the round waits until the signal is set,
and reads it again then. If nobody is left who could set it, the round never looks again.

Two writers are compared that make the same moves on the same arrivals, one with a signal and one
without. They are the same until the signal is seen, and there the first one ends: what it has done
is the beginning of what the other one does. A write under way when the signal is set still comes to
its end, and nothing is taken any more.

* `Watcher.poll`: a look at the signal, and `Watcher.poll_fst`: such a look misses nothing.
* `Supervised.run`: an attachment with its signal after any moves.
* `Supervised.Coupled`: a writer with a signal, and one without it on the same moves.
* `Attachment.WindsUp`: what an attachment does once it has been told to stop.
* `Supervised.shutdown_truncates`: the comparison, and what is left to do behind the signal.
-/

namespace SerialRelay

/-- How far a round has come with the signal to stop. -/
inductive Watcher.Phase where
  /-- It has not looked yet. -/
  | fresh
  /-- It waits until the signal is set. -/
  | waiting
  /-- Nobody could set it any more. -/
  | parked
  deriving DecidableEq, Repr

/-- The receiving end of a signal to stop. -/
structure Watcher where
  phase : Watcher.Phase := .fresh
  /-- The signal has been set since its value was last read. -/
  unseen : Bool := false
  deriving DecidableEq, Repr

namespace Watcher

/-- Waits until the signal is set, if there is someone to set it. -/
def await (signal : StopSignal) : Watcher :=
  { phase := if signal.sending then .waiting else .parked }

/-- **A look at the signal**: whether it says to stop, and the watcher after it. -/
def poll (w : Watcher) (signal : StopSignal) : Bool × Watcher :=
  if signal.watched then
    match w.phase with
    | .fresh => (signal.value, await signal)
    | .waiting => (w.unseen && signal.value, await signal)
    | .parked => (false, w)
  else (false, w)

/-- **A watcher misses nothing**: where it will not read the value, that does not say to stop. -/
structure Attentive (w : Watcher) (signal : StopSignal) : Prop where
  waiting : w.phase = .waiting → w.unseen = false → signal.value = false
  parked : w.phase = .parked → signal.value = false ∧ signal.sending = false

variable {w : Watcher} {signal : StopSignal}

theorem attentive_of_fresh (h : w.phase = .fresh) : w.Attentive signal where
  waiting hw := by rw [h] at hw; cases hw
  parked hp := by rw [h] at hp; cases hp

theorem attentive_await (h : signal.value = false) : (await signal).Attentive signal where
  waiting _ _ := h
  parked hp := by
    refine ⟨h, ?_⟩
    by_contra hs
    rw [await, if_pos (by simpa using hs)] at hp
    cases hp

/-- **A look sees the value as it is now**, in whatever round and however long that has waited. -/
theorem poll_fst (h : w.Attentive signal) :
    (w.poll signal).1 = (signal.watched && signal.value) := by
  unfold poll
  cases hw : signal.watched with
  | false => rfl
  | true =>
    cases hp : w.phase with
    | fresh => rfl
    | waiting =>
      cases hu : w.unseen with
      | false => simp [h.waiting hp hu]
      | true => simp
    | parked => simp [(h.parked hp).1]

/-- A look that does not say to stop leaves the watcher attentive. -/
theorem attentive_poll (h : w.Attentive signal) (hs : (w.poll signal).1 = false) :
    (w.poll signal).2.Attentive signal := by
  have hvalue := poll_fst h
  rw [hs] at hvalue
  cases hw : signal.watched with
  | false => simpa [poll, hw] using h
  | true =>
    rw [hw, Bool.true_and] at hvalue
    have hwaits := attentive_await hvalue.symm
    cases hp : w.phase with
    | fresh => simpa [poll, hw, hp] using hwaits
    | waiting => simpa [poll, hw, hp] using hwaits
    | parked => simpa [poll, hw, hp] using h

/-- The signal is set: who waits for that will read the value. -/
theorem Attentive.set (h : w.Attentive signal) (hs : signal.sending = true) (value : Bool) :
    ({ w with unseen := true } : Watcher).Attentive { signal with value := value } where
  waiting _ hu := by cases hu
  parked hp := by
    have hgone := (h.parked hp).2
    rw [hs] at hgone
    cases hgone

theorem Attentive.release (h : w.Attentive signal) :
    w.Attentive { signal with sending := false } where
  waiting := h.waiting
  parked hp := ⟨(h.parked hp).1, rfl⟩

end Watcher

namespace Attachment

variable {W : Type} {site : Site W} {a a' a'' : Attachment W}

/-- The write calls that have been made, with one that may be under way. -/
def started (a : Attachment W) : List (Handle × Bytes) :=
  a.calls.map Call.target ++ a.relay.writer.underWay

/-- **What an attachment has done is the beginning of what another one has done.** -/
structure BeginsAs (a a' : Attachment W) : Prop where
  output : a.relay.output <+: a'.relay.output
  started : a.started <+: a'.started
  calls : a.calls <+: a'.calls
  handles : handlesOf a.events <+: handlesOf a'.events

theorem BeginsAs.refl (a : Attachment W) : a.BeginsAs a :=
  ⟨List.prefix_refl _, List.prefix_refl _, List.prefix_refl _, List.prefix_refl _⟩

theorem BeginsAs.trans (h₁ : a.BeginsAs a') (h₂ : a'.BeginsAs a'') : a.BeginsAs a'' :=
  ⟨h₁.output.trans h₂.output, h₁.started.trans h₂.started, h₁.calls.trans h₂.calls,
    h₁.handles.trans h₂.handles⟩

/-- Between two writes the calls are those that have come to an end. -/
theorem started_of_not_writing (hp : ∀ h b, a.relay.writer.phase ≠ .writing h b) :
    a.started = a.calls.map Call.target := by
  have hidle : a.relay.writer.underWay = [] := by
    unfold Writer.underWay
    cases hw : a.relay.writer.phase with
    | writing h b => exact absurd hw (hp h b)
    | selecting | failed | ended => rfl
  rw [started, hidle, List.append_nil]

/-- **A move takes back nothing.** -/
theorem beginsAs_of_step {m : Move} (h : a.step site m = some a') : a.BeginsAs a' := by
  by_cases hm : m = .writer
  · subst hm
    cases writerMoves_of_step h with
    | @took e hp he =>
      refine ⟨List.prefix_refl _, ?_, List.prefix_refl _, ?_⟩
      · rw [started_of_not_writing (by simp [hp])]
        exact List.prefix_append _ _
      · rw [handlesOf_concat]
        exact List.prefix_append _ _
    | @landed hd b hp =>
      have hcalls : ({ a with relay := a.relay.land site.logged hd b } : Attachment W).calls =
          a.calls ++ [⟨hd, b, (site.write a.relay.world.1 hd b).1⟩] := rfl
      refine ⟨List.prefix_append _ _, ?_, ?_, List.prefix_refl _⟩
      · -- the write that was under way is the call that is added
        rw [started, started, Writer.underWay, hp, hcalls, List.map_append]
        exact List.prefix_append _ _
      · rw [hcalls]
        exact List.prefix_append _ _
    | left hp =>
      refine ⟨List.prefix_refl _, ?_, List.prefix_refl _, List.prefix_refl _⟩
      rw [started_of_not_writing (by simp [hp])]
      exact List.prefix_append _ _
  · obtain ⟨hrest, hw⟩ := rests_of_arrival hm h
    have hcalls : a'.calls = a.calls := congrArg Prod.snd hrest.world
    have hstarted : a'.started = a.started := by rw [started, started, hcalls, hw]
    refine ⟨?_, ?_, ?_, ?_⟩
    · rw [hrest.output]
    · rw [hstarted]
    · rw [hcalls]
    · rw [hrest.events]

theorem HasStopped.started (hs : a.HasStopped) : a.started = a.calls.map Call.target := by
  refine started_of_not_writing fun h b hw => ?_
  rcases hs with hs | hs <;> rw [hw] at hs <;> cases hs

/-- What has stopped goes on to be the beginning of what it was the beginning of. -/
theorem BeginsAs.of_rests (hb : a.BeginsAs a'') (hs : a.HasStopped) (hs' : a'.HasStopped)
    (hr : a.Rests a') :
    a'.BeginsAs a'' := by
  have hcalls : a'.calls = a.calls := congrArg Prod.snd hr.world
  refine ⟨?_, ?_, ?_, ?_⟩
  · rw [hr.output]
    exact hb.output
  · rw [hs'.started, hcalls, ← hs.started]
    exact hb.started
  · rw [hcalls]
    exact hb.calls
  · rw [hr.events]
    exact hb.handles

/-- An attachment whose writer learns whether it is to stop. -/
def told (a : Attachment W) (stop : Bool) : Attachment W :=
  { a with relay := { a.relay with stop := stop } }

/-- What has been told before is no news. -/
theorem told_stop (a : Attachment W) : a.told a.relay.stop = a := rfl

/-- A writer that is told to stop between two writes ends there. -/
theorem step_told (hp : a.relay.writer.phase = .selecting) :
    (a.told true).step site .writer =
      some { a.told true with
        relay := (a.told true).relay.react .shutdown
        events := a.events ++ [.shutdown] } := by
  refine step_of_event ?_
  have hp' : (a.told true).relay.writer.phase = .selecting := hp
  rw [Relay.event?, if_pos hp']
  rfl

/-- The attachment after a move, or as it was if that cannot be made. -/
def advance (site : Site W) (m : Move) (a : Attachment W) : Attachment W := (a.step site m).getD a

/-- Only the signal changes what a writer has been told. -/
theorem stop_of_step {m : Move} (hm : ∀ value, m ≠ .signal value) (h : a.step site m = some a') :
    a'.relay.stop = a.relay.stop := by
  cases m with
  | handle hd => obtain ⟨q, -, rfl⟩ := Option.map_eq_some_iff.1 h; rfl
  | buffer b => obtain ⟨q, -, rfl⟩ := Option.map_eq_some_iff.1 h; rfl
  | endHandles => cases h; rfl
  | endBuffers => cases h; rfl
  | signal value => exact absurd rfl (hm value)
  | writer => cases writerMoves_of_step h <;> rfl

theorem stop_advance {m : Move} (hm : ∀ value, m ≠ .signal value) (a : Attachment W) :
    (a.advance site m).relay.stop = a.relay.stop := by
  rw [advance]
  cases h : a.step site m with
  | none => rfl
  | some a' => exact stop_of_step hm h

/-- The write call under way, with what will come of it. -/
def pending (site : Site W) (a : Attachment W) : List Call :=
  match a.relay.writer.phase with
  | .writing h b => [⟨h, b, (site.write a.relay.world.1 h b).1⟩]
  | _ => []

/-- **What an attachment does once it is to stop**, in that many moves of its writer: the first one
ends the write under way, if there is one, and the one behind it ends the output. Nothing is
taken. -/
structure WindsUp (site : Site W) (a a' : Attachment W) (n : ℕ) : Prop where
  handles : handlesOf a'.events = handlesOf a.events
  buffers : buffersOf a'.events = buffersOf a.events
  calls : a'.calls = a.calls ++ (a.pending site).take n
  output : a'.relay.output = a.relay.output ++ ((a.pending site).take n).map Call.item
  pending : a'.pending site = (a.pending site).drop n
  waits : n = 0 → a'.relay.writer = a.relay.writer
  ends : (a.pending site).length < n → a'.relay.writer.phase = .ended

/-- No move of the writer, and nothing done. -/
theorem windsUp_zero (hr : a.Rests a') (hw : a'.relay.writer = a.relay.writer) :
    WindsUp site a a' 0 where
  handles := by rw [hr.events]
  buffers := by rw [hr.events]
  calls := by
    rw [List.take_zero, List.append_nil, calls, hr.world]
    rfl
  output := by rw [List.take_zero, List.map_nil, List.append_nil, hr.output]
  pending := by rw [List.drop_zero, Attachment.pending, Attachment.pending, hw, hr.world]
  waits _ := hw
  ends h := absurd h (Nat.not_lt_zero _)

theorem WindsUp.trans {m n : ℕ} (h₁ : WindsUp site a a' m) (h₂ : WindsUp site a' a'' n) :
    WindsUp site a a'' (m + n) where
  handles := h₂.handles.trans h₁.handles
  buffers := h₂.buffers.trans h₁.buffers
  calls := by rw [h₂.calls, h₁.calls, h₁.pending, List.append_assoc, ← List.take_add]
  output := by
    rw [h₂.output, h₁.output, h₁.pending, List.append_assoc, ← List.map_append, ← List.take_add]
  pending := by rw [h₂.pending, h₁.pending, List.drop_drop]
  waits h := (h₂.waits (by omega)).trans (h₁.waits (by omega))
  ends h := by
    have hdrop : (a'.pending site).length = (a.pending site).length - m := by
      rw [h₁.pending, List.length_drop]
    by_cases hn : n = 0
    · rw [h₂.waits hn]
      exact h₁.ends (by omega)
    · exact h₂.ends (by omega)

/-- At the end of the output the write that was under way has been emitted. -/
theorem WindsUp.emitted {n : ℕ} (h : WindsUp site a a' n) (hend : a'.relay.writer.phase = .ended) :
    a'.calls = a.calls ++ a.pending site ∧
      a'.relay.output = a.relay.output ++ (a.pending site).map Call.item := by
  have hnone : a'.pending site = [] := by rw [Attachment.pending, hend]
  have hlength : (a.pending site).length ≤ n := by
    rw [← List.drop_eq_nil_iff, ← h.pending]
    exact hnone
  have hall : (a.pending site).take n = a.pending site := List.take_of_length_le hlength
  rw [h.calls, h.output, hall]
  exact ⟨rfl, rfl⟩

/-- Between two writes, one that is told to stop ends. -/
theorem windsUp_of_selecting (hp : a.relay.writer.phase = .selecting)
    (h : (a.told true).step site .writer = some a') : WindsUp site a a' 1 := by
  rw [step_told hp] at h
  cases h
  have hnone : a.pending site = [] := by rw [Attachment.pending, hp]
  refine ⟨?_, ?_, ?_, ?_, ?_, nofun, fun _ => rfl⟩
  · exact (handlesOf_concat _ _).trans (List.append_nil _)
  · exact (buffersOf_concat _ _).trans (List.append_nil _)
  · rw [hnone]
    exact (List.append_nil _).symm
  · rw [hnone]
    exact (List.append_nil _).symm
  · rw [hnone]
    rfl

/-- The write under way ends. -/
theorem windsUp_of_writing {h : Handle} {b : Bytes} (hp : a.relay.writer.phase = .writing h b) :
    WindsUp site a (a.advance site .writer) 1 := by
  rw [advance, step_of_writing hp, Option.getD_some]
  have hone : a.pending site = [⟨h, b, (site.write a.relay.world.1 h b).1⟩] := by
    rw [Attachment.pending, hp]
  obtain ⟨-, -, hitem⟩ :=
    settle_item a.relay.writer h b (site.logged.write a.relay.world h b).1
  refine ⟨rfl, rfl, ?_, ?_, ?_, nofun, ?_⟩
  · rw [hone]
    rfl
  · rw [hone]
    exact congrArg (fun i => a.relay.output ++ [i]) hitem
  · have hgoes : (a.relay.land site.logged h b).writer.phase = .selecting ∨
        (a.relay.land site.logged h b).writer.phase = .failed := by
      unfold Relay.land
      cases (site.logged.write a.relay.world h b).1 with
      | ok => exact .inl rfl
      | error e => exact .inr rfl
    rw [hone]
    rcases hgoes with hgoes | hgoes <;> rw [Attachment.pending, hgoes] <;> rfl
  · rw [hone]
    intro hlt
    exact absurd hlt (Nat.lt_irrefl 1)

/-- One that has stopped ends. -/
theorem windsUp_of_stopped (hs : a.HasStopped) : WindsUp site a (a.advance site .writer) 1 := by
  have hnone : a.pending site = [] := by
    rcases hs with hs | hs <;> rw [Attachment.pending, hs]
  have hend : a.Rests (a.advance site .writer) ∧
      (a.advance site .writer).relay.writer.phase = .ended := by
    rw [advance]
    cases h : a.step site .writer with
    | none =>
      refine ⟨.refl a, ?_⟩
      rcases hs with hs | hs
      · simp [step, Relay.stepWriter, hs] at h
      · exact hs
    | some a' =>
      cases writerMoves_of_step h with
      | took hp => rcases hs with hs | hs <;> rw [hp] at hs <;> cases hs
      | landed hp => rcases hs with hs | hs <;> rw [hp] at hs <;> cases hs
      | left hp => exact ⟨⟨rfl, rfl, rfl, rfl⟩, rfl⟩
  obtain ⟨hrest, hend⟩ := hend
  refine ⟨?_, ?_, ?_, ?_, ?_, fun h => absurd h Nat.one_ne_zero, fun _ => hend⟩
  · rw [hrest.events]
  · rw [hrest.events]
  · rw [hnone, List.take_nil, List.append_nil]
    exact congrArg Prod.snd hrest.world
  · rw [hnone, List.take_nil, List.map_nil, List.append_nil, hrest.output]
  · rw [hnone, List.drop_nil, Attachment.pending, hend]

end Attachment

/-- An attachment, and the two ends of its signal to stop. -/
structure Supervised (W : Type) where
  attachment : Attachment W
  signal : StopSignal := {}
  watcher : Watcher := {}

namespace Supervised

open Attachment

/-- What may happen next. -/
inductive Move where
  | move (m : Attachment.Move)
  /-- Nobody is left who could set the signal. -/
  | release
  deriving DecidableEq, Repr

variable {W : Type} {site : Site W} {s u : Supervised W}

/-- A writer before anything has arrived, with such a signal. -/
def start (world : W) (signal : StopSignal) : Supervised W :=
  { attachment := .start world, signal := signal }

/-- **A move of the writer.** A round looks at its signal before its sources; a round that takes an
event is over, and the next one looks afresh. -/
def look (site : Site W) (s : Supervised W) : Supervised W :=
  if s.attachment.relay.writer.phase = .selecting then
    let (stop, watcher) := s.watcher.poll s.signal
    match (s.attachment.told stop).step site .writer with
    | some a => { s with attachment := a, watcher := { watcher with phase := .fresh } }
    | none => { s with watcher := watcher }
  else { s with attachment := s.attachment.advance site .writer }

/-- **What a move makes of an attachment and its signal**; a move that cannot be made leaves
them. -/
def step (site : Site W) (s : Supervised W) : Move → Supervised W
  | .move (.signal value) =>
    if s.signal.sending then
      { s with
        signal := { s.signal with value := value }
        watcher := { s.watcher with unseen := true } }
    else s
  | .move .writer => s.look site
  | .move m => { s with attachment := s.attachment.advance site m }
  | .release => { s with signal := { s.signal with sending := false } }

/-- The attachment and its signal after some moves. -/
def run (site : Site W) (s : Supervised W) (ms : List Move) : Supervised W := ms.foldl (step site) s

/-- What a round makes of the attachment. -/
theorem attachment_look (site : Site W) (hp : s.attachment.relay.writer.phase = .selecting) :
    (s.look site).attachment =
      ((s.attachment.told (s.watcher.poll s.signal).1).step site .writer).getD s.attachment := by
  rw [look, if_pos hp]
  dsimp only
  cases (s.attachment.told (s.watcher.poll s.signal).1).step site .writer <;> rfl

/-- A move that is not the writer's is made by the attachment or leaves it, whatever state that is
in. -/
theorem attachment_of_arrival (site : Site W) {m : Move} (hm : m ≠ .move .writer) :
    (∀ s : Supervised W, (s.step site m).attachment = s.attachment) ∨
      ∃ m', m' ≠ .writer ∧ (∀ value, m' ≠ .signal value) ∧
        ∀ s : Supervised W, (s.step site m).attachment = s.attachment.advance site m' := by
  cases m with
  | release => exact .inl fun _ => rfl
  | move m =>
    cases m with
    | signal value =>
      refine .inl fun s => ?_
      rw [step]
      split <;> rfl
    | writer => exact absurd rfl hm
    | handle hd => exact .inr ⟨.handle hd, nofun, nofun, fun _ => rfl⟩
    | buffer b => exact .inr ⟨.buffer b, nofun, nofun, fun _ => rfl⟩
    | endHandles => exact .inr ⟨.endHandles, nofun, nofun, fun _ => rfl⟩
    | endBuffers => exact .inr ⟨.endBuffers, nofun, nofun, fun _ => rfl⟩

/-- **Every move is one of the attachment**, which may have been told something before, or leaves
it. -/
theorem attachment_step (site : Site W) (s : Supervised W) (m : Move) :
    (s.step site m).attachment = s.attachment ∨
      ∃ stop m', (s.attachment.told stop).step site m' = some (s.step site m).attachment := by
  have hadvance : ∀ (stop : Bool) (m' : Attachment.Move),
      ((s.attachment.told stop).step site m').getD s.attachment = s.attachment ∨
        ∃ stop' m'', (s.attachment.told stop').step site m'' =
          some (((s.attachment.told stop).step site m').getD s.attachment) := by
    intro stop m'
    cases h : (s.attachment.told stop).step site m' with
    | none => exact .inl rfl
    | some a => exact .inr ⟨stop, m', h⟩
  by_cases hm : m = .move .writer
  · subst hm
    by_cases hp : s.attachment.relay.writer.phase = .selecting
    · have hlook := attachment_look site hp
      rw [step, hlook]
      exact hadvance _ _
    · rw [step, look, if_neg hp]
      exact hadvance s.attachment.relay.stop .writer
  · rcases attachment_of_arrival site hm with hstays | ⟨m', -, -, hgoes⟩
    · exact .inl (hstays s)
    · rw [hgoes s]
      exact hadvance s.attachment.relay.stop m'

/-- What has been told is no part of what has been done. -/
theorem beginsAs_step (site : Site W) (s : Supervised W) (m : Move) :
    s.attachment.BeginsAs (s.step site m).attachment := by
  rcases attachment_step site s m with h | ⟨stop, m', h⟩
  · rw [h]
    exact .refl _
  · have hb : (s.attachment.told stop).BeginsAs (s.step site m).attachment := beginsAs_of_step h
    exact ⟨hb.output, hb.started, hb.calls, hb.handles⟩

/-- What has stopped rests, whatever the signal says. -/
theorem rests_step (m : Move) (hs : s.attachment.HasStopped) :
    s.attachment.Rests (s.step site m).attachment ∧ (s.step site m).attachment.HasStopped := by
  rcases attachment_step site s m with h | ⟨stop, m', h⟩
  · rw [h]
    exact ⟨.refl _, hs⟩
  · have hs' : (s.attachment.told stop).HasStopped := hs
    obtain ⟨hr, hgoes⟩ := rests_of_stopped hs' h
    exact ⟨⟨hr.events, hr.world, hr.output, hr.stats⟩, hgoes⟩

/-- **A writer with a signal and one without, on the same moves**: they are the same, or the first
one has stopped in what the other one does. -/
inductive Coupled (a b : Attachment W) : Prop
  | same (h : a = b) (hs : b.relay.stop = false)
  | apart (hs : a.HasStopped) (hb : a.BeginsAs b)

/-- A look that does not say to stop leaves the round to the sources. -/
theorem look_eq_advance (site : Site W) (hs : s.attachment.relay.stop = false)
    (hlook : s.attachment.relay.writer.phase = .selecting → (s.watcher.poll s.signal).1 = false) :
    (s.look site).attachment = s.attachment.advance site .writer := by
  by_cases hp : s.attachment.relay.writer.phase = .selecting
  · have htold := told_stop s.attachment
    rw [hs] at htold
    rw [attachment_look site hp, hlook hp, htold]
    rfl
  · rw [look, if_neg hp]

/-- As long as a look does not say to stop, the two writers move alike. -/
theorem look_eq (site : Site W) (hu : u.signal.watched = false) (h : s.attachment = u.attachment)
    (hs : u.attachment.relay.stop = false)
    (hlook : s.attachment.relay.writer.phase = .selecting → (s.watcher.poll s.signal).1 = false) :
    (s.look site).attachment = (u.look site).attachment ∧
      (u.look site).attachment.relay.stop = false := by
  have hnone : (u.watcher.poll u.signal).1 = false := by simp [Watcher.poll, hu]
  have hgoes := look_eq_advance site hs fun _ => hnone
  have hgoes' := look_eq_advance site (h ▸ hs) hlook
  rw [hgoes, hgoes', h]
  exact ⟨rfl, (stop_advance (by nofun) _).trans hs⟩

/-- A look that says to stop ends the writer. -/
theorem apart_of_look (site : Site W) (hp : s.attachment.relay.writer.phase = .selecting)
    (hlook : (s.watcher.poll s.signal).1 = true) :
    (s.look site).attachment.HasStopped ∧ (s.look site).attachment.BeginsAs s.attachment := by
  rw [attachment_look site hp, hlook, step_told hp, Option.getD_some]
  refine ⟨.inr rfl, List.prefix_refl _, ?_, List.prefix_refl _, ?_⟩
  · rw [started_of_not_writing fun _ _ hw => by cases hw]
    exact List.prefix_append _ _
  · rw [handlesOf_concat]
    simp [handlesOf]

/-- What arrives, and a signal that is set, keep two equal writers equal. -/
theorem same_of_arrival (site : Site W) {m : Move} (hm : m ≠ .move .writer)
    (h : s.attachment = u.attachment) (hs : u.attachment.relay.stop = false) :
    (s.step site m).attachment = (u.step site m).attachment ∧
      (u.step site m).attachment.relay.stop = false := by
  rcases attachment_of_arrival site hm with hstays | ⟨m', -, hsignal, hgoes⟩
  · rw [hstays s, hstays u]
    exact ⟨h, hs⟩
  · rw [hgoes s, hgoes u]
    exact ⟨congrArg (advance site m') h, (stop_advance hsignal _).trans hs⟩

/-- **A move keeps two writers coupled.** -/
theorem Coupled.step (hu : u.signal.watched = false) (h : Coupled s.attachment u.attachment)
    (m : Move) :
    Coupled (s.step site m).attachment (u.step site m).attachment := by
  cases h with
  | apart hs hb =>
    obtain ⟨hrest, hstays⟩ := rests_step m hs
    exact .apart hstays ((hb.of_rests hs hstays hrest).trans (beginsAs_step site u m))
  | same h hs =>
    by_cases hm : m = .move .writer
    · subst hm
      by_cases hstop : s.attachment.relay.writer.phase = .selecting ∧
        (s.watcher.poll s.signal).1 = true
      · -- here the two part: the one that is told to stop ends, the other goes on
        obtain ⟨hends, hb⟩ := apart_of_look site hstop.1 hstop.2
        rw [h] at hb
        exact .apart hends (hb.trans (beginsAs_step site u _))
      · have hlook : s.attachment.relay.writer.phase = .selecting →
            (s.watcher.poll s.signal).1 = false := by
          intro hp
          simpa using fun hread => hstop ⟨hp, hread⟩
        obtain ⟨hsame, hstays⟩ := look_eq site hu h hs hlook
        exact .same hsame hstays
    · obtain ⟨hsame, hstays⟩ := same_of_arrival site hm h hs
      exact .same hsame hstays

/-- A look at the signal does not set it. -/
theorem signal_look (site : Site W) (s : Supervised W) : (s.look site).signal = s.signal := by
  unfold look
  split
  · dsimp only
    split <;> rfl
  · rfl

/-- Nobody gives a signal to a writer that has none, or takes it away from one that has it. -/
theorem watched_step (site : Site W) (s : Supervised W) (m : Move) :
    (s.step site m).signal.watched = s.signal.watched := by
  cases m with
  | release => rfl
  | move m =>
    cases m with
    | signal value =>
      rw [step]
      split <;> rfl
    | writer => rw [step, signal_look]
    | handle | buffer | endHandles | endBuffers => rfl

/-- The signal keeps its value until another one is set. -/
theorem value_step {m : Move} {value : Bool} (hm : m ≠ .move (.signal !value))
    (hv : s.signal.value = value) :
    (s.step site m).signal.value = value := by
  cases m with
  | release => exact hv
  | move m =>
    cases m with
    | signal new =>
      have hnew : new = value := by
        cases new <;> cases value <;> first | rfl | exact absurd rfl hm
      rw [step]
      split
      · exact hnew
      · exact hv
    | writer => rw [step, signal_look, hv]
    | handle | buffer | endHandles | endBuffers => exact hv

/-- A round that is told to stop does not wait. -/
theorem attentive_look (h : s.watcher.Attentive s.signal) :
    (s.look site).watcher.Attentive (s.look site).signal := by
  rw [signal_look]
  unfold look
  split
  case isFalse hp => exact h
  case isTrue hp =>
    dsimp only
    split
    case h_1 a ha => exact Watcher.attentive_of_fresh rfl
    case h_2 hnone =>
      refine Watcher.attentive_poll h ?_
      by_contra hread
      rw [Bool.not_eq_false] at hread
      rw [hread, step_told hp] at hnone
      cases hnone

/-- **No move makes a watcher miss anything.** -/
theorem attentive_step (h : s.watcher.Attentive s.signal) (m : Move) :
    (s.step site m).watcher.Attentive (s.step site m).signal := by
  cases m with
  | release => exact h.release
  | move m =>
    cases m with
    | signal value =>
      rw [step]
      split
      · exact h.set ‹_› value
      · exact h
    | writer => exact attentive_look h
    | handle | buffer | endHandles | endBuffers => exact h

/-- A writer that has been given a signal, and that signal says to stop. -/
structure MustStop (s : Supervised W) : Prop where
  watched : s.signal.watched = true
  attentive : s.watcher.Attentive s.signal
  value : s.signal.value = true

theorem MustStop.step {m : Move} (h : s.MustStop) (hm : m ≠ .move (.signal false)) :
    (s.step site m).MustStop where
  watched := (watched_step site s m).trans h.watched
  attentive := attentive_step h.attentive m
  value := value_step hm h.value

/-- Behind the signal a move of the writer only goes on to the end. -/
theorem MustStop.look (h : s.MustStop) : WindsUp site s.attachment (s.look site).attachment 1 := by
  have hread : (s.watcher.poll s.signal).1 = true := by
    rw [Watcher.poll_fst h.attentive, h.watched, h.value]
    rfl
  cases hp : s.attachment.relay.writer.phase with
  | selecting =>
    refine windsUp_of_selecting hp ?_
    rw [attachment_look site hp, hread, step_told hp]
    rfl
  | writing hd b =>
    rw [Supervised.look, if_neg (by simp [hp])]
    exact windsUp_of_writing hp
  | failed =>
    rw [Supervised.look, if_neg (by simp [hp])]
    exact windsUp_of_stopped (.inl hp)
  | ended =>
    rw [Supervised.look, if_neg (by simp [hp])]
    exact windsUp_of_stopped (.inr hp)

/-- What arrives behind the signal changes nothing. -/
theorem windsUp_of_arrival {m : Move} (hm : m ≠ .move .writer) :
    WindsUp site s.attachment (s.step site m).attachment 0 := by
  rcases attachment_of_arrival site hm with hstays | ⟨m', hw, -, hgoes⟩
  · rw [hstays s]
    exact windsUp_zero (.refl _) rfl
  · rw [hgoes s, advance]
    cases h : s.attachment.step site m' with
    | none => exact windsUp_zero (.refl _) rfl
    | some a =>
      obtain ⟨hrest, hsame⟩ := rests_of_arrival hw h
      exact windsUp_zero hrest hsame

/-- **Behind the signal only the write under way is left.** -/
theorem MustStop.run {ms : List Move} (h : s.MustStop) (hms : .move (.signal false) ∉ ms) :
    WindsUp site s.attachment (s.run site ms).attachment (ms.count (.move .writer)) := by
  induction ms generalizing s with
  | nil => exact windsUp_zero (.refl _) rfl
  | cons m ms ih =>
    rw [List.mem_cons, not_or] at hms
    have hgoes : (s.step site m).MustStop := h.step (Ne.symm hms.1)
    have hrest := ih hgoes hms.2
    by_cases hm : m = .move .writer
    · subst hm
      rw [List.count_cons_self, Nat.add_comm]
      exact h.look.trans hrest
    · rw [List.count_cons_of_ne hm]
      have hall := (windsUp_of_arrival hm).trans hrest
      rw [Nat.zero_add] at hall
      exact hall

/-- What every move keeps of two writers, the same moves keep of both. -/
theorem run_keeps {P : Supervised W → Supervised W → Prop} {ms : List Move}
    (hstep : ∀ s u m, m ∈ ms → P s u → P (s.step site m) (u.step site m)) (h : P s u) :
    P (s.run site ms) (u.run site ms) := by
  induction ms generalizing s u with
  | nil => exact h
  | cons m ms ih =>
    refine ih (fun s u m hm => hstep s u m (List.mem_cons_of_mem _ hm)) ?_
    exact hstep s u m List.mem_cons_self h

/-- A writer with a signal and one without it stay coupled. -/
theorem coupled_run (site : Site W) (world : W) (signal : StopSignal) (ms : List Move) :
    Coupled ((start world signal).run site ms).attachment
      ((start world { watched := false }).run site ms).attachment := by
  have hstart : Coupled (start world signal).attachment
      (start world { watched := false }).attachment :=
    .same rfl rfl
  refine (run_keeps (P := fun s u => u.signal.watched = false ∧ Coupled s.attachment u.attachment)
    ?_ ⟨rfl, hstart⟩).2
  rintro s u m - ⟨hu, h⟩
  exact ⟨(watched_step site u m).trans hu, h.step hu m⟩

/-- A signal that never says to stop is no signal. -/
theorem same_run (site : Site W) (world : W) {signal : StopSignal} (hv : signal.value = false)
    {ms : List Move} (hms : .move (.signal true) ∉ ms) :
    ((start world signal).run site ms).attachment =
      ((start world { watched := false }).run site ms).attachment := by
  have hattentive : (start world signal).watcher.Attentive (start world signal).signal :=
    Watcher.attentive_of_fresh rfl
  have hstart : (start world signal).attachment = (start world { watched := false }).attachment ∧
      (start world { watched := false }).attachment.relay.stop = false := ⟨rfl, rfl⟩
  refine (run_keeps (P := fun s u =>
    (u.signal.watched = false ∧ s.signal.value = false ∧ s.watcher.Attentive s.signal) ∧
      s.attachment = u.attachment ∧ u.attachment.relay.stop = false)
    ?_ ⟨⟨rfl, hv, hattentive⟩, hstart⟩).2.1
  rintro s u m hm ⟨⟨hu, hvalue, hattentive⟩, h, hs⟩
  have hset : m ≠ .move (.signal true) := fun he => hms (he ▸ hm)
  refine ⟨⟨(watched_step site u m).trans hu, value_step hset hvalue, attentive_step hattentive m⟩,
    ?_⟩
  by_cases hw : m = .move .writer
  · subst hw
    refine look_eq site hu h hs fun _ => ?_
    rw [Watcher.poll_fst hattentive, hvalue, Bool.and_false]
  · exact same_of_arrival site hw h hs

/-- What stands when the signal says to stop. -/
theorem mustStop_run (site : Site W) (world : W) {signal : StopSignal} (hw : signal.watched = true)
    {ms : List Move} (hv : ((start world signal).run site ms).signal.value = true) :
    ((start world signal).run site ms).MustStop := by
  have hstart : (start world signal).signal.watched = true ∧
      (start world signal).watcher.Attentive (start world signal).signal :=
        ⟨hw, Watcher.attentive_of_fresh rfl⟩
  have hrun : ((start world signal).run site ms).signal.watched = true ∧
      ((start world signal).run site ms).watcher.Attentive
        ((start world signal).run site ms).signal := by
    refine run_keeps (P := fun s _ => s.signal.watched = true ∧ s.watcher.Attentive s.signal)
      (u := start world signal) ?_ hstart
    rintro s - m - ⟨hwatched, hattentive⟩
    exact ⟨(watched_step site s m).trans hwatched, attentive_step hattentive m⟩
  exact ⟨hrun.1, hrun.2, hv⟩

/-- **Shutdown only truncates.** Compare a writer that has been given a signal to stop with one that
has none, on the same arrivals, writes and moves. The output, the write calls and the handles taken
of the first are the beginnings of those of the second, and if the signal never says to stop the two
are the same. From any moment at which it says to stop, and for as long as it does, nothing is taken
any more, also if nobody is left who could set it: the write under way comes to its end, whatever
that is, its item goes out before the output ends, and then the output ends. -/
theorem shutdown_truncates (site : Site W) (world : W) {signal : StopSignal}
    (hw : signal.watched = true) (ms : List Move) :
    ((start world signal).run site ms).attachment.BeginsAs
        ((start world { watched := false }).run site ms).attachment ∧
      (signal.value = false → .move (.signal true) ∉ ms →
        ((start world signal).run site ms).attachment =
          ((start world { watched := false }).run site ms).attachment) ∧
      (((start world signal).run site ms).signal.value = true →
        ∀ more a a', .move (.signal false) ∉ more →
          ((start world signal).run site ms).attachment = a →
          ((start world signal).run site (ms ++ more)).attachment = a' →
          WindsUp site a a' (more.count (.move .writer)) ∧
            (a'.relay.writer.phase = .ended →
              a'.calls = a.calls ++ a.pending site ∧
                a'.relay.output = a.relay.output ++ (a.pending site).map Call.item)) := by
  refine ⟨?_, ?_, ?_⟩
  · cases coupled_run site world signal ms with
    | same h => rw [h]; exact .refl _
    | apart hs hb => exact hb
  · intro hv hms
    exact same_run site world hv hms
  · rintro hv more a a' hmore rfl rfl
    have hstop := mustStop_run site world hw hv
    have hwinds : WindsUp site _ (((start world signal).run site ms).run site more).attachment _ :=
      hstop.run hmore
    rw [run, run, ← List.foldl_append] at hwinds
    exact ⟨hwinds, hwinds.emitted⟩

/-- The signal is set during a write and its sender leaves, with another buffer waiting; without a
signal that buffer is written as well. A sender that leaves without a word stops nothing. -/
theorem shutdown_truncates_during_write :
    ∃ ms more : List Move,
      ms = [.move (.handle ⟨0, "A"⟩), .move .writer, .move (.buffer [1]), .move .writer,
        .move (.signal true), .release, .move (.buffer [2])] ∧
      more = [.move .writer, .move .writer, .move .writer] ∧
      ∃ a a' b : Attachment ℕ,
        ((start 0 { watched := true }).run counting ms).attachment = a ∧
        ((start 0 { watched := true }).run counting (ms ++ more)).attachment = a' ∧
        ((start 0 { watched := false }).run counting (ms ++ more)).attachment = b ∧
        a.relay.writer.phase = .writing ⟨0, "A"⟩ [1] ∧ a'.BeginsAs b ∧ WindsUp counting a a' 3 ∧
        a'.relay.output = [.forwarded [1]] ∧ a'.relay.writer.phase = .ended ∧
        b.relay.output = [.forwarded [1], .forwarded [2]] ∧
        ((start 0 { watched := true }).run counting (.release :: more)).attachment =
          ((start 0 { watched := false }).run counting (.release :: more)).attachment := by
  obtain ⟨ms, hms⟩ : ∃ ms : List Move, ms =
      [.move (.handle ⟨0, "A"⟩), .move .writer, .move (.buffer [1]), .move .writer,
        .move (.signal true), .release, .move (.buffer [2])] := ⟨_, rfl⟩
  have hvalue : ((start 0 { watched := true }).run counting ms).signal.value = true := by
    rw [hms]; rfl
  have hwatched : ({ watched := true } : StopSignal).watched = true := rfl
  have hbegins := (shutdown_truncates counting 0 hwatched
    (ms ++ [.move .writer, .move .writer, .move .writer])).1
  have hwinds := ((shutdown_truncates counting 0 hwatched ms).2.2 hvalue
    [.move .writer, .move .writer, .move .writer] _ _ (by decide) rfl rfl).1
  have hsame := (shutdown_truncates counting 0 hwatched
    [.release, .move .writer, .move .writer, .move .writer]).2.1 rfl (by decide)
  subst hms
  exact ⟨_, _, rfl, rfl, _, _, _, rfl, rfl, rfl, rfl, hbegins, hwinds, rfl, rfl, rfl, hsame⟩

end Supervised

end SerialRelay

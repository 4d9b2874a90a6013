import SerialRelay.Writer.Basic

/-!
# What a writer takes in one round

* `Writer.Selects`: the five events of a round, each with what the writer has seen of its sources.
* `Writer.select_eq_some_iff`: these are the events that `Writer.select` picks.
* `Writer.select_eq_none`: a round without an event has seen nothing ready.
-/

namespace SerialRelay.Writer

/-- **The events of a round**: a source is taken from only if those before it have nothing. -/
inductive Selects (w : Writer) (shutdown : Bool) (ports : Poll Handle) (buffers : Poll Bytes) :
    Event → Prop
  | shutdown (hs : shutdown = true) : Selects w shutdown ports buffers .shutdown
  | port {h : Handle} (hs : shutdown = false) (ht : w.takesPorts = true) (hp : ports = .ready h) :
      Selects w shutdown ports buffers (.port h)
  | portsEnded (hs : shutdown = false) (ht : w.takesPorts = true) (hp : ports = .ended) :
      Selects w shutdown ports buffers .portsEnded
  | buffer {b : Bytes} (hs : shutdown = false) (hp : w.takesPorts = true → ports = .pending)
      (hb : buffers = .ready b) : Selects w shutdown ports buffers (.buffer b)
  | buffersEnded (hs : shutdown = false) (hp : w.takesPorts = true → ports = .pending)
      (hb : buffers = .ended) : Selects w shutdown ports buffers .buffersEnded

variable {w : Writer} {shutdown : Bool} {ports : Poll Handle} {buffers : Poll Bytes}

/-- **A round takes exactly the events of `Selects`.** -/
theorem select_eq_some_iff {e : Event} :
    w.select shutdown ports buffers = some e ↔ Selects w shutdown ports buffers e := by
  constructor
  · intro h
    unfold select at h
    split at h
    · next hs => cases h; exact .shutdown hs
    · next hs =>
      have hs : shutdown = false := by simpa using hs
      by_cases ht : w.takesPorts = true
      · rw [if_pos ht] at h
        split at h
        · next h' hp => cases h; exact .port hs ht rfl
        · cases h; exact .portsEnded hs ht rfl
        · split at h
          · cases h; exact .buffer hs (fun _ => rfl) rfl
          · cases h; exact .buffersEnded hs (fun _ => rfl) rfl
          · cases h
      · rw [if_neg ht] at h
        split at h
        · contradiction
        · contradiction
        · split at h
          · cases h; exact .buffer hs (fun ht' => absurd ht' ht) rfl
          · cases h; exact .buffersEnded hs (fun ht' => absurd ht' ht) rfl
          · cases h
  · intro h
    cases h with
    | shutdown hs => simp [select, hs]
    | port hs ht hp => simp [select, hs, ht, hp]
    | portsEnded hs ht hp => simp [select, hs, ht, hp]
    | buffer hs hp hb =>
      by_cases ht : w.takesPorts = true
      · simp [select, hs, ht, hp ht, hb]
      · simp [select, hs, ht, hb]
    | buffersEnded hs hp hb =>
      by_cases ht : w.takesPorts = true
      · simp [select, hs, ht, hp ht, hb]
      · simp [select, hs, ht, hb]

/-- A round without an event: no shutdown, and what the writer looked at has nothing. -/
theorem select_eq_none (h : w.select shutdown ports buffers = none) :
    shutdown = false ∧ (w.takesPorts = true → ports = .pending) ∧ buffers = .pending := by
  unfold select at h
  split at h
  · cases h
  · next hs =>
    have hs : shutdown = false := by simpa using hs
    by_cases ht : w.takesPorts = true
    · rw [if_pos ht] at h
      split at h
      · cases h
      · cases h
      · split at h
        · cases h
        · cases h
        · exact ⟨hs, fun _ => rfl, rfl⟩
    · rw [if_neg ht] at h
      split at h
      · contradiction
      · contradiction
      · split at h
        · cases h
        · cases h
        · exact ⟨hs, fun ht' => absurd ht' ht, rfl⟩

theorem takesPorts_iff :
    w.takesPorts = true ↔ w.portsOpen = true ∧ w.portsInRow < maxPortsInRow := by
  simp [takesPorts]

end SerialRelay.Writer

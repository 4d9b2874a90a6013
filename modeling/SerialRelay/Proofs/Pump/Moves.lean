import SerialRelay.Pump.Basic

/-!
# What a pump can do in one move

* `Pump.Moves`: the six kinds of moves, each with the state of the pump and of its link that allows
  it.
* `Pump.step_eq_some_iff`: these are the moves that `Pump.step` makes.
* `Pump.step_eq_none`: a pump that cannot move has ended or waits for its buffer queue.
-/

namespace SerialRelay.Pump

/-- **The moves of a pump**, by what makes it move. -/
inductive Moves (cfg : InputSettings) (openPort : String → Except PortError Handle) (p : Pump)
    (l : Link) : Move → Prop
  | inputEnd (hp : p.phase = .reading) (hi : p.input = []) :
      Moves cfg openPort p l (p.stop l .finished [])
  | notText {raw : Bytes} {rest : List Bytes} (hp : p.phase = .reading) (hi : p.input = raw :: rest)
      (ht : lineText? raw = none) : Moves cfg openPort p l (p.stop l .broken [])
  | line {raw : Bytes} {rest : List Bytes} {text : String} (hp : p.phase = .reading)
      (hi : p.input = raw :: rest) (ht : lineText? raw = some text) :
      Moves cfg openPort p l ((p.nextLine rest).takeUp l (cfg.read text))
  | opened {name : String} (hp : p.phase = .opening name)
      (hd : l.buffers.receiving = true → l.buffers.items = []) :
      Moves cfg openPort p l (p.publish l name (openPort name))
  | refused {bs : Bytes} (hp : p.phase = .sending bs) (hr : l.buffers.receiving = false) :
      Moves cfg openPort p l (p.stop l .finished [writerGone])
  | sent {bs : Bytes} (hp : p.phase = .sending bs) (hr : l.buffers.receiving = true)
      (hf : l.buffers.isFull = false) :
      Moves cfg openPort p l
        ⟨{ p with phase := .reading }.countBuffer, { l with buffers := l.buffers.push bs }, []⟩

variable {cfg : InputSettings} {openPort : String → Except PortError Handle} {p : Pump} {l : Link}

/-- Reading a line does nothing to the link. -/
@[simp] theorem takeUp_link (p : Pump) (l : Link) (r : Request) : (p.takeUp l r).link = l := by
  unfold takeUp
  split <;> rfl

theorem moves_of_step {m : Move} (h : p.step cfg openPort l = some m) :
    Moves cfg openPort p l m := by
  unfold step at h
  split at h
  · cases h
  · cases h
  · next hp =>
    split at h
    · next hi => cases h; exact .inputEnd hp hi
    · next raw rest hi =>
      split at h
      · next ht => cases h; exact .notText hp hi ht
      · next text ht => cases h; exact .line hp hi ht
  · next name hp =>
    split at h
    · cases h
    · next hd =>
      cases h
      exact .opened hp (fun hr => by simpa [hr] using hd)
  · next bs hp =>
    split at h
    · next hr => cases h; exact .refused hp (by simpa using hr)
    · next hr =>
      split at h
      · cases h
      · next hf => cases h; exact .sent hp (by simpa using hr) (by simpa using hf)

/-- **A pump makes exactly the moves of `Moves`.** -/
theorem step_eq_some_iff {m : Move} :
    p.step cfg openPort l = some m ↔ Moves cfg openPort p l m := by
  refine ⟨moves_of_step, fun h => ?_⟩
  cases h with
  | inputEnd hp hi => simp [step, hp, hi]
  | notText hp hi ht => simp [step, hp, hi, ht]
  | line hp hi ht => simp [step, hp, hi, ht]
  | opened hp hd => simpa [step, hp] using hd
  | refused hp hr => simp [step, hp, hr]
  | sent hp hr hf => simp [step, hp, hr, hf]

/-- A pump that cannot move has ended, or waits for the buffer queue of a writer that is there. -/
theorem step_eq_none (h : p.step cfg openPort l = none) :
    p.isOver = true ∨ l.buffers.receiving = true ∧
      ((∃ name, p.phase = .opening name) ∧ l.buffers.items ≠ [] ∨
        (∃ bs, p.phase = .sending bs) ∧ l.buffers.isFull = true) := by
  unfold step at h
  split at h
  · next hp => exact .inl (by simp [isOver, hp])
  · next hp => exact .inl (by simp [isOver, hp])
  · split at h
    · cases h
    · split at h <;> cases h
  · next name hp =>
    split at h
    · next hd =>
      simp only [Bool.and_eq_true, Bool.not_eq_true', List.isEmpty_eq_false_iff] at hd
      exact .inr ⟨hd.1, .inl ⟨⟨name, hp⟩, hd.2⟩⟩
    · cases h
  · next bs hp =>
    split at h
    · cases h
    · next hr =>
      split at h
      · next hf => exact .inr ⟨by simpa using hr, .inr ⟨⟨bs, hp⟩, hf⟩⟩
      · cases h

end SerialRelay.Pump

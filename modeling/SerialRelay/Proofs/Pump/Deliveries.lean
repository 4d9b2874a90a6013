import SerialRelay.Proofs.Pump.Moves

/-!
# What a pump brings to its link

The lines of an input bring handles and buffers, in the order of the lines. What a pump has still to
bring depends on its phase and on the lines that are left, not on the link.

* `deliveries`: what lines bring, when a port opens by its name alone.
* `Pump.Handover`: a move hands over the next delivery, or nothing, or ends the link; a handle is
  handed over to a writer that is there only when no buffer is queued.
* `Pump.handover_of_moves`: that is so for every move.
-/

namespace SerialRelay

/-- What a pump hands over. -/
inductive Delivery where
  | handle (h : Handle)
  | buffer (b : Bytes)
  deriving DecidableEq, Repr

/-- What a request brings: a port that opens brings its handle, a payload its buffer. -/
def Request.deliveries (openPort : String → Except PortError Handle) : Request → List Delivery
  | .openPort name =>
    match openPort name with
    | .ok h => [.handle h]
    | .error _ => []
  | .payload bs => [.buffer bs]
  | .nothing => []
  | .fault _ => []

/-- **What lines bring**, up to one that is not text. -/
def deliveries (cfg : InputSettings) (openPort : String → Except PortError Handle) :
    List Bytes → List Delivery
  | [] => []
  | raw :: rest =>
    match lineText? raw with
    | none => []
    | some text => (cfg.read text).deliveries openPort ++ deliveries cfg openPort rest

namespace Pump

variable {cfg : InputSettings} {openPort : String → Except PortError Handle} {p : Pump} {l : Link}

/-- What a pump has still to bring. -/
def deliveries (cfg : InputSettings) (openPort : String → Except PortError Handle) (p : Pump) :
    List Delivery :=
  match p.phase with
  | .reading => SerialRelay.deliveries cfg openPort p.input
  | .opening name =>
    (Request.openPort name).deliveries openPort ++ SerialRelay.deliveries cfg openPort p.input
  | .sending bs => .buffer bs :: SerialRelay.deliveries cfg openPort p.input
  | .finished => []
  | .broken => []

theorem deliveries_of_isOver (h : p.isOver = true) : p.deliveries cfg openPort = [] := by
  simp only [isOver, Bool.or_eq_true, decide_eq_true_eq] at h
  rcases h with h | h <;> simp [deliveries, h]

/-- **How a move stands to what the pump has to bring.** The pump ends before it has brought
everything only if a receiver is gone. -/
inductive Handover (cfg : InputSettings) (openPort : String → Except PortError Handle) (p : Pump)
    (l : Link) (m : Move) : Prop
  | nothing (hl : m.link = l) (hd : p.deliveries cfg openPort = m.pump.deliveries cfg openPort)
      (ho : m.pump.isOver = false)
  | handle {h : Handle} (hb : l.buffers.receiving = true → l.buffers.items = [])
      (hl : m.link = { l with ports := l.ports.push h })
      (hd : p.deliveries cfg openPort = .handle h :: m.pump.deliveries cfg openPort)
      (ho : m.pump.isOver = false)
  | buffer {b : Bytes} (hl : m.link = { l with buffers := l.buffers.push b })
      (hd : p.deliveries cfg openPort = .buffer b :: m.pump.deliveries cfg openPort)
      (ho : m.pump.isOver = false)
  | ended (hl : m.link = l.endSending)
      (hd : l.buffers.receiving = true → l.ports.receiving = true → p.deliveries cfg openPort = [])
      (ho : m.pump.isOver = true)

theorem isOver_of_moves {m : Move} (h : Moves cfg openPort p l m) : p.isOver = false := by
  cases h with
  | inputEnd hp | notText hp | line hp | opened hp | refused hp | sent hp => simp [isOver, hp]

/-- **A move hands over the next delivery, or nothing, or ends the link.** -/
theorem handover_of_moves {m : Move} (h : Moves cfg openPort p l m) :
    Handover cfg openPort p l m := by
  cases h with
  | inputEnd hp hi =>
    exact .ended rfl (fun _ _ => by simp [deliveries, hp, hi, SerialRelay.deliveries]) rfl
  | notText hp hi ht =>
    exact .ended rfl (fun _ _ => by simp [deliveries, hp, hi, SerialRelay.deliveries, ht]) rfl
  | @line raw rest text hp hi ht =>
    have hd : p.deliveries cfg openPort = (cfg.read text).deliveries openPort ++
        SerialRelay.deliveries cfg openPort rest := by
      simp [deliveries, hp, hi, SerialRelay.deliveries, ht]
    cases hr : cfg.read text with
    | openPort name =>
      exact .nothing rfl (by rw [hd, hr]; rfl) (by simp [takeUp, isOver])
    | payload bs => exact .nothing rfl (by rw [hd, hr]; rfl) (by simp [takeUp, isOver])
    | nothing =>
      refine .nothing rfl
        (by rw [hd, hr]; simp [takeUp, deliveries, nextLine, hp, Request.deliveries]) ?_
      simp [takeUp, isOver, nextLine, hp]
    | fault e =>
      refine .nothing rfl ?_ (by simp [takeUp, isOver, nextLine, countRejected, hp])
      rw [hd, hr]; simp [takeUp, deliveries, nextLine, countRejected, hp, Request.deliveries]
  | @opened name hp hi =>
    have hd : p.deliveries cfg openPort = (Request.openPort name).deliveries openPort ++
        SerialRelay.deliveries cfg openPort p.input := by
      simp [deliveries, hp]
    cases ho : openPort name with
    | ok h =>
      by_cases hr : l.ports.receiving = true
      · refine .handle (h := h) hi (by simp [publish, hr])
          ?_ (by simp [publish, hr, countOpened, isOver])
        rw [hd]; simp [Request.deliveries, ho, publish, hr, deliveries, countOpened]
      · exact .ended (by simp [publish, hr, stop]) (fun _ h => absurd h hr)
          (by simp [publish, hr, stop, isOver])
    | error e =>
      refine .nothing rfl ?_ (by simp [publish, countRejected, isOver])
      rw [hd]; simp [Request.deliveries, ho, publish, deliveries, countRejected]
  -- a writer that is gone leaves what is still to be brought
  | refused hp hr => exact .ended rfl (fun hb => by rw [hb] at hr; contradiction) rfl
  | sent hp hr hf =>
    exact .buffer rfl (by simp [deliveries, hp, countBuffer]) (by simp [countBuffer, isOver])

/-- No move changes the receivers or the room of a link. -/
theorem Handover.receiving {m : Move} (h : Handover cfg openPort p l m) :
    m.link.buffers.receiving = l.buffers.receiving ∧ m.link.ports.receiving = l.ports.receiving ∧
      m.link.buffers.capacity = l.buffers.capacity := by
  cases h with
  | nothing hl | handle _ hl | buffer hl => rw [hl]; exact ⟨rfl, rfl, rfl⟩
  | ended hl => rw [hl]; exact ⟨rfl, by simp, rfl⟩

/-- The senders of a link stay as long as the pump goes on; that of buffers goes with it. -/
theorem Handover.sending {m : Move} (h : Handover cfg openPort p l m) :
    (m.pump.isOver = false → m.link.buffers.sending = l.buffers.sending ∧
      m.link.ports.sending = l.ports.sending) ∧
      (m.pump.isOver = true → m.link.buffers.sending = false) := by
  cases h with
  | nothing hl hd ho | handle _ hl hd ho | buffer hl hd ho =>
    rw [hl, ho]; exact ⟨fun _ => ⟨rfl, rfl⟩, nofun⟩
  | ended hl hd ho => rw [hl, ho]; exact ⟨nofun, fun _ => rfl⟩

end Pump

end SerialRelay

import SerialRelay.Channel
import SerialRelay.Writer.Basic

/-!
# The link between pump and writer

Two channels: a bounded one for buffers and an unbounded one for handles.
-/

namespace SerialRelay

structure Link where
  buffers : Channel Bytes
  ports : Channel Handle := {}
  /-- Somebody besides the pump may still send handles. -/
  portsKept : Bool := false

namespace Link

/-- A link whose buffer queue has room for `capacity` buffers. -/
def withCapacity (capacity : Nat) : Link := { buffers := { capacity := some capacity } }

/-- The pump goes away. -/
def endSending (l : Link) : Link :=
  { l with
    buffers := l.buffers.endSending
    ports := if l.portsKept then l.ports else l.ports.endSending }

@[simp] theorem endSending_ports_items (l : Link) : l.endSending.ports.items = l.ports.items := by
  unfold endSending; split <;> rfl

@[simp] theorem endSending_ports_receiving (l : Link) :
    l.endSending.ports.receiving = l.ports.receiving := by
  unfold endSending; split <;> rfl

@[simp] theorem endSending_ports_sending (l : Link) :
    l.endSending.ports.sending = (l.portsKept && l.ports.sending) := by
  unfold endSending; split <;> simp_all [Channel.endSending]

@[simp] theorem endSending_buffers (l : Link) : l.endSending.buffers = l.buffers.endSending := rfl

/-- The writer goes away. -/
def dropReceivers (l : Link) : Link :=
  { l with buffers := l.buffers.dropReceiver, ports := l.ports.dropReceiver }

/-- The link after the writer has taken an event from it. -/
def take (l : Link) : Event → Link
  | .port _ => { l with ports := l.ports.pop }
  | .buffer _ => { l with buffers := l.buffers.pop }
  | _ => l

end Link

end SerialRelay

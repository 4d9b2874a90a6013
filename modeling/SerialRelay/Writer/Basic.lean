import SerialRelay.Bytes
import SerialRelay.Channel
import SerialRelay.Log
import SerialRelay.Port.Error
import SerialRelay.Writer.Stats

/-!
# The writer

The writer joins two sources, one of buffers and one of port handles. Each buffer is written to the
handle taken last, then emitted again; a buffer that arrives before any handle is dropped. The
writer moves in rounds. In a round it looks at its sources, takes one event (`Writer.select`) and
reacts to it (`Writer.react`); if that starts a write, the end of the write (`Writer.settle`) emits
one item.

A shutdown goes before handles, handles before buffers. After `maxPortsInRow` handles without a
buffer event the handles wait until one has come.
-/

namespace SerialRelay

/-- A reference to an open port: the device behind it, and its name. -/
structure Handle where
  device : Nat
  name : String
  deriving DecidableEq, Repr

/-- What the output of a writer consists of. -/
inductive Item where
  /-- A buffer that was written in full. -/
  | forwarded (buffer : Bytes)
  | failed (e : WriteFailure)
  deriving DecidableEq, Repr

/-- Where a writer stands between two rounds. -/
inductive Writer.Phase where
  | selecting
  /-- A write is under way. -/
  | writing (handle : Handle) (buffer : Bytes)
  /-- A write has failed; the output ends when it is looked at again. -/
  | failed
  | ended
  deriving DecidableEq, Repr

structure Writer where
  current : Option Handle := none
  /-- The port source has not been seen to end. -/
  portsOpen : Bool := true
  /-- Handles taken since the last buffer event. -/
  portsInRow : Nat := 0
  phase : Writer.Phase := .selecting
  stats : Stats := {}
  deriving DecidableEq, Repr

/-- What a writer takes in one round. -/
inductive Event where
  | shutdown
  | port (handle : Handle)
  | portsEnded
  | buffer (bytes : Bytes)
  | buffersEnded
  deriving DecidableEq, Repr

namespace Writer

/-- Ready handles are taken before buffers, but only this many in a row. -/
def maxPortsInRow : Nat := 16

/-- Whether a round looks at the port source. -/
def takesPorts (w : Writer) : Bool := w.portsOpen && w.portsInRow < maxPortsInRow

/-- **The event of a round**, if any source is ready. -/
def select (w : Writer) (shutdown : Bool) (ports : Poll Handle) (buffers : Poll Bytes) :
    Option Event :=
  if shutdown then some .shutdown
  else
    match (if w.takesPorts then ports else .pending) with
    | .ready h => some (.port h)
    | .ended => some .portsEnded
    | .pending =>
      match buffers with
      | .ready b => some (.buffer b)
      | .ended => some .buffersEnded
      | .pending => none

def attachMessage (previous : Option Handle) (h : Handle) : String :=
  match previous with
  | some p => "Switching serial writer from " ++ p.name ++ " to " ++ h.name
  | none => "Serial writer attached to " ++ h.name

/-- **The reaction to an event**, and what is logged about it. -/
def react (w : Writer) : Event → Writer × List LogLine
  | .shutdown =>
    ({ w with phase := .ended }, [⟨.debug, "Shutdown requested, stopping serial writer"⟩])
  | .port h =>
    ({ w with
        current := some h
        portsInRow := w.portsInRow + 1
        stats := w.stats.recordPort h.name },
      [⟨.info, attachMessage w.current h⟩])
  | .portsEnded =>
    match w.current with
    | none =>
      ({ w with portsOpen := false, phase := .ended },
        [⟨.debug, "Port source ended before producing a port"⟩])
    | some _ =>
      ({ w with portsOpen := false }, [⟨.debug, "Port source ended, keeping current port"⟩])
  | .buffersEnded =>
    ({ w with portsInRow := 0, phase := .ended }, [⟨.debug, "Buffer source ended"⟩])
  | .buffer b =>
    match w.current with
    | none =>
      ({ w with portsInRow := 0, stats := w.stats.recordDropped },
        [⟨.debug, "No port available, dropping " ++ toString b.length ++ " byte buffer"⟩])
    | some h => ({ w with portsInRow := 0, phase := .writing h b }, [])

/-- **The end of a write** to a handle: its item, and the writer after it. -/
def settle (w : Writer) (h : Handle) (b : Bytes) :
    Except PortError Unit → Writer × Item × List LogLine
  | .ok () =>
    ({ w with phase := .selecting, stats := w.stats.recordForwarded b.length }, .forwarded b, [])
  | .error e =>
    ({ w with phase := .failed }, .failed ⟨h.name, e⟩,
      [⟨.warn, "Write of " ++ toString b.length ++ " bytes to " ++ h.name ++ " failed: "
        ++ e.message⟩])

/-- The end of the output after a failed write. -/
def finish (w : Writer) : Writer := { w with phase := .ended }

/-- The handles that the writer holds: the current one, until the output has ended. -/
def held (w : Writer) : List Handle :=
  match w.phase with
  | .ended => []
  | _ => w.current.toList

end Writer

end SerialRelay

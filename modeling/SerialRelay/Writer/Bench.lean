import SerialRelay.Port.Simulated
import SerialRelay.Writer.Basic

/-!
# A writer on the bench

A writer attached to two unbounded channels and to simulated ports. Its output is polled one item at
a time; a port can be held, so that a write to it stays under way until the port is released.

* `Bench.step`: one round, or one end of a write.
* `Bench.poll`: rounds until there is an item, or nothing more to do.
-/

namespace SerialRelay

/-- A port on the bench. -/
structure BenchPort where
  name : String
  device : FaultyPort := {}
  /-- Each offer waits while the port is held. -/
  held : Bool := false
  deriving DecidableEq, Repr

/-- A signal to stop that keeps its last value. -/
structure StopSignal where
  /-- The writer has been given the signal. -/
  watched : Bool := false
  value : Bool := false
  /-- The side that sets the signal is still there. -/
  sending : Bool := true
  deriving DecidableEq, Repr

/-- A write that was started on a port, and how it ended. -/
structure Flight where
  handle : Handle
  buffer : Bytes
  result : Option (Except PortError Unit) := none

structure Bench where
  ports : List BenchPort
  stop : StopSignal := {}
  writer : Writer := {}
  bufferQueue : Channel Bytes := {}
  portQueue : Channel Handle := {}
  flight : Option Flight := none
  /-- The output has been given up. -/
  dropped : Bool := false

/-- What a look at the output gives. -/
inductive Look where
  | item (i : Item)
  /-- The output ended just now. -/
  | finished
  /-- It had ended before. -/
  | over
  | dropped
  /-- The writer waits for a source. -/
  | idle
  /-- The writer waits for a write on a held port. -/
  | blocked

namespace Bench

/-- The writer and its sources' receiving ends are gone. -/
def isGone (b : Bench) : Bool := b.dropped || b.writer.phase = .ended

def dropReceivers (b : Bench) : Bench :=
  { b with bufferQueue := b.bufferQueue.dropReceiver, portQueue := b.portQueue.dropReceiver }

def port? (b : Bench) (device : Nat) : Option BenchPort := b.ports[device]?

def setPort (b : Bench) (device : Nat) (p : BenchPort) : Bench :=
  { b with ports := b.ports.set device p }

/-- A delivery to a port of the bench; there is nothing to deliver to beyond them. -/
def deliver (b : Bench) (device : Nat) (data : Bytes) : Except PortError Unit × Bench :=
  match b.port? device with
  | none => (.error .notOpen, b)
  | some p =>
    let (result, dev) := p.device.send data
    (result, b.setPort device { p with device := dev })

/-- Whether a write of these octets to a port has to wait. -/
def waits (b : Bench) (device : Nat) (data : Bytes) : Bool :=
  match b.port? device with
  | none => false
  | some p => p.held && !data.isEmpty

/-- The sources after an event has been taken from them. -/
def take (b : Bench) : Event → Bench
  | .port _ => { b with portQueue := b.portQueue.pop }
  | .buffer _ => { b with bufferQueue := b.bufferQueue.pop }
  | _ => b

/-- The end of the write under way. -/
def land (b : Bench) (h : Handle) (buffer : Bytes) (r : Except PortError Unit) :
    Bench × List LogLine × Option Look :=
  let (w, item, log) := b.writer.settle h buffer r
  ({ b with writer := w, flight := none }, log, some (.item item))

/-- **One round**, or one end of a write; no look yet means that there is more to do. -/
def step (b : Bench) : Bench × List LogLine × Option Look :=
  match b.writer.phase with
  | .ended => (b, [], some .over)
  | .failed => ({ b with writer := b.writer.finish }.dropReceivers, [], some .finished)
  | .writing h buffer =>
    match b.flight with
    | some ⟨_, _, some r⟩ => b.land h buffer r
    | some ⟨_, _, none⟩ => (b, [], some .blocked)
    | none =>
      if b.waits h.device buffer then
        ({ b with flight := some { handle := h, buffer := buffer } }, [], some .blocked)
      else
        let (r, b) := b.deliver h.device buffer
        b.land h buffer r
  | .selecting =>
    match b.writer.select (b.stop.watched && b.stop.value) b.portQueue.poll b.bufferQueue.poll with
    | none => (b, [], some .idle)
    | some e =>
      let (w, log) := b.writer.react e
      let b := { b.take e with writer := w }
      if w.phase = .ended then (b.dropReceivers, log, some .finished) else (b, log, none)

/-- Steps until there is something to see, at most that many. -/
def pollWithin : Nat → Bench → Bench × List LogLine × Look
  | 0, b => (b, [], .idle)
  | n + 1, b =>
    match b.step with
    | (b, log, some l) => (b, log, l)
    | (b, log, none) =>
      let (b, more, l) := b.pollWithin n
      (b, log ++ more, l)

/-- A bound on the steps of a poll: each round takes an item or learns that a source has ended. -/
def stepBound (b : Bench) : Nat := b.portQueue.items.length + b.bufferQueue.items.length + 3

/-- **A look at the output**: rounds until there is an item or nothing more to do. -/
def poll (b : Bench) : Bench × List LogLine × Look :=
  if b.dropped then (b, [], .dropped) else b.pollWithin b.stepBound

/-- Looks until one gives no item, at most that many. -/
def drainWithin : Nat → Bench → Bench × List LogLine × List Look
  | 0, b => (b, [], [])
  | n + 1, b =>
    match b.poll with
    | (b, log, .item i) =>
      let (b, more, ls) := b.drainWithin n
      (b, log ++ more, .item i :: ls)
    | (b, log, l) => (b, log, [l])

/-- **All that the output has to give now**: each item needs a buffer or a write under way. -/
def drain (b : Bench) : Bench × List LogLine × List Look :=
  b.drainWithin (b.bufferQueue.items.length + 3)

/-- Sends a buffer, unless that channel has ended or the writer is gone. -/
def sendBuffer (b : Bench) (data : Bytes) : Option Bench :=
  (b.bufferQueue.offer data).map fun q => { b with bufferQueue := q }

/-- Sends a handle on a port of the bench. -/
def sendPort (b : Bench) (device : Nat) : Option Bench := do
  let p ← b.port? device
  let q ← b.portQueue.offer ⟨device, p.name⟩
  return { b with portQueue := q }

def endBuffers (b : Bench) : Bench := { b with bufferQueue := b.bufferQueue.endSending }

def endPorts (b : Bench) : Bench := { b with portQueue := b.portQueue.endSending }

/-- Sets the stop signal, if there is still someone to set it and someone to see it. -/
def signal (b : Bench) (value : Bool) : Option Bench :=
  if b.stop.sending && b.stop.watched && !b.isGone then
    some { b with stop := { b.stop with value := value } }
  else none

def dropSignal (b : Bench) : Bench := { b with stop := { b.stop with sending := false } }

/-- Gives up the output. A write under way goes on; one that has ended is forgotten. -/
def dropOutput (b : Bench) : Bench :=
  let flight := b.flight.filter fun f => f.result.isNone
  { b.dropReceivers with dropped := true, flight := flight }

def hold (b : Bench) (device : Nat) : Bench :=
  match b.port? device with
  | none => b
  | some p => b.setPort device { p with held := true }

/-- Releases a port and lets a write that waits for it run to its end. -/
def release (b : Bench) (device : Nat) : Bench :=
  match b.port? device with
  | none => b
  | some p =>
    let b := b.setPort device { p with held := false }
    match b.flight with
    | some ⟨h, buffer, none⟩ =>
      if h.device = device then
        let (r, b) := b.deliver device buffer
        { b with flight := if b.dropped then none else some ⟨h, buffer, some r⟩ }
      else b
    | _ => b

/-- Changes a setting of a port. -/
def adjust (b : Bench) (device : Nat) (f : FaultyPort → FaultyPort) : Bench :=
  match b.port? device with
  | none => b
  | some p => b.setPort device { p with device := f p.device }

/-- Whether a write that was started on a port is still under way. -/
def isBusy (b : Bench) (device : Nat) : Bool :=
  b.flight.any fun f => f.handle.device = device && f.result.isNone

/-- A write through the bench's own handle; none if it would have to wait. -/
def direct (b : Bench) (device : Nat) (data : Bytes) : Option (Except PortError Unit × Bench) :=
  if b.isBusy device || b.waits device data then none else some (b.deliver device data)

/-- The handles on a port: the bench's own, those queued, the writer's, and a write under way. -/
def holders (b : Bench) (device : Nat) : Nat :=
  let on (h : Handle) : Bool := h.device = device
  let current := if b.isGone then [] else b.writer.current.toList
  let flying := (b.flight.filter fun f => f.result.isNone).toList.map Flight.handle
  1 + b.portQueue.items.countP on + current.countP on + flying.countP on

end Bench

end SerialRelay

import SerialRelay.Pump.Basic

/-!
# Pump and writer together

A relay is a pump and a writer on one link. Each step is one move of the pump or one round of the
writer; which of them moves is left open. The ports that are opened and written to are a `Site`.

* `Relay.stepPump`, `Relay.stepWriter`: the two kinds of steps.
* `Relay.weight`: what a relay has still to do at most; each step makes it smaller.
* `Relay.run`: all steps, the writer first whenever it can move.
-/

namespace SerialRelay

/-- Where ports are opened and written to, over a state `W`. -/
structure Site (W : Type) where
  /-- Opens a port by its name, while the listed handles are alive. -/
  openPort : W → List Handle → String → Except PortError Handle
  write : W → Handle → Bytes → Except PortError Unit × W

structure Relay (W : Type) where
  pump : Pump
  link : Link
  writer : Writer := {}
  /-- The writer has been told to stop. -/
  stop : Bool := false
  world : W
  /-- The output so far. -/
  output : List Item := []
  pumpLog : List LogLine := []
  writerLog : List LogLine := []

namespace Relay

variable {W : Type}

/-- A relay before its first step. A handle that is there already is the first on the link. -/
def start (link : Link) (input : Bytes) (initial : Option Handle) (world : W) : Relay W :=
  { pump := Pump.ofInput input
    link := { link with ports := { items := initial.toList } }
    world := world }

variable (site : Site W) (cfg : InputSettings)

/-- The handles that are alive: those queued and the writer's. -/
def handles (r : Relay W) : List Handle := r.link.ports.items ++ r.writer.held

/-- **One move of the pump**, if it can move. -/
def stepPump (r : Relay W) : Option (Relay W) :=
  (r.pump.step cfg (site.openPort r.world r.handles) r.link).map fun m =>
    { r with pump := m.pump, link := m.link, pumpLog := r.pumpLog ++ m.log }

/-- The reaction of the writer to an event; at its end it leaves the link. -/
def react (r : Relay W) (e : Event) : Relay W :=
  let (w, log) := r.writer.react e
  let link := r.link.take e
  { r with
    writer := w
    link := if w.phase = .ended then link.dropReceivers else link
    writerLog := r.writerLog ++ log }

/-- **One round of the writer**, or the end of its write; none if it waits or has ended. -/
def stepWriter (r : Relay W) : Option (Relay W) :=
  match r.writer.phase with
  | .ended => none
  | .failed => some { r with writer := r.writer.finish, link := r.link.dropReceivers }
  | .writing h b =>
    let (result, world) := site.write r.world h b
    let (w, item, log) := r.writer.settle h b result
    some
      { r with
        writer := w
        world := world
        output := r.output ++ [item]
        writerLog := r.writerLog ++ log }
  | .selecting => (r.writer.select r.stop r.link.ports.poll r.link.buffers.poll).map r.react

/-- What a pump has still to do, counting two rounds of the writer for each line. -/
def pumpWeight (p : Pump) : Nat :=
  match p.phase with
  | .reading => 4 * p.input.length + 1
  | .opening _ => 4 * p.input.length + 3
  | .sending _ => 4 * p.input.length + 4
  | .finished => 0
  | .broken => 0

/-- What a writer has still to do apart from its sources. -/
def writerWeight (w : Writer) : Nat :=
  (if w.portsOpen then 1 else 0) +
    match w.phase with
    | .ended => 0
    | .failed => 1
    | .selecting => 2
    | .writing _ _ => 3

/-- **What a relay has still to do at most**. -/
def weight (r : Relay W) : Nat :=
  pumpWeight r.pump + 2 * r.link.buffers.items.length + r.link.ports.items.length
    + writerWeight r.writer

/-- A step of the writer if it can move, else of the pump. -/
def step (r : Relay W) : Option (Relay W) :=
  match r.stepWriter site with
  | some r => some r
  | none => r.stepPump site cfg

/-- Steps until there is none, at most that many. -/
def runWithin : Nat → Relay W → Relay W
  | 0, r => r
  | n + 1, r =>
    match r.step site cfg with
    | none => r
    | some r => runWithin n r

/-- **All steps of a relay**, the writer first whenever it can move. -/
def run (r : Relay W) : Relay W := r.runWithin site cfg r.weight

end Relay

end SerialRelay

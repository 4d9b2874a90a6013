import SerialRelay.Pump.Lines
import SerialRelay.Pump.Link

/-!
# The pump

The pump reads lines and feeds both sources of a writer. Payload goes into the buffer queue, and the
pump waits while that is full. A command opens a port and sends its handle; the writer takes handles
before buffers, so the pump first waits until the buffer queue is empty, and the new port applies
from that line on. The pump stops at the end of the input, at a line that is not UTF-8, or when the
writer has gone.

* `Pump.step`: one move, or none while the pump waits or after it has ended.
* `Pump.run`: moves until there is none.
-/

namespace SerialRelay

/-- What a pump has done. -/
structure PumpSummary where
  lines : Nat := 0
  buffers : Nat := 0
  portsOpened : Nat := 0
  rejected : Nat := 0
  deriving DecidableEq, Repr

inductive Pump.Phase where
  | reading
  /-- A port is to be opened once the buffer queue is empty. -/
  | opening (name : String)
  /-- A buffer is to be sent once the queue has room. -/
  | sending (buffer : Bytes)
  | finished
  /-- A line was not UTF-8. -/
  | broken
  deriving DecidableEq, Repr

structure Pump where
  /-- The lines still to be read. -/
  input : List Bytes
  phase : Pump.Phase := .reading
  summary : PumpSummary := {}
  deriving DecidableEq, Repr

namespace Pump

def ofInput (input : Bytes) : Pump := { input := splitLines input }

def isOver (p : Pump) : Bool := p.phase = .finished || p.phase = .broken

/-- The places in the buffer queue that a pump waits for: one for a buffer, all for a port, since
they are free when nothing is queued. -/
def wanted (p : Pump) (l : Link) : Nat :=
  match p.phase with
  | .opening _ => l.buffers.capacity.getD 0
  | .sending _ => 1
  | _ => 0

/-- A pump and its link after a move, and what was logged. -/
structure Move where
  pump : Pump
  link : Link
  log : List LogLine := []

def countBuffer (p : Pump) : Pump :=
  { p with summary := { p.summary with buffers := p.summary.buffers + 1 } }

def countOpened (p : Pump) : Pump :=
  { p with summary := { p.summary with portsOpened := p.summary.portsOpened + 1 } }

def countRejected (p : Pump) : Pump :=
  { p with summary := { p.summary with rejected := p.summary.rejected + 1 } }

/-- Takes a line off the input. -/
def nextLine (p : Pump) (rest : List Bytes) : Pump :=
  { p with input := rest, summary := { p.summary with lines := p.summary.lines + 1 } }

/-- The pump has no more to send. -/
def stop (p : Pump) (l : Link) (phase : Phase) (log : List LogLine) : Move :=
  ⟨{ p with phase := phase }, l.endSending, log⟩

/-- The log line of a pump whose writer has gone. -/
def writerGone : LogLine := ⟨.debug, "Writer stopped, ending input"⟩

/-- Takes up the request of a line. -/
def takeUp (p : Pump) (l : Link) : Request → Move
  | .openPort name => ⟨{ p with phase := .opening name }, l, []⟩
  | .payload bs => ⟨{ p with phase := .sending bs }, l, []⟩
  | .nothing => ⟨p, l, []⟩
  | .fault e =>
    ⟨p.countRejected, l,
      [⟨.warn, "Skipping line " ++ toString p.summary.lines ++ ": " ++ e.message⟩]⟩

/-- Sends the handle of a port that was opened, or notes that it could not be. -/
def publish (p : Pump) (l : Link) (name : String) : Except PortError Handle → Move
  | .ok h =>
    let p := { p with phase := .reading }.countOpened
    let opened : LogLine := ⟨.info, "Opened " ++ h.name⟩
    if l.ports.receiving then ⟨p, { l with ports := l.ports.push h }, [opened]⟩
    else p.stop l .finished [opened, writerGone]
  | .error e =>
    ⟨{ p with phase := .reading }.countRejected, l,
      [⟨.warn, "Could not open " ++ name ++ ": " ++ e.message⟩]⟩

/-- **One move of a pump**; none while it waits for the buffer queue, or after its end. -/
def step (cfg : InputSettings) (openPort : String → Except PortError Handle) (p : Pump) (l : Link) :
    Option Move :=
  match p.phase with
  | .finished => none
  | .broken => none
  | .reading =>
    match p.input with
    | [] => some (p.stop l .finished [])
    | raw :: rest =>
      match lineText? raw with
      | none => some (p.stop l .broken [])
      | some line => some ((p.nextLine rest).takeUp l (cfg.read line))
  | .opening name =>
    if l.buffers.receiving && !l.buffers.items.isEmpty then none
    else some (p.publish l name (openPort name))
  | .sending bs =>
    if !l.buffers.receiving then some (p.stop l .finished [writerGone])
    else if l.buffers.isFull then none
    else
      some ⟨{ p with phase := .reading }.countBuffer, { l with buffers := l.buffers.push bs }, []⟩

/-- Moves until there is none, at most that many. -/
def runWithin (cfg : InputSettings) (openPort : String → Except PortError Handle) :
    Nat → Pump → Link → Move
  | 0, p, l => ⟨p, l, []⟩
  | n + 1, p, l =>
    match p.step cfg openPort l with
    | none => ⟨p, l, []⟩
    | some m =>
      let last := runWithin cfg openPort n m.pump m.link
      { last with log := m.log ++ last.log }

/-- **Moves until the pump waits or has ended**: a line takes two moves at most, the end one. -/
def run (cfg : InputSettings) (openPort : String → Except PortError Handle) (p : Pump) (l : Link) :
    Move :=
  runWithin cfg openPort (2 * p.input.length + 2) p l

end Pump

end SerialRelay

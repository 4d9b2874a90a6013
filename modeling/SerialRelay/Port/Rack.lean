import SerialRelay.Port.Terminal
import SerialRelay.Text.Quoted

/-!
# A rack of open lines

Slots that hold lines on terminals, each with its own settings. A line is the port itself or a
handle that may be shared; a write through a handle is followed by a flush. Opening into a slot that
is used closes the old line after the new one has been opened.
-/

namespace SerialRelay

/-- An open line. -/
structure OpenLine where
  handle : Handle
  settings : LineSettings
  /-- A handle that may be shared, not the port itself. -/
  shared : Bool
  deriving DecidableEq, Repr

namespace OpenLine

/-- The description of an open line. -/
def describe (l : OpenLine) : String :=
  let name := Text.quoted l.handle.name
  if l.shared then "SharedPort \x7b name: " ++ name ++ ", holders: 1 \x7d"
  else "SyncSerialPort \x7b name: " ++ name ++ ", baud_rate: Ok(" ++ toString l.settings.baudRate
    ++ ") \x7d"

end OpenLine

structure Rack where
  /-- Where the terminals stand. -/
  files : Files
  terminals : Terminals
  slots : List (String × OpenLine) := []
  deriving DecidableEq, Repr

namespace Rack

def line? (r : Rack) (slot : String) : Option OpenLine := r.slots.lookup slot

/-- Closes the line of a slot. -/
def close (r : Rack) (slot : String) : Rack := { r with slots := r.slots.filter (·.1 != slot) }

/-- **Opens the terminal at a path into a slot**. -/
def openLine (r : Rack) (slot path : String) (settings : LineSettings) (shared : Bool) :
    Except PortError Rack :=
  (r.files.openTerminal (r.slots.map (·.2.handle)) path).map fun h =>
    let closed := r.close slot
    { closed with slots := (slot, ⟨h, settings, shared⟩) :: closed.slots }

/-- What a call on the terminal of an open line gives. -/
def on {α : Type} (r : Rack) (l : OpenLine) (call : Terminal → α × Terminal) :
    Option (α × Rack) :=
  (r.terminals.on l.handle call).map fun (a, ts) => (a, { r with terminals := ts })

/-- The complete write, with its flush through a handle. -/
def write (r : Rack) (l : OpenLine) (data : Bytes) : Option (Except PortError Unit × Rack) :=
  let patience := Terminal.patience l.settings.timeout
  r.on l fun t =>
    if l.shared then patience.send t data
    else
      match patience.write t data with
      | (.done, t) => (.ok (), t)
      | (.failed e, t) => (.error e, t)
      | (.brokeDown, t) => (.error .taskLost, t)

/-- One offer to the terminal of an open line. -/
def offer (r : Rack) (l : OpenLine) (data : Bytes) : Option (Answer × Rack) :=
  r.on l fun t => t.offer l.settings.timeout data

end Rack

end SerialRelay

import SerialRelay.Files
import SerialRelay.Port.Device
import SerialRelay.Port.Settings
import SerialRelay.Relay

/-!
# Terminals

The terminals of a machine. One takes all that it is offered, or it is stalled and every offer times
out, also one of nothing. A terminal stands among the files and is opened by a path that leads to
it. One that is open cannot be opened again, by whatever path.

* `Terminals.place`: terminals put among the files.
* `Files.openTerminal`: a handle on a terminal.
* `Terminals.site`: terminals as the ports of a relay.
-/

namespace SerialRelay

structure Terminal where
  /-- The path at which it stands. -/
  name : String
  /-- It takes nothing. -/
  stalled : Bool := false
  received : Bytes := []
  deriving DecidableEq, Repr

namespace Terminal

/-- A terminal after it has taken some octets. -/
def receive (t : Terminal) (data : Bytes) : Terminal := { t with received := t.received ++ data }

/-- **One offer** on a line with that timeout. -/
def offer (timeout : Duration) (t : Terminal) (data : Bytes) : Answer × Terminal :=
  if t.stalled then (.failed (.timeout timeout), t) else (.took data.length, t.receive data)

/-- What a terminal has taken needs no flush. -/
def flush (t : Terminal) : Outcome × Terminal := (.done, t)

def device (timeout : Duration) : Device Terminal := ⟨offer timeout, flush⟩

/-- A terminal never interrupts. -/
def patience (timeout : Duration) : (device timeout).Patience where
  bound _ := 0
  took _ := Nat.le_refl _
  interrupted {s t data e} h hi := by
    simp only [device, offer] at h
    split at h
    · simp only [Prod.mk.injEq, Answer.failed.injEq] at h
      simp [← h.1, PortError.isInterrupted] at hi
    · simp at h

end Terminal

/-- The terminals of a machine; a handle refers to one by its number in the list. -/
abbrev Terminals := List Terminal

/-- **Opens the terminal at a path** while the listed handles are alive; one that is open is not
found. -/
def Files.openTerminal (fs : Files) (alive : List Handle) (path : String) :
    Except PortError Handle :=
  match fs.find? path with
  | some (.terminal i) =>
    if alive.any (·.device == i) then .error (.notFound path) else .ok ⟨i, path⟩
  | _ => .error (.serial "Not a terminal")

namespace Terminals

/-- **Terminals among the files**, each at the path that is its name. -/
def place (ts : Terminals) (fs : Files) : Option Files :=
  ts.zipIdx.foldlM (fun fs t => fs.add t.1.name (.terminal t.2)) fs

/-- What a call on the terminal behind a handle gives; without one there is nothing open. -/
def on {α : Type} (ts : Terminals) (h : Handle) (call : Terminal → α × Terminal) :
    Option (α × Terminals) :=
  (ts[h.device]?).map fun t =>
    let (a, t) := call t
    (a, ts.set h.device t)

/-- A delivery to the terminal behind a handle. -/
def write (timeout : Duration) (ts : Terminals) (h : Handle) (data : Bytes) :
    Except PortError Unit × Terminals :=
  (ts.on h fun t => (Terminal.patience timeout).send t data).getD (.error .notOpen, ts)

/-- **Terminals as the ports of a relay**: names may be aliases of paths, and all lines have one
timeout. -/
def site (fs : Files) (timeout : Duration) (resolve : String → String) : Site Terminals where
  openPort _ alive name := fs.openTerminal alive (resolve name)
  write ts h data := ts.write timeout h data

end Terminals

end SerialRelay

import SerialRelay.Port.Simulated
import SerialRelay.Relay

/-!
# A book of ports

Ports known by name: simulated ones that open at once, and names that fail to open. A name is looked
up among the aliases first, once.
-/

namespace SerialRelay

/-- What stands behind a name. -/
inductive Fixture where
  | port (p : FaultyPort)
  | fault (e : PortError)
  deriving DecidableEq, Repr

structure PortBook where
  entries : List (String × Fixture)
  aliases : List (String × String) := []
  deriving DecidableEq, Repr

/-- A name behind its alias, if it has one. -/
def resolveAlias (aliases : List (String × String)) (name : String) : String :=
  (aliases.lookup name).getD name

namespace PortBook

/-- **Opens a port by name**: its handle, the fault of its entry, or that there is none. -/
def openPort (b : PortBook) (name : String) : Except PortError Handle :=
  let resolved := resolveAlias b.aliases name
  match b.entries.findIdx? (·.1 == resolved), b.entries.lookup resolved with
  | some i, some (.port _) => .ok ⟨i, resolved⟩
  | _, some (.fault e) => .error e
  | _, _ => .error (.notFound resolved)

/-- A delivery to the port behind a handle. -/
def write (b : PortBook) (h : Handle) (data : Bytes) : Except PortError Unit × PortBook :=
  match b.entries[h.device]? with
  | some (name, .port p) =>
    let (result, p) := p.send data
    (result, { b with entries := b.entries.set h.device (name, .port p) })
  | _ => (.error .notOpen, b)

/-- Opening depends on the name alone. -/
def site : Site PortBook := ⟨fun b _ name => b.openPort name, write⟩

end PortBook

/-- **A session**: a pump and a writer on a book of ports, with a port opened first if one is
named. The link outlives the pump, so handles may still come after it. -/
def PortBook.session (b : PortBook) (cfg : InputSettings) (capacity : Nat) (input : Bytes)
    (initial : Option Handle) : Relay PortBook :=
  let link := { Link.withCapacity capacity with portsKept := true }
  (Relay.start link input initial b).run site cfg

end SerialRelay

import SerialRelay.Json

/-!
# Listings

The serial ports of a machine, for readers and for machines.
-/

namespace SerialRelay

/-- A port of the machine's own hardware. -/
structure Listed where
  name : String
  kind : String
  deriving DecidableEq, Repr

namespace Listed

def toJson (p : Listed) : Json := .object [("name", .string p.name), ("kind", .string p.kind)]

def line (p : Listed) : String := p.name ++ "\t" ++ p.kind ++ "\n"

/-- **What a listing shows**. -/
def listing (ports : List Listed) (json : Bool) : String :=
  if json then (Json.array (ports.map toJson)).pretty ++ "\n"
  else if ports.isEmpty then "No serial ports found.\n"
  else String.join (ports.map line)

end Listed

end SerialRelay

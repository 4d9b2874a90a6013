import SerialRelay.Json
import SerialRelay.Port.Settings

/-!
# Line settings from JSON

Settings are an object with all six values, or an array of them in their order; unknown members of
the object are passed over. A choice is its name, or an object whose one member is the name with a
null. A span of time is an object with exactly its seconds and nanoseconds, or an array of the two;
full seconds of nanoseconds are carried over.
-/

namespace SerialRelay

/-- The values of a structure by their names, which are listed in the order of an array. -/
def Json.fields? (names : List String) : Json → Option (String → Option Json)
  | .object ms => some fun name => ms.lookup name
  | .array items =>
    if items.length = names.length then some fun name => (names.zip items).lookup name else none
  | _ => none

/-- Whether an object has no members beyond those. -/
def Json.hasOnly (names : List String) : Json → Bool
  | .object ms => ms.all (names.contains ·.1)
  | _ => true

/-- A natural number below a bound. -/
def Json.natural? (bound : Nat) : Json → Option Nat
  | .int (.ofNat n) => if n < bound then some n else none
  | _ => none

/-- A choice by its name. -/
def Json.choice? {α : Type} [Named α] : Json → Option α
  | .string s => Named.ofName? s
  | .object [(s, .null)] => Named.ofName? s
  | _ => none

namespace Duration

def names : List String := ["secs", "nanos"]

/-- A span of time whose full seconds are below the bound of 64 bits. -/
def ofJson? (v : Json) : Option Duration := do
  let field ← if v.hasOnly names then v.fields? names else none
  let secs ← (field "secs").bind (Json.natural? UInt64.size)
  let nanos ← (field "nanos").bind (Json.natural? UInt32.size)
  let d := ofParts secs nanos
  if d.secs < UInt64.size then some d else none

end Duration

namespace LineSettings

/-- The names of the values, in order. -/
def names : List String :=
  ["baud_rate", "data_bits", "flow_control", "parity", "stop_bits", "timeout"]

/-- **The line settings of a JSON value**. -/
def ofJson? (v : Json) : Option LineSettings := do
  let field ← v.fields? names
  return {
    baudRate := ← (field "baud_rate").bind (Json.natural? UInt32.size)
    dataBits := ← (field "data_bits").bind Json.choice?
    flowControl := ← (field "flow_control").bind Json.choice?
    parity := ← (field "parity").bind Json.choice?
    stopBits := ← (field "stop_bits").bind Json.choice?
    timeout := ← (field "timeout").bind Duration.ofJson? }

end LineSettings

end SerialRelay

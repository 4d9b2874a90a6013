import SerialRelay.Config.Schema
import SerialRelay.Toml.Value

/-!
# Configurations from TOML

A section is a table, or an array of its values in their order; what is missing has its default and
unknown keys are passed over. A choice is its name, or a table whose one key is the name and whose
value is empty.
-/

namespace SerialRelay

open Toml (Value Entries)

/-- The key under which a date stands when it is taken for a table. -/
def dateKey : String := "$__toml_private_datetime"

/-- The values of a section by their names, which are listed in the order of an array. -/
def sectionValues? (names : List String) : Value → Option (String → Option Value)
  | .table _ es => some fun name => es.lookup name
  | .array items => some fun name => (names.zip items).lookup name
  | .tables items => some fun name => (names.zip (items.map (.table .header))).lookup name
  | .datetime _ => some fun _ => none
  | _ => none

/-- A value that must be read if it is there. -/
def orDefault {α : Type} (read : Value → Option α) (default : α) : Option Value → Option α
  | none => some default
  | some v => read v

def stringOf? : Value → Option String
  | .string s => some s
  | _ => none

/-- An integer that is not negative and below a bound. -/
def naturalOf? (bound : Nat) : Value → Option Nat
  | .integer (.ofNat n) => if n < bound then some n else none
  | _ => none

def isEmptyValue : Value → Bool
  | .table _ [] => true
  | .array [] => true
  | .tables [] => true
  | _ => false

/-- A choice by its name. -/
def choiceOf? {α : Type} [Named α] : Value → Option α
  | .string s => Named.ofName? s
  | .table _ [(k, v)] => if isEmptyValue v then Named.ofName? k else none
  | _ => none

/-- An entry whose value is a string. -/
def aliasOf? (e : String × Value) : Option (String × String) := (stringOf? e.2).map (e.1, ·)

def aliasesOf? : Value → Option Aliases
  | .table _ es => (es.mapM aliasOf?).map Aliases.ofList
  | .datetime t => some (Aliases.ofList [(dateKey, t)])
  | _ => none

namespace SerialConfig

/-- The names of the values, in order. -/
def names : List String :=
  ["port", "baud", "timeout_ms", "data_bits", "parity", "stop_bits", "flow_control", "port_aliases"]

def ofToml? (v : Value) : Option SerialConfig := do
  let value ← sectionValues? names v
  return {
    port := ← orDefault (fun v => (stringOf? v).map some) none (value "port")
    baud := ← orDefault (fun v => (naturalOf? UInt32.size v).map UInt32.ofNat) 115200 (value "baud")
    timeoutMs :=
      ← orDefault (fun v => (naturalOf? UInt64.size v).map UInt64.ofNat) 1000 (value "timeout_ms")
    dataBits := ← orDefault choiceOf? .eight (value "data_bits")
    parity := ← orDefault choiceOf? .none (value "parity")
    stopBits := ← orDefault choiceOf? .one (value "stop_bits")
    flowControl := ← orDefault choiceOf? .none (value "flow_control")
    aliases := ← orDefault aliasesOf? {} (value "port_aliases") }

end SerialConfig

namespace InputConfig

def names : List String := ["format", "terminator"]

def ofToml? (v : Value) : Option InputConfig := do
  let value ← sectionValues? names v
  return {
    format := ← orDefault choiceOf? .text (value "format")
    terminator := ← orDefault stringOf? "\\n" (value "terminator") }

end InputConfig

namespace LoggingConfig

def names : List String := ["level", "format"]

def ofToml? (v : Value) : Option LoggingConfig := do
  let value ← sectionValues? names v
  return {
    level := ← orDefault stringOf? "info" (value "level")
    format := ← orDefault choiceOf? .compact (value "format") }

end LoggingConfig

/-- **The configuration of a document's table**. -/
def Config.ofToml? (es : Entries) : Option Config := do
  return {
    serial := ← orDefault SerialConfig.ofToml? {} (es.lookup "serial")
    input := ← orDefault InputConfig.ofToml? {} (es.lookup "input")
    logging := ← orDefault LoggingConfig.ofToml? {} (es.lookup "logging") }

end SerialRelay

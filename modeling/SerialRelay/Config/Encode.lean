import SerialRelay.Config.Schema
import SerialRelay.Toml.Printer
import SerialRelay.Toml.Value

/-!
# Configurations as documents

All values are written, section by section; a port that is not set is left out. A timeout beyond the
integers of a document cannot be written.
-/

namespace SerialRelay

namespace Toml

/-- A line that gives a key its value. -/
def pairLine (name value : List Char) : List Char := name ++ " = ".toList ++ value ++ ['\n']

def stringLine (name value : String) : List Char := pairLine (key name) (quote value)

def numberLine (name : String) (value : Nat) : List Char :=
  pairLine (key name) (toString value).toList

def choiceLine {α : Type} [Named α] (name : String) (value : α) : List Char :=
  stringLine name (Named.name value)

end Toml

open Toml

def SerialConfig.lines (c : SerialConfig) : List Char :=
  (c.port.elim [] (stringLine "port"))
    ++ numberLine "baud" c.baud.toNat
    ++ numberLine "timeout_ms" c.timeoutMs.toNat
    ++ choiceLine "data_bits" c.dataBits
    ++ choiceLine "parity" c.parity
    ++ choiceLine "stop_bits" c.stopBits
    ++ choiceLine "flow_control" c.flowControl

def Aliases.lines (a : Aliases) : List Char := a.entries.flatMap fun e => stringLine e.1 e.2

def InputConfig.lines (c : InputConfig) : List Char :=
  choiceLine "format" c.format ++ stringLine "terminator" c.terminator

def LoggingConfig.lines (c : LoggingConfig) : List Char :=
  stringLine "level" c.level ++ choiceLine "format" c.format

namespace Config

/-- The document of a configuration. -/
def document (c : Config) : String :=
  String.ofList
    ("[serial]\n".toList ++ c.serial.lines
      ++ "\n[serial.port_aliases]\n".toList ++ c.serial.aliases.lines
      ++ "\n[input]\n".toList ++ c.input.lines
      ++ "\n[logging]\n".toList ++ c.logging.lines)

/-- **The document of a configuration**, if its timeout is an integer of documents. -/
def toToml? (c : Config) : Option String :=
  if c.serial.timeoutMs.toNat ≤ maxInteger then some c.document else none

end Config

end SerialRelay

import SerialRelay.Payload.Line
import SerialRelay.Port.Aliases
import SerialRelay.Port.Settings

/-!
# The configuration

Three sections: the serial port, the input lines, the log. Every value has a default.
-/

namespace SerialRelay

/-- The layout of log lines. -/
inductive LogFormat where
  | json
  | pretty
  | compact
  deriving DecidableEq, Repr

instance : Named InputFormat where
  all := [.text, .hex]
  name
    | .text => "text"
    | .hex => "hex"

instance : Named LogFormat where
  all := [.json, .pretty, .compact]
  name
    | .json => "json"
    | .pretty => "pretty"
    | .compact => "compact"

/-- A text with its ASCII capitals made small. -/
def lowercase (s : String) : String := String.ofList (s.toList.map Char.toLower)

/-- **A log format by its name** in any ASCII case, or what is wrong with the name. -/
def LogFormat.ofText (s : String) : Except String LogFormat :=
  match Named.ofName? (lowercase s) with
  | some f => .ok f
  | none => .error ("unknown log format '" ++ lowercase s ++ "'")

structure SerialConfig where
  /-- The port to open, or an alias of it. -/
  port : Option String := none
  baud : UInt32 := 115200
  timeoutMs : UInt64 := 1000
  dataBits : DataBits := .eight
  parity : Parity := .none
  stopBits : StopBits := .one
  flowControl : FlowControl := .none
  aliases : Aliases := {}
  deriving DecidableEq, Repr

structure InputConfig where
  format : InputFormat := .text
  /-- Appended to text lines, with escapes. -/
  terminator : String := "\\n"
  deriving DecidableEq, Repr

structure LoggingConfig where
  level : String := "info"
  format : LogFormat := .compact
  deriving DecidableEq, Repr

structure Config where
  serial : SerialConfig := {}
  input : InputConfig := {}
  logging : LoggingConfig := {}
  deriving DecidableEq, Repr

/-- What the serial port is opened with. -/
def SerialConfig.lineSettings (c : SerialConfig) : LineSettings :=
  { baudRate := c.baud.toNat
    dataBits := c.dataBits
    flowControl := c.flowControl
    parity := c.parity
    stopBits := c.stopBits
    timeout := .ofMillis c.timeoutMs.toNat }

end SerialRelay

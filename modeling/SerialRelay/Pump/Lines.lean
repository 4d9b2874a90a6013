import SerialRelay.Payload.Line

/-!
# Input lines

The input is cut at newlines; a last line without one counts, an empty rest does not. A line is
either a command that opens a port or payload.

* `splitLines`: the lines of an input.
* `InputSettings.read`: what one line asks for.
-/

namespace SerialRelay

/-- **The lines of an input**, without their newlines. -/
def splitLines : Bytes → List Bytes
  | [] => []
  | b :: bs =>
    if b = 10 then [] :: splitLines bs
    else
      match splitLines bs with
      | [] => [[b]]
      | l :: ls => (b :: l) :: ls

/-- The text of a line: UTF-8, without the carriage returns at its end. -/
def lineText? (raw : Bytes) : Option String :=
  (Text.ofUtf8? raw).map fun s => String.ofList (Text.trimEnd (· == '\r') s.toList)

/-- How input lines are read. -/
structure InputSettings where
  format : InputFormat := .text
  /-- Appended to text lines. -/
  terminator : Bytes := [10]
  /-- Lines may be commands. -/
  commands : Bool := true
  deriving DecidableEq, Repr

/-- What a line asks for. -/
inductive Request where
  | openPort (name : String)
  | payload (bytes : Bytes)
  | nothing
  | fault (e : PayloadError)
  deriving DecidableEq, Repr

/-- What a command line starts with. -/
def portCommand : List Char := ":port ".toList

/-- The port that a command line names: what follows the command, without blanks around it. -/
def commandName? (line : String) : Option String :=
  if portCommand.isPrefixOf line.toList then
    some (Text.trim (String.ofList (line.toList.drop portCommand.length)))
  else none

/-- The request of a payload line. -/
def InputSettings.readPayload (cfg : InputSettings) (line : String) : Request :=
  match cfg.format.decode cfg.terminator line with
  | .error e => .fault e
  | .ok none => .nothing
  | .ok (some bs) => .payload bs

/-- **The request of a line**. -/
def InputSettings.read (cfg : InputSettings) (line : String) : Request :=
  match (if cfg.commands then commandName? line else none) with
  | some name => .openPort name
  | none => cfg.readPayload line

end SerialRelay

import SerialRelay.Config.Validate
import SerialRelay.Text.Decimal
import SerialRelay.Text.Utf8

/-!
# Environment overrides

Seven variables override values of a configuration. A variable that is not UTF-8 counts as unset.
The first one that cannot be read decides the error.

* `Environment.override`: a value, or that of its variable.
* `Environment.apply`: a configuration with all overrides.
-/

namespace SerialRelay

structure Environment where
  vars : List (String × Bytes) := []
  deriving DecidableEq, Repr

namespace Environment

/-- The value of a variable that is set to text. -/
def get? (env : Environment) (name : String) : Option String :=
  (env.vars.lookup name).bind Text.ofUtf8?

/-- The variable that overrides a value. -/
def variableName (key : String) : String := "SERIAL_WRITER_" ++ key

/-- **A value, or that of its variable** if this is set. -/
def override {α : Type} (env : Environment) (key : String) (read : String → Except String α)
    (old : α) : Except ConfigError α :=
  match env.get? (variableName key) with
  | none => .ok old
  | some s =>
    match read s with
    | .ok v => .ok v
    | .error why => .error (.environment (variableName key) why)

def readBaud (s : String) : Except String UInt32 :=
  match Text.naturalBelow? UInt32.size s with
  | some n => .ok (UInt32.ofNat n)
  | none => .error "Invalid baud rate"

def readTimeout (s : String) : Except String UInt64 :=
  match Text.naturalBelow? UInt64.size s with
  | some n => .ok (UInt64.ofNat n)
  | none => .error "Invalid timeout"

def readFormat (s : String) : Except String InputFormat :=
  match Named.ofName? (lowercase s) with
  | some f => .ok f
  | none => .error "Expected 'text' or 'hex'"

/-- **A configuration with all overrides**, in this order. -/
def apply (env : Environment) (c : Config) : Except ConfigError Config := do
  let port ← env.override "SERIAL_PORT" (fun s => .ok (some s)) c.serial.port
  let baud ← env.override "SERIAL_BAUD" readBaud c.serial.baud
  let timeoutMs ← env.override "SERIAL_TIMEOUT_MS" readTimeout c.serial.timeoutMs
  let format ← env.override "INPUT_FORMAT" readFormat c.input.format
  let terminator ← env.override "INPUT_TERMINATOR" .ok c.input.terminator
  let level ← env.override "LOGGING_LEVEL" .ok c.logging.level
  let logFormat ← env.override "LOGGING_FORMAT" LogFormat.ofText c.logging.format
  return {
    serial := { c.serial with port := port, baud := baud, timeoutMs := timeoutMs }
    input := { format := format, terminator := terminator }
    logging := { level := level, format := logFormat } }

end Environment

end SerialRelay

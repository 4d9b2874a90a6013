import SerialRelay.Config.Error
import SerialRelay.Config.Schema

/-!
# Usable configurations

Values that can be read but not used. The first of them, in a fixed order, is reported.
-/

namespace SerialRelay.Config

/-- **The first value that cannot be used**, or nothing to report. -/
def validate (c : Config) : Except ConfigError Unit :=
  if c.serial.baud = 0 then .error (.invalid "serial.baud" "must be greater than zero")
  else if c.serial.timeoutMs = 0 then
    .error (.invalid "serial.timeout_ms" "must be greater than zero")
  else if c.serial.port.any Text.isAllBlank then
    .error (.invalid "serial.port" "must not be empty")
  else
    match Terminator.decode c.input.terminator with
    | .error e => .error (.invalid "input.terminator" e.message)
    | .ok _ => .ok ()

end SerialRelay.Config

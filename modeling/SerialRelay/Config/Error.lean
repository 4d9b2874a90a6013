import SerialRelay.Port.Error

/-!
# Faults of a configuration
-/

namespace SerialRelay

/-- What was being done with a configuration file. -/
inductive FileAction where
  | read
  | create
  | write
  deriving DecidableEq, Repr

def FileAction.name : FileAction → String
  | read => "read"
  | create => "create"
  | write => "write"

/-- Why there is no usable configuration, or why one could not be saved. -/
inductive ConfigError where
  | notFound (path : String)
  | io (action : FileAction) (path : String) (source : IoError)
  | unreadable
  | unwritable
  /-- A value that can be read but not used. -/
  | invalid (key message : String)
  | environment (var message : String)
  deriving DecidableEq, Repr

namespace ConfigError

def message : ConfigError → String
  | notFound path => "Configuration file not found: " ++ path
  | io action path e =>
    "Cannot " ++ action.name ++ " configuration file '" ++ path ++ "': " ++ e.message
  | unreadable => "Invalid TOML in configuration"
  | unwritable => "Cannot encode configuration as TOML"
  | invalid key message => "Invalid configuration value for '" ++ key ++ "': " ++ message
  | environment var message => "Environment variable " ++ var ++ " is invalid: " ++ message

/-- The texts of the faults below this one. -/
def causes : ConfigError → List String
  | io _ _ e => [e.message]
  | _ => []

end ConfigError

end SerialRelay

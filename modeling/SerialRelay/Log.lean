/-!
# Log lines

What a running writer or pump reports about itself.
-/

namespace SerialRelay

inductive Level where
  | info
  | debug
  | warn
  deriving DecidableEq, Repr

def Level.name : Level → String
  | info => "INFO"
  | debug => "DEBUG"
  | warn => "WARN"

/-- Whether lines of a level are shown under a filter. A filter that is no level counts as info. -/
def Level.isShown (filter : String) : Level → Bool
  | warn => !(["off", "error"].contains filter)
  | info => !(["off", "error", "warn"].contains filter)
  | debug => ["debug", "trace"].contains filter

structure LogLine where
  level : Level
  message : String
  deriving DecidableEq, Repr

/-- A log line as it is printed: the level, a space, the message. -/
def LogLine.text (l : LogLine) : String := l.level.name ++ " " ++ l.message

end SerialRelay

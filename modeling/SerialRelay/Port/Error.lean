import SerialRelay.Duration

/-!
# Faults of a port

What the operating system reports, what a port makes of it, and the fault that ends a writer's
output. Each has a text and a list of causes below it.
-/

namespace SerialRelay

/-- The kind of an input or output fault. -/
inductive IoKind where
  | notFound
  | permissionDenied
  | connectionReset
  | brokenPipe
  | alreadyExists
  | wouldBlock
  | invalidInput
  | invalidData
  | timedOut
  | writeZero
  | interrupted
  | unsupported
  | unexpectedEof
  | outOfMemory
  | other
  deriving DecidableEq, Repr

/-- The text of a fault that has none of its own. -/
def IoKind.description : IoKind → String
  | notFound => "entity not found"
  | permissionDenied => "permission denied"
  | connectionReset => "connection reset"
  | brokenPipe => "broken pipe"
  | alreadyExists => "entity already exists"
  | wouldBlock => "operation would block"
  | invalidInput => "invalid input parameter"
  | invalidData => "invalid data"
  | timedOut => "timed out"
  | writeZero => "write zero"
  | interrupted => "operation interrupted"
  | unsupported => "unsupported"
  | unexpectedEof => "unexpected end of file"
  | outOfMemory => "out of memory"
  | other => "other error"

/-- What is known about an input or output fault beyond its kind. -/
inductive IoDetail where
  | plain
  | text (s : String)
  /-- The task that ran the write broke down; nothing is said about how. -/
  | taskLost
  deriving DecidableEq, Repr

structure IoError where
  kind : IoKind
  detail : IoDetail := .plain
  deriving DecidableEq, Repr

def IoError.message (e : IoError) : String :=
  match e.detail with
  | .plain => e.kind.description
  | .text s => s
  | .taskLost => ""

/-- Why a port operation failed. -/
inductive PortError where
  | notFound (name : String)
  | io (e : IoError)
  | config (reason : String)
  | timeout (after : Duration)
  | notOpen
  /-- The device took nothing while octets were pending. -/
  | writeZero (remaining : Nat)
  | serial (description : String)
  deriving DecidableEq, Repr

namespace PortError

/-- A write whose task broke down. -/
def taskLost : PortError := .io ⟨.other, .taskLost⟩

def isInterrupted : PortError → Bool
  | io e => e.kind = .interrupted
  | _ => false

def isUnsupported : PortError → Bool
  | io e => e.kind = .unsupported
  | _ => false

/-- Whether the fault says something beyond its kind. -/
def isTold : PortError → Bool
  | io e => e.detail ≠ .taskLost
  | _ => true

def message : PortError → String
  | notFound name => "Serial port not found: " ++ name
  | io ⟨_, .taskLost⟩ => "I/O error:"
  | io e => "I/O error: " ++ e.message
  | config reason => "Configuration error: " ++ reason
  | timeout d => "Operation timed out after " ++ d.text
  | notOpen => "Port is not open"
  | writeZero n => "Port accepted no data with " ++ toString n ++ " byte(s) still pending"
  | serial s => "Serial port error: " ++ s

/-- The texts of the faults below this one. -/
def causes : PortError → List String
  | io e => [e.message]
  | serial s => [s]
  | _ => []

end PortError

/-- A buffer that could not be written in full to the port of that name. -/
structure WriteFailure where
  port : String
  source : PortError
  deriving DecidableEq, Repr

namespace WriteFailure

def message (e : WriteFailure) : String :=
  "Write to " ++ e.port ++ " failed: " ++ e.source.message

def causes (e : WriteFailure) : List String := e.source.message :: e.source.causes

end WriteFailure

end SerialRelay

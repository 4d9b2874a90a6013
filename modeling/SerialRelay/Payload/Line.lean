import SerialRelay.Payload.Hex
import SerialRelay.Payload.Terminator

/-!
# Lines as payload

A text line is sent as its UTF-8 octets and the terminator, a hex line as the octets it spells. A
line without payload gives none.
-/

namespace SerialRelay

/-- How a line stands for octets. -/
inductive InputFormat where
  | text
  | hex
  deriving DecidableEq, Repr

/-- **The payload of a line**: none for an empty text line or a hex line that spells no octet. -/
def InputFormat.decode (format : InputFormat) (terminator : Bytes) (line : String) :
    Except PayloadError (Option Bytes) :=
  match format with
  | .text => .ok (if line.isEmpty then none else some (Text.utf8 line ++ terminator))
  | .hex => (Hex.decode line).map fun bs => if bs.isEmpty then none else some bs

end SerialRelay

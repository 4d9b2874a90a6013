import SerialRelay.Payload.Error
import SerialRelay.Text.Utf8

/-!
# Terminators

What is appended to a text line, written with escapes for newline, carriage return, tab, NUL and the
backslash. A backslash at the very end stands for itself.
-/

namespace SerialRelay.Terminator

/-- The octet that an escape letter stands for. -/
def escaped? : Char → Option UInt8
  | 'n' => some 10
  | 'r' => some 13
  | 't' => some 9
  | '0' => some 0
  | '\\' => some 92
  | _ => none

/-- The octets of a terminator read from the left. -/
def decodeChars : List Char → Except PayloadError Bytes
  | [] => .ok []
  | ['\\'] => .ok [92]
  | '\\' :: e :: rest =>
    match escaped? e with
    | none => .error (.unknownEscape e)
    | some b => (decodeChars rest).map (b :: ·)
  | c :: rest => (decodeChars rest).map (String.utf8EncodeChar c ++ ·)

/-- **The octets of a configured terminator**. -/
def decode (raw : String) : Except PayloadError Bytes := decodeChars raw.toList

end SerialRelay.Terminator

/-!
# Faults in a line or a terminator

Why a line carries no readable payload, or a terminator cannot be resolved.
-/

namespace SerialRelay

/-- A fault in text that stands for octets. -/
inductive PayloadError where
  /-- A character that is no hex digit; columns count characters from one. -/
  | invalidHexDigit (ch : Char) (column : Nat)
  /-- A run of hex digits that does not pair up, as it was written. -/
  | oddLength (token : String)
  /-- A backslash before a character that has no escape. -/
  | unknownEscape (ch : Char)
  deriving DecidableEq, Repr

namespace PayloadError

def message : PayloadError → String
  | invalidHexDigit ch column =>
    "Invalid hex digit '" ++ ch.toString ++ "' at column " ++ toString column
  | oddLength token => "Odd number of hex digits in '" ++ token ++ "'"
  | unknownEscape ch => "Unknown escape sequence '\\" ++ ch.toString ++ "'"

end PayloadError

end SerialRelay

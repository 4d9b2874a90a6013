/-!
# Bytes

A buffer is a list of octets. `Bytes.hex` writes one in lower-case hex, and `Bytes.ofHex?` reads
that form back.
-/

namespace SerialRelay

/-- An octet string. -/
abbrev Bytes := List UInt8

/-- The value of an ASCII hex digit of either case. -/
def hexValue? (c : Char) : Option Nat :=
  if '0' ≤ c ∧ c ≤ '9' then some (c.toNat - 48)
  else if 'a' ≤ c ∧ c ≤ 'f' then some (c.toNat - 87)
  else if 'A' ≤ c ∧ c ≤ 'F' then some (c.toNat - 55)
  else none

namespace Bytes

/-- The two lower-case hex digits of an octet. -/
def hexPair (b : UInt8) : List Char :=
  [Nat.digitChar (b.toNat / 16), Nat.digitChar (b.toNat % 16)]

/-- **An octet string in hex**, two lower-case digits for each octet. -/
def hex (bs : Bytes) : String := String.ofList (bs.flatMap hexPair)

/-- The octets of digit values taken two by two; none if one is left over. -/
def ofNibbles? : List Nat → Option Bytes
  | [] => some []
  | [_] => none
  | hi :: lo :: rest => (ofNibbles? rest).map (UInt8.ofNat (16 * hi + lo) :: ·)

/-- Reads an octet string written in hex without separators. -/
def ofHex? (s : String) : Option Bytes :=
  (s.toList.mapM hexValue?).bind ofNibbles?

end Bytes

end SerialRelay

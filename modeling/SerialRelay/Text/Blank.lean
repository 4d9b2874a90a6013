/-!
# Blank characters

The characters with the Unicode property White_Space, and the trimming of blanks at both ends.
-/

namespace SerialRelay.Text

/-- The ranges of the Unicode property White_Space. -/
def blankRanges : List (Nat × Nat) :=
  [(0x9, 0xd), (0x20, 0x20), (0x85, 0x85), (0xa0, 0xa0), (0x1680, 0x1680), (0x2000, 0x200a),
    (0x2028, 0x2029), (0x202f, 0x202f), (0x205f, 0x205f), (0x3000, 0x3000)]

/-- Whether a character has the Unicode property White_Space. -/
def isBlank (c : Char) : Bool :=
  blankRanges.any fun r => r.1 ≤ c.toNat && c.toNat ≤ r.2

/-- Drops from the end the characters that pass a test. -/
def trimEnd (p : Char → Bool) (cs : List Char) : List Char := (cs.reverse.dropWhile p).reverse

/-- Drops the blanks at both ends. -/
def trim (s : String) : String := String.ofList (trimEnd isBlank (s.toList.dropWhile isBlank))

/-- Whether a text holds blanks only. -/
def isAllBlank (s : String) : Bool := s.toList.all isBlank

end SerialRelay.Text

/-!
# Decimal numbers

Numbers as they are typed into a variable or behind an option: ASCII digits, with a sign in front if
there is one. No blanks, no separators.
-/

namespace SerialRelay.Text

/-- The number of ASCII digits; there is at least one. -/
def digits? (cs : List Char) : Option Nat :=
  if !cs.isEmpty && cs.all Char.isDigit then
    some (cs.foldl (fun n c => 10 * n + (c.toNat - 48)) 0)
  else none

/-- **A natural number**, behind a plus sign if there is one. -/
def natural? (s : String) : Option Nat :=
  match s.toList with
  | '+' :: cs => digits? cs
  | cs => digits? cs

/-- **An integer**, behind a sign if there is one. -/
def integer? (s : String) : Option Int :=
  match s.toList with
  | '+' :: cs => (digits? cs).map Int.ofNat
  | '-' :: cs => (digits? cs).map fun n => -Int.ofNat n
  | cs => (digits? cs).map Int.ofNat

/-- A natural number below a bound. -/
def naturalBelow? (bound : Nat) (s : String) : Option Nat := (natural? s).filter (· < bound)

end SerialRelay.Text

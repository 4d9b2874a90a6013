/-!
# Durations

Seconds and nanoseconds, and their text in the largest unit that gives at least one.
-/

namespace SerialRelay

/-- A span of time; less than a second is left to the nanoseconds. -/
structure Duration where
  secs : Nat
  nanos : Nat
  nanos_lt : nanos < 1000000000 := by decide
  deriving DecidableEq, Repr

namespace Duration

def ofMillis (ms : Nat) : Duration :=
  ⟨ms / 1000, ms % 1000 * 1000000, by omega⟩

/-- Seconds and any number of nanoseconds: a full second of them is carried over. -/
def ofParts (secs nanos : Nat) : Duration :=
  ⟨secs + nanos / 1000000000, nanos % 1000000000, Nat.mod_lt _ (by decide)⟩

/-- The decimal digits of a number, padded with zeros on the left. -/
def padded (width n : Nat) : List Char :=
  let ds := Nat.toDigits 10 n
  List.replicate (width - ds.length) '0' ++ ds

/-- A decimal fraction `n / 10 ^ width` behind its point, without zeros at the end. -/
def fraction (width n : Nat) : List Char :=
  match ((padded width n).reverse.dropWhile (· == '0')).reverse with
  | [] => []
  | ds => '.' :: ds

/-- **The text of a duration**: the largest of s, ms, µs and ns that gives at least one. -/
def text (d : Duration) : String :=
  let (whole, width, rest, unit) :=
    if 0 < d.secs then (d.secs, 9, d.nanos, "s")
    else if 1000000 ≤ d.nanos then (d.nanos / 1000000, 6, d.nanos % 1000000, "ms")
    else if 1000 ≤ d.nanos then (d.nanos / 1000, 3, d.nanos % 1000, "µs")
    else (d.nanos, 0, 0, "ns")
  toString whole ++ String.ofList (fraction width rest) ++ unit

end Duration

end SerialRelay

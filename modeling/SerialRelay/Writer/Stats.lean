import SerialRelay.Json

/-!
# Counters of a writer

What a running writer has done so far, and its form for machine readers.
-/

namespace SerialRelay

/-- **What a writer has counted.** Its counters, like those of a pump (`PumpSummary`) and the
flushes of a simulated port (`SimPort.flushes`), are natural numbers. In a running relay they have
64 bits, so runs past 2^64 events or octets are left out. -/
structure Stats where
  /-- Buffers written and emitted again. -/
  forwarded : Nat := 0
  /-- Octets of those buffers. -/
  bytes : Nat := 0
  /-- Buffers taken before any handle. -/
  dropped : Nat := 0
  /-- Handles taken. -/
  attached : Nat := 0
  /-- The name of the last handle taken. -/
  current : Option String := none
  deriving DecidableEq, Repr

namespace Stats

def recordForwarded (s : Stats) (length : Nat) : Stats :=
  { s with forwarded := s.forwarded + 1, bytes := s.bytes + length }

def recordDropped (s : Stats) : Stats := { s with dropped := s.dropped + 1 }

def recordPort (s : Stats) (name : String) : Stats :=
  { s with attached := s.attached + 1, current := some name }

/-- The counters as an object, in this order. -/
def toJson (s : Stats) : Json :=
  .object
    [("buffers_forwarded", .int s.forwarded), ("bytes_written", .int s.bytes),
      ("buffers_dropped", .int s.dropped), ("ports_attached", .int s.attached),
      ("current_port", s.current.elim .null .string)]

end Stats

end SerialRelay

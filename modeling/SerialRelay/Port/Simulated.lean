import SerialRelay.Port.Device
import SerialRelay.Text.Quoted

/-!
# A simulated port

A device that records what it takes and can be told to take little at a time, to time out once, to
fail after some writes, or to be unplugged. `FaultyPort` puts interruptions, flush faults and a
breakdown in front of it.
-/

namespace SerialRelay

/-- The state of a simulated port. -/
structure SimPort where
  /-- What each accepted offer took, in order. -/
  log : List Bytes := []
  flushes : Nat := 0
  /-- The next offer times out. -/
  timeoutArmed : Bool := false
  /-- Offers left before every one fails. -/
  budget : Option Nat := none
  /-- The most octets that one offer takes. -/
  maxChunk : Option Nat := none
  disconnected : Bool := false
  flushUnsupported : Bool := false
  deriving DecidableEq, Repr

namespace SimPort

/-- What a simulated timeout reports. -/
def timeoutSpan : Duration := ⟨1, 0, by decide⟩

/-- The fault once the budget is spent. -/
def spent : PortError := .io ⟨.brokenPipe, .text "mock port failure"⟩

/-- Takes as much of the data as one offer may take. -/
def accept (p : SimPort) (data : Bytes) : Answer × SimPort :=
  let n := (p.maxChunk.getD data.length).min data.length
  (.took n, if n = 0 then p else { p with log := p.log ++ [data.take n] })

/-- **One offer**: an unplugged port first, then the armed timeout, then the budget. -/
def offer (p : SimPort) (data : Bytes) : Answer × SimPort :=
  if p.disconnected then (.failed .notOpen, p)
  else if p.timeoutArmed then (.failed (.timeout timeoutSpan), { p with timeoutArmed := false })
  else
    match p.budget with
    | some 0 => (.failed spent, p)
    | some (n + 1) => { p with budget := some n }.accept data
    | none => p.accept data

/-- A flush; only those that succeed are counted. -/
def flush (p : SimPort) : Outcome × SimPort :=
  if p.disconnected then (.failed .notOpen, p)
  else if p.flushUnsupported then (.failed (.io ⟨.unsupported, .plain⟩), p)
  else (.done, { p with flushes := p.flushes + 1 })

def device : Device SimPort := ⟨offer, flush⟩

def transmitted (p : SimPort) : Bytes := p.log.flatten

def clear (p : SimPort) : SimPort := { p with log := [] }

/-- What can be set on a simulated port. -/
inductive Adjustment where
  /-- So many offers succeed before every one fails. -/
  | limit (offers : Nat)
  /-- The most octets that one offer takes, if there is such a bound. -/
  | chunk (most : Option Nat)
  /-- Whether the next offer times out. -/
  | timeout (armed : Bool)
  /-- Whether flushes are unsupported. -/
  | unflushable (on : Bool)
  | unplug
  /-- Nothing stays in the log. -/
  | clear
  deriving DecidableEq, Repr

/-- **A port with something set on it.** -/
def adjust (p : SimPort) : Adjustment → SimPort
  | .limit offers => { p with budget := some offers }
  | .chunk most => { p with maxChunk := most }
  | .timeout armed => { p with timeoutArmed := armed }
  | .unflushable on => { p with flushUnsupported := on }
  | .unplug => { p with disconnected := true }
  | .clear => p.clear

/-- The description of a simulated port of that name. -/
def describe (p : SimPort) (name : String) : String :=
  "MockSerialPort \x7b name: " ++ Text.quoted name ++ ", writes: " ++ toString p.log.length
    ++ " \x7d"

theorem offer_not_interrupted {p q : SimPort} {data : Bytes} {e : PortError}
    (h : p.offer data = (.failed e, q)) : e.isInterrupted = false := by
  simp only [offer, accept] at h
  split at h
  · obtain ⟨rfl, -⟩ := Prod.mk.inj h |>.imp Answer.failed.inj id; rfl
  · split at h
    · obtain ⟨rfl, -⟩ := Prod.mk.inj h |>.imp Answer.failed.inj id; rfl
    · split at h
      · obtain ⟨rfl, -⟩ := Prod.mk.inj h |>.imp Answer.failed.inj id; rfl
      all_goals simp at h

/-- A simulated port never interrupts. -/
def patience : device.Patience where
  bound _ := 0
  took _ := Nat.le_refl _
  interrupted h hi := by simp [offer_not_interrupted h] at hi

end SimPort

/-- A simulated port behind faults of its own. -/
structure FaultyPort where
  port : SimPort := {}
  /-- Offers that are interrupted before the port sees them. -/
  interrupts : Nat := 0
  /-- The kind of fault that every flush reports before the port sees it. -/
  flushError : Option IoKind := none
  /-- Every offer breaks down. -/
  breaksDown : Bool := false
  deriving DecidableEq, Repr

namespace FaultyPort

def interruption : PortError := .io ⟨.interrupted, .plain⟩

def offer (p : FaultyPort) (data : Bytes) : Answer × FaultyPort :=
  if p.breaksDown then (.brokeDown, p)
  else
    match p.interrupts with
    | n + 1 => (.failed interruption, { p with interrupts := n })
    | 0 =>
      let (answer, port) := p.port.offer data
      (answer, { p with port := port })

def flush (p : FaultyPort) : Outcome × FaultyPort :=
  match p.flushError with
  | some kind => (.failed (.io ⟨kind, .text "flush failed"⟩), p)
  | none =>
    let (outcome, port) := p.port.flush
    (outcome, { p with port := port })

def device : Device FaultyPort := ⟨offer, flush⟩

/-- The interruptions are counted down. -/
def patience : device.Patience where
  bound p := p.interrupts
  took {s t data n} h := by
    simp only [device, offer] at h
    split at h
    · simp at h
    · split at h <;> simp only [Prod.mk.injEq] at h
      · simp at h
      · obtain ⟨-, rfl⟩ := h
        exact Nat.le_refl _
  interrupted {s t data e} h hi := by
    simp only [device, offer] at h
    split at h
    · simp at h
    · split at h
      next hn =>
        simp only [Prod.mk.injEq] at h
        rw [← h.2, hn]
        exact Nat.lt_succ_self _
      next =>
        simp only [Prod.mk.injEq] at h
        have same : s.port.offer data = (.failed e, (s.port.offer data).2) := Prod.ext h.1 rfl
        simp [SimPort.offer_not_interrupted same] at hi

/-- The complete write without a flush. -/
def write (p : FaultyPort) (data : Bytes) : Outcome × FaultyPort := patience.write p data

/-- The complete write and its flush, as a handle performs them. -/
def send (p : FaultyPort) (data : Bytes) : Except PortError Unit × FaultyPort :=
  patience.send p data

end FaultyPort

/-- The description of a handle on a port of that name. -/
def describeHandle (name : String) (holders : Nat) : String :=
  "SharedPort \x7b name: " ++ Text.quoted name ++ ", holders: " ++ toString holders ++ " \x7d"

end SerialRelay

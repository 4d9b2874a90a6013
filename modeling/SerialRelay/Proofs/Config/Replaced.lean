import SerialRelay.Proofs.Config.Usable
import SerialRelay.Proofs.Config.Variables

/-!
# Values replaced by flags

A flag replaces a value of the file, and so does a variable. The two are not alike: a configuration
is checked as soon as it has its variables, and once more with its flags. So a value that cannot be
used does no harm behind a variable, but behind a flag it still ends the run. Two files that differ
only where there are flags, and not in what is wrong with their values, give the same.

* `Arguments.Agrees`: configurations that differ only where there are flags.
* `Arguments.override_eq_of_agrees`: with the flags they are the same.
* `Config.finish_error_congr`: what a file is refused for before the flags.
* `Arguments.effectiveConfig_of_readFile`: the stages of a configuration from its file.
* `Arguments.effectiveConfig_ignores_replaced`: what does not depend on the values replaced, and
  what does.
* `Arguments.effectiveConfig_heeds_replaced`: a rate of zero behind a flag.
-/

namespace SerialRelay

/-- The values of a configuration are all of it. -/
theorem Config.ext_get {c c' : Config} (h : ∀ k : ConfigKey, c'.get k = c.get k) : c' = c := by
  have hport : c'.serial.port = c.serial.port := h .port
  have hbaud : c'.serial.baud = c.serial.baud := h .baud
  have htimeout : c'.serial.timeoutMs = c.serial.timeoutMs := h .timeout
  have hbits : c'.serial.dataBits = c.serial.dataBits := h .dataBits
  have hparity : c'.serial.parity = c.serial.parity := h .parity
  have hstop : c'.serial.stopBits = c.serial.stopBits := h .stopBits
  have hflow : c'.serial.flowControl = c.serial.flowControl := h .flowControl
  have haliases : c'.serial.aliases = c.serial.aliases := h .aliases
  have hformat : c'.input.format = c.input.format := h .inputFormat
  have hterminator : c'.input.terminator = c.input.terminator := h .terminator
  have hlevel : c'.logging.level = c.logging.level := h .level
  have hlogFormat : c'.logging.format = c.logging.format := h .logFormat
  obtain ⟨⟨_, _, _, _, _, _, _, _⟩, ⟨_, _⟩, ⟨_, _⟩⟩ := c
  obtain ⟨⟨_, _, _, _, _, _, _, _⟩, ⟨_, _⟩, ⟨_, _⟩⟩ := c'
  simp_all only

namespace Environment

variable {env : Environment} {c c' c₁ c₁' : Config}

/-- What keeps one configuration from its overrides keeps each. -/
theorem apply_eq_error_of_apply {e : ConfigError} (h : env.apply c = .error e) :
    env.apply c' = .error e :=
  apply_eq_error_iff_findSome.2 (apply_eq_error_iff_findSome.1 h)

/-- **A value is kept in each of two configurations, or it is the same in both** after the
overrides. -/
theorem get_apply_cases (h : env.apply c = .ok c₁) (h' : env.apply c' = .ok c₁') (k : ConfigKey) :
    (k.fromVariable? env = none ∧ c₁.get k = c.get k ∧ c₁'.get k = c'.get k) ∨
      c₁'.get k = c₁.get k := by
  rcases Config.get_of_apply h k with ⟨hnone, hget⟩ | hsome <;>
    rcases Config.get_of_apply h' k with ⟨hnone', hget'⟩ | hsome'
  · exact .inl ⟨hnone, hget, hget'⟩
  · cases hnone.symm.trans hsome'
  · cases hnone'.symm.trans hsome
  · exact .inr (Except.ok.inj (Option.some.inj (hsome'.symm.trans hsome)))

end Environment

namespace Config

variable {env : Environment} {fs : Files} {path : String} {c c' : Config} {e : ConfigError}

theorem finish_eq (c : Config) (env : Environment) :
    c.finish env = env.apply c >>= fun c₁ => c₁.validate >>= fun _ => .ok c₁ := by
  unfold finish
  cases env.apply c with
  | error e => rfl
  | ok c₁ => cases hv : c₁.validate <;> simp [hv, bind, Except.bind]

/-- **Configurations are refused alike** if the variables are faulty, or if the same is wrong with
their values where there is no variable. -/
theorem finish_error_congr (hflaw : (∃ k ∈ ConfigKey.checked, k.IsInvalid env) ∨
    ∀ k : ConfigKey, k.fromVariable? env = none → k.flaw? (c'.get k) = k.flaw? (c.get k)) :
    c'.finish env = .error e ↔ c.finish env = .error e := by
  rw [finish_eq, finish_eq]
  cases happly : env.apply c with
  | error e₀ => rw [Environment.apply_eq_error_of_apply happly, error_bind]
  | ok c₁ =>
  cases happly' : env.apply c' with
  | error e₀ => cases happly.symm.trans (Environment.apply_eq_error_of_apply happly')
  | ok c₁' =>
    have hsame : ∀ k : ConfigKey, k.fromVariable? env = none →
        k.flaw? (c'.get k) = k.flaw? (c.get k) := by
      refine hflaw.resolve_left fun hinvalid => ?_
      obtain ⟨e₀, he₀⟩ := Environment.exists_apply_eq_error_iff.2 hinvalid
      cases happly.symm.trans he₀
    have hcheck : c₁'.validate = c₁.validate := by
      refine validate_congr fun k => ?_
      rcases Environment.get_apply_cases happly happly' k with ⟨hnone, hget, hget'⟩ | hget
      · rw [hget, hget', hsame k hnone]
      · rw [hget]
    rw [ok_bind, ok_bind, hcheck]
    cases c₁.validate with
    | error e₀ => rfl
    | ok _ => exact iff_of_false nofun nofun

/-- A configuration is refused for a value that cannot be used, unless a variable replaces it. -/
theorem finish_error_of_unusable {k : ConfigKey} (hk : k.fromVariable? env = none)
    (hbad : ¬ k.IsUsable (c.get k)) :
    ∃ e, c.finish env = .error e := by
  cases hfinish : c.finish env with
  | error e => exact ⟨e, rfl⟩
  | ok c₁ =>
    rw [finish_eq] at hfinish
    obtain ⟨c₂, happly, hfinish⟩ := ok_of_bind_ok hfinish
    obtain ⟨⟨⟩, hvalid, -⟩ := ok_of_bind_ok hfinish
    rcases get_of_apply happly k with ⟨-, hkept⟩ | hsome
    · exact absurd (hkept ▸ validate_eq_ok_iff.1 hvalid k) hbad
    · cases hk.symm.trans hsome

/-- A file is refused if its configuration is. -/
theorem loadFile_eq_error_iff (hread : readFile fs path = .ok c) :
    loadFile env fs path = .error e ↔ c.finish env = .error e := by
  simp only [loadFile, hread]
  cases c.finish env <;> simp [Except.map]

end Config

namespace Arguments

variable {a : Arguments} {env : Environment} {fs fs' : Files} {path path' : String}
  {c c' c₁ c₁' : Config}

/-- **Two configurations differ only where there are flags.** -/
def Agrees (a : Arguments) (c c' : Config) : Prop :=
  ∀ k : ConfigKey, k.flag? a = none → c'.get k = c.get k

/-- Overrides keep the difference to where there are flags. -/
theorem Agrees.apply (h : a.Agrees c c') (hc : env.apply c = .ok c₁)
    (hc' : env.apply c' = .ok c₁') :
    a.Agrees c₁ c₁' := by
  intro k hk
  rcases Environment.get_apply_cases hc hc' k with ⟨-, hget, hget'⟩ | hsame
  · rw [hget, hget', h k hk]
  · exact hsame

/-- **With the flags there is no difference.** -/
theorem override_eq_of_agrees (h : a.Agrees c c') : a.override c' = a.override c := by
  refine Config.ext_get fun k => ?_
  rw [Config.get_override, Config.get_override]
  cases hk : k.flag? a with
  | none => exact h k hk
  | some v => rfl

/-- What comes of a file whose document is a configuration: this is checked with the variables, and
then with the flags. -/
theorem effectiveConfig_of_readFile (hfile : a.configFile? env fs = some path)
    (hread : Config.readFile fs path = .ok c) :
    a.effectiveConfig env fs = c.finish env >>= fun c₁ =>
      (a.override c₁).validate >>= fun _ => .ok (a.override c₁) := by
  have hloaded : a.loadedConfig env fs = (c.finish env).map (⟨some path, ·⟩) := by
    unfold loadedConfig
    cases ha : a.config with
    | some path' =>
      obtain rfl : path' = path := Option.some.inj ((configFile_of_some ha).symm.trans hfile)
      simp only [Config.loadFrom, Config.exists_of_readFile hread, if_true, Config.loadFile, hread]
    | none =>
      rw [configFile_of_none ha] at hfile
      simp only [Config.load, hfile, Config.loadFile, hread]
  rw [effectiveConfig_eq, hloaded]
  cases c.finish env <;> rfl

/-- **What a flag replaces does not matter, if it could stay.** Two files that differ only where
there are flags give the same configuration or the same fault, if both are loaded or both are
refused with the same fault. They are, if in each value without a variable the same is wrong with
both, or nothing; so what a variable replaces does not matter, and nothing does if the variables are
faulty. But a value that cannot be used and has no variable ends the run with the fault of its file,
whatever the flags are. -/
theorem effectiveConfig_ignores_replaced (a : Arguments) (env : Environment)
    (hfile : a.configFile? env fs = some path) (hfile' : a.configFile? env fs' = some path')
    (hread : Config.readFile fs path = .ok c) (hread' : Config.readFile fs' path' = .ok c')
    (hagree : a.Agrees c c') :
    ((∀ e, Config.loadFile env fs' path' = .error e ↔ Config.loadFile env fs path = .error e) →
      a.effectiveConfig env fs' = a.effectiveConfig env fs) ∧
      (((∃ k ∈ ConfigKey.checked, k.IsInvalid env) ∨
          ∀ k : ConfigKey, k.fromVariable? env = none → k.flaw? (c'.get k) = k.flaw? (c.get k)) →
        ∀ e, Config.loadFile env fs' path' = .error e ↔ Config.loadFile env fs path = .error e) ∧
      ∀ k : ConfigKey, k.fromVariable? env = none → ¬ k.IsUsable (c.get k) →
        ∃ e, Config.loadFile env fs path = .error e ∧
          ∀ a' : Arguments, a'.config = a.config → a'.effectiveConfig env fs = .error e := by
  have hrefused : ∀ e, Config.loadFile env fs path = .error e ↔ c.finish env = .error e :=
    fun e => Config.loadFile_eq_error_iff hread
  have hrefused' : ∀ e, Config.loadFile env fs' path' = .error e ↔ c'.finish env = .error e :=
    fun e => Config.loadFile_eq_error_iff hread'
  simp only [hrefused, hrefused']
  refine ⟨fun hsame => ?_, fun hflaw e => Config.finish_error_congr hflaw, fun k hk hbad => ?_⟩
  · rw [effectiveConfig_of_readFile hfile hread, effectiveConfig_of_readFile hfile' hread']
    cases hc : c.finish env with
    | error e => rw [(hsame e).2 hc]
    | ok c₁ =>
    cases hc' : c'.finish env with
    | error e => cases hc.symm.trans ((hsame e).1 hc')
    | ok c₁' =>
      have hafter : a.Agrees c₁ c₁' :=
        hagree.apply (Config.apply_of_finish hc) (Config.apply_of_finish hc')
      rw [ok_bind, ok_bind, override_eq_of_agrees hafter]
  · obtain ⟨e, he⟩ := Config.finish_error_of_unusable hk hbad
    refine ⟨e, he, fun a' ha => ?_⟩
    have hpath : a'.configFile? env fs = some path := by rwa [configFile?, ha]
    rw [effectiveConfig_of_readFile hpath hread, he, error_bind]

/-- A local file with a document. -/
def fileOf (document : String) : Files :=
  { nodes := [(["serial-writer.toml"], .file (Text.utf8 document))] }

def zeroFile : Files := fileOf "[serial]\nport = \"Q\"\nbaud = 0\n"

def slowFile : Files := fileOf "[serial]\nport = \"R\"\nbaud = 1200\n"

def rateVariable : Environment := { vars := [("SERIAL_WRITER_SERIAL_BAUD", Text.utf8 "57600")] }

def bothFlags : Arguments := { port := some "P", baud := some 9600 }

theorem readFile_zeroFile :
    Config.readFile zeroFile "serial-writer.toml" =
      .ok { serial := { port := some "Q", baud := 0 } } := by
  decide +kernel

theorem readFile_slowFile :
    Config.readFile slowFile "serial-writer.toml" =
      .ok { serial := { port := some "R", baud := 1200 } } := by
  decide +kernel

theorem bothFlags_agrees : bothFlags.Agrees { serial := { port := some "Q", baud := 0 } }
    { serial := { port := some "R", baud := 1200 } } := by
  intro k hk
  cases k with
  | port | baud => cases hk
  | _ => rfl

/-- A flag replaces the port, a variable and a flag the rate; without the variable the file is
refused. -/
theorem effectiveConfig_ignores_replaced_rate :
    (bothFlags.effectiveConfig rateVariable slowFile =
        bothFlags.effectiveConfig rateVariable zeroFile ∧
      bothFlags.effectiveConfig rateVariable zeroFile =
        .ok { serial := { port := some "P", baud := 9600 } }) ∧
      ∀ a' : Arguments, a'.config = none →
        a'.effectiveConfig {} zeroFile =
          .error (.invalid "serial.baud" "must be greater than zero") := by
  have hread := readFile_zeroFile
  have hread' := readFile_slowFile
  obtain ⟨hsame, halike, -⟩ :=
    effectiveConfig_ignores_replaced bothFlags rateVariable rfl rfl hread hread' bothFlags_agrees
  obtain ⟨-, -, hrefused⟩ :=
    effectiveConfig_ignores_replaced bothFlags {} rfl rfl hread hread' bothFlags_agrees
  refine ⟨⟨hsame (halike (.inr fun k hk => ?_)), by decide +kernel⟩, fun a' ha => ?_⟩
  · cases k with
    | baud => exact absurd hk (by decide +kernel)
    | _ => rfl
  · obtain ⟨e, he, hany⟩ := hrefused .baud rfl (fun h => h rfl)
    have hfault : Config.loadFile {} zeroFile "serial-writer.toml" =
        .error (.invalid "serial.baud" "must be greater than zero") := by decide +kernel
    obtain rfl := Except.error.inj (hfault.symm.trans he)
    exact hany a' ha

/-- **A rate of zero matters, though a flag replaces it.** -/
theorem effectiveConfig_heeds_replaced :
    ∃ (a : Arguments) (env : Environment) (fs fs' : Files) (path : String) (c c' : Config),
      a.configFile? env fs = some path ∧ a.configFile? env fs' = some path ∧
        Config.readFile fs path = .ok c ∧
        Config.readFile fs' path = .ok c' ∧ a.Agrees c c' ∧
        a.effectiveConfig env fs' = .ok { serial := { port := some "P", baud := 9600 } } ∧
        a.effectiveConfig env fs = .error (.invalid "serial.baud" "must be greater than zero") :=
  ⟨bothFlags, {}, zeroFile, slowFile, "serial-writer.toml", _, _, rfl, rfl, readFile_zeroFile,
    readFile_slowFile, bothFlags_agrees, by decide +kernel, by decide +kernel⟩

end Arguments

end SerialRelay

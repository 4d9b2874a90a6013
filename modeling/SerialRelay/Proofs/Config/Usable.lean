import Mathlib.Data.List.Nodup
import SerialRelay.App.Run
import SerialRelay.Proofs.Config.Layers

/-!
# Usable configurations

A value can be read and still be of no use: a rate or a timeout of zero, a port of blanks only, a
terminator with an unknown escape. A configuration without such a value serves a run: its terminator
stands for octets, its line has a rate and a timeout, and a port is missing only where none is set.
The port that a run opens first is the one behind the alias, and what is behind an alias is not
looked at: it may be blank.

* `ConfigKey.IsUsable`: the values that can be used.
* `Config.validate_eq`: the first value that cannot be used is reported, under its own key.
* `Config.validate_eq_ok_iff`: nothing is reported if all values can be used.
* `Config.validate_serves`: what a run makes of a configuration without a report.
* `Config.validate_misses_blank_target`: a port that is blank behind its alias.
-/

namespace SerialRelay

/-- A text is not blank if one of its characters is not. -/
theorem Text.isAllBlank_eq_false_iff {s : String} :
    isAllBlank s = false ↔ ∃ c ∈ s.toList, isBlank c = false := by
  simp [isAllBlank]

namespace ConfigKey

/-- **A value that can be used.** -/
def IsUsable : (k : ConfigKey) → k.Value → Prop
  | port, v => ∀ name, v = some name → ∃ c ∈ name.toList, Text.isBlank c = false
  | baud, v => v ≠ 0
  | timeout, v => v ≠ 0
  | terminator, v => ∃ bytes, Terminator.decode v = .ok bytes
  | dataBits, _ | parity, _ | stopBits, _ | flowControl, _ | aliases, _ | inputFormat, _ | level, _
  | logFormat, _ =>
    True

/-- What is wrong with a value, if it cannot be used. -/
def flaw? : (k : ConfigKey) → k.Value → Option String
  | port, v => if v.any Text.isAllBlank then some "must not be empty" else none
  | baud, v => if v = 0 then some "must be greater than zero" else none
  | timeout, v => if v = 0 then some "must be greater than zero" else none
  | terminator, v =>
    match Terminator.decode v with
    | .error e => some e.message
    | .ok _ => none
  | dataBits, _ | parity, _ | stopBits, _ | flowControl, _ | aliases, _ | inputFormat, _ | level, _
  | logFormat, _ =>
    none

/-- The values that may be of no use, in the order in which they are looked at. -/
def inspected : List ConfigKey := [baud, timeout, port, terminator]

/-- **A value can be used if nothing is wrong with it.** -/
theorem flaw_eq_none_iff {k : ConfigKey} {v : k.Value} : k.flaw? v = none ↔ k.IsUsable v := by
  cases k with
  | port =>
    cases v with
    | none => simp [flaw?, IsUsable]
    | some name => simp [flaw?, IsUsable, Text.isAllBlank_eq_false_iff]
  | baud | timeout => simp [flaw?, IsUsable]
  | terminator =>
    cases hd : Terminator.decode v <;> simp [flaw?, IsUsable, hd]
  | dataBits | parity | stopBits | flowControl | aliases | inputFormat | level | logFormat =>
    exact iff_of_true rfl trivial

/-- What is not looked at can be used. -/
theorem isUsable_of_not_mem_inspected {k : ConfigKey} (hk : k ∉ inspected) (v : k.Value) :
    k.IsUsable v := by
  cases k with
  | port | baud | timeout | terminator => exact absurd (by decide) hk
  | dataBits | parity | stopBits | flowControl | aliases | inputFormat | level
  | logFormat => trivial

end ConfigKey

namespace Config

variable {c c' : Config}

/-- What is reported of a value, under its key. -/
def report? (c : Config) (k : ConfigKey) : Option ConfigError :=
  (k.flaw? (c.get k)).map (.invalid (k.sectionOf.name ++ "." ++ k.name))

/-- A value that cannot be used in one case is reported in this case. -/
theorem report_eq_ite {k : ConfigKey} {p : Prop} [Decidable p] {why : String}
    (h : k.flaw? (c.get k) = if p then some why else none) :
    c.report? k = if p then some (.invalid (k.sectionOf.name ++ "." ++ k.name) why) else none := by
  rw [report?, h, apply_ite (Option.map _)]
  rfl

/-- **The first value that cannot be used is reported**, under its own key. -/
theorem validate_eq (c : Config) :
    c.validate = (ConfigKey.inspected.findSome? c.report?).elim (.ok ()) .error := by
  have hbaud : c.report? .baud =
      if c.serial.baud = 0 then some (.invalid "serial.baud" "must be greater than zero")
      else none :=
    report_eq_ite rfl
  have htimeout : c.report? .timeout =
      if c.serial.timeoutMs = 0 then
        some (.invalid "serial.timeout_ms" "must be greater than zero")
      else none :=
    report_eq_ite rfl
  have hport : c.report? .port =
      if c.serial.port.any Text.isAllBlank then some (.invalid "serial.port" "must not be empty")
      else none :=
    report_eq_ite rfl
  have hterminator : c.report? .terminator =
      match Terminator.decode c.input.terminator with
      | .error e => some (.invalid "input.terminator" e.message)
      | .ok _ => none := by
    unfold report? ConfigKey.flaw?
    simp only [get]
    cases Terminator.decode c.input.terminator <;> rfl
  -- the checks one by one, up to the first that fails
  unfold validate
  simp only [ConfigKey.inspected, List.findSome?_cons, List.findSome?_nil, hbaud, htimeout, hport,
    hterminator]
  by_cases hb : c.serial.baud = 0
  · rw [if_pos hb, if_pos hb]
    rfl
  by_cases ht : c.serial.timeoutMs = 0
  · rw [if_neg hb, if_neg hb, if_pos ht, if_pos ht]
    rfl
  by_cases hp : c.serial.port.any Text.isAllBlank = true
  · rw [if_neg hb, if_neg hb, if_neg ht, if_neg ht, if_pos hp, if_pos hp]
    rfl
  · rw [if_neg hb, if_neg hb, if_neg ht, if_neg ht, if_neg hp, if_neg hp]
    cases Terminator.decode c.input.terminator <;> rfl

theorem report_eq_none_iff {k : ConfigKey} : c.report? k = none ↔ k.IsUsable (c.get k) := by
  rw [report?, Option.map_eq_none_iff, ConfigKey.flaw_eq_none_iff]

/-- **Nothing is reported if all values can be used.** -/
theorem validate_eq_ok_iff : c.validate = .ok () ↔ ∀ k : ConfigKey, k.IsUsable (c.get k) := by
  rw [validate_eq]
  cases h : ConfigKey.inspected.findSome? c.report? with
  | none =>
    rw [List.findSome?_eq_none_iff] at h
    refine iff_of_true rfl fun k => ?_
    by_cases hk : k ∈ ConfigKey.inspected
    · exact report_eq_none_iff.1 (h k hk)
    · exact ConfigKey.isUsable_of_not_mem_inspected hk _
  | some e =>
    obtain ⟨k, -, hk⟩ := List.exists_of_findSome?_eq_some h
    refine iff_of_false nofun fun hall => ?_
    rw [report_eq_none_iff.2 (hall k)] at hk
    cases hk

/-- **A check sees only what is wrong with the values.** -/
theorem validate_congr (h : ∀ k : ConfigKey, k.flaw? (c'.get k) = k.flaw? (c.get k)) :
    c'.validate = c.validate := by
  have hreport : c'.report? = c.report? := by
    funext k
    rw [report?, report?, h k]
  rw [validate_eq, validate_eq, hreport]

end Config

/-- The milliseconds of a duration are all of it. -/
theorem Duration.ofMillis_nanos (ms : Nat) :
    (ofMillis ms).secs * 1000000000 + (ofMillis ms).nanos = ms * 1000000 := by
  simp only [ofMillis]
  omega

namespace Aliases

variable {a : Aliases} {name target : String}

/-- **A name stands for what its alias does, or for itself.** -/
theorem resolve_cases (a : Aliases) (name : String) :
    (name, a.resolve name) ∈ a.entries ∨
      (∀ target, (name, target) ∉ a.entries) ∧ a.resolve name = name := by
  unfold resolve
  cases h : a.entries.lookup name with
  | none =>
    rw [List.lookup_eq_none_iff] at h
    exact .inr ⟨fun target hm => by simpa using h _ hm, rfl⟩
  | some target =>
    obtain ⟨front, back, hsplit, -⟩ := List.lookup_eq_some_iff.1 h
    exact .inl (by rw [hsplit]; simp)

/-- An alias has one target. -/
theorem resolve_of_mem (h : (name, target) ∈ a.entries) : a.resolve name = target := by
  rcases resolve_cases a name with hm | ⟨hnone, -⟩
  · exact congrArg Prod.snd (List.inj_on_of_nodup_map a.nodup hm h rfl)
  · exact absurd h (hnone target)

/-- **A name that is not blank stands for a blank one only as an alias of it.** -/
theorem isAllBlank_resolve_iff (h : Text.isAllBlank name = false) :
    Text.isAllBlank (a.resolve name) = true ↔
      ∃ target, (name, target) ∈ a.entries ∧ Text.isAllBlank target = true := by
  constructor
  · intro hblank
    rcases resolve_cases a name with hm | ⟨-, hself⟩
    · exact ⟨_, hm, hblank⟩
    · rw [hself, h] at hblank
      cases hblank
  · rintro ⟨target, hm, hblank⟩
    rwa [resolve_of_mem hm]

end Aliases

namespace SerialConfig

variable {c : SerialConfig} {raw : Bool}

theorem initialPort_eq_error_iff {e : AppError} :
    c.initialPort? raw = .error e ↔ raw = true ∧ c.port = none ∧ e = .noPort := by
  unfold initialPort?
  cases c.port <;> cases raw <;> simp [eq_comm]

theorem initialPort_eq_none_iff : c.initialPort? raw = .ok none ↔ raw = false ∧ c.port = none := by
  unfold initialPort?
  cases c.port <;> cases raw <;> simp

theorem initialPort_eq_some_iff {device : String} :
    c.initialPort? raw = .ok (some device) ↔
      ∃ name, c.port = some name ∧ c.aliases.resolve name = device := by
  unfold initialPort?
  cases c.port <;> cases raw <;> simp

end SerialConfig

namespace Arguments

variable {a : Arguments} {env : Environment} {fs : Files} {c : Config}

/-- A configuration that a run works with has been checked. -/
theorem validate_of_effectiveConfig (h : a.effectiveConfig env fs = .ok c) :
    c.validate = .ok () := by
  rw [effectiveConfig_eq] at h
  obtain ⟨loaded, -, h⟩ := ok_of_bind_ok h
  obtain ⟨⟨⟩, hvalid, h⟩ := ok_of_bind_ok h
  rwa [← Except.ok.inj h]

/-- **A job has the first port of its configuration**, and fails only for want of one. -/
theorem map_initial_job (h : ∃ bytes, Terminator.decode c.input.terminator = .ok bytes) :
    (a.job c).map Job.initial = c.serial.initialPort? a.raw := by
  obtain ⟨bytes, hbytes⟩ := h
  unfold job
  rw [hbytes]
  cases c.serial.initialPort? a.raw <;> rfl

/-- **A terminator does not keep a run from its task**, since it has been checked. -/
theorem task_ne_input (a : Arguments) (env : Environment) (fs : Files) (e : PayloadError) :
    a.task env fs ≠ .error (.input e) := by
  intro h
  unfold task at h
  cases hc : a.effectiveConfig env fs with
  | error e => simp [hc, Except.mapError, bind, Except.bind] at h
  | ok c =>
    have hinitial :=
      map_initial_job (a := a)
        (Config.validate_eq_ok_iff.1 (validate_of_effectiveConfig hc) .terminator)
    simp only [hc, Except.mapError, bind, Except.bind] at h
    split at h
    · cases h
    split at h
    · cases h
    cases hjob : a.job c with
    | ok j => simp [hjob, pure, Except.pure] at h
    | error e =>
      rw [hjob] at h hinitial
      obtain rfl := Except.error.inj h
      obtain ⟨-, -, hport⟩ := SerialConfig.initialPort_eq_error_iff.1 hinitial.symm
      cases hport

end Arguments

/-- A run that has written its document has no fault. -/
theorem Ending.fault_ofWritten (fs : Files) (ts : Terminals) (path document : String) :
    (ofWritten fs ts path document).fault = none := by
  unfold ofWritten
  split <;> rfl

/-- What a task fails with once it is decided. -/
theorem Task.fault_cases {fs : Files} {ts : Terminals} {input : Bytes} {t : Task} {f : Fault}
    (h : (t.perform fs ts input).fault = some f) :
    (∃ e, f = .app (.config e)) ∨ (∃ e, f = .app (.port e)) ∨ ∃ e, f = .app (.write e) := by
  cases t with
  | save c path =>
    simp only [perform] at h
    split at h
    · rw [Ending.fault_ofWritten] at h
      cases h
    · exact .inl ⟨_, (Option.some.inj h).symm⟩
  | list json => cases h
  | relay j =>
    simp only [perform, Job.perform] at h
    split at h
    · exact .inr (.inl ⟨_, (Option.some.inj h).symm⟩)
    · obtain ⟨e, -, rfl⟩ := Option.map_eq_some_iff.1 h
      exact .inr (.inr ⟨e, rfl⟩)

theorem run_fault_ne_input (args : List String) (env : Environment) (fs : Files) (ts : Terminals)
    (input : Bytes) (e : PayloadError) :
    (run args env fs ts input).fault ≠ some (.app (.input e)) := by
  intro h
  unfold run at h
  split at h
  · cases h
  · cases h
  · cases h
  · next a _ =>
    cases ht : a.task env fs with
    | error e' =>
      simp only [ht] at h
      obtain rfl : e' = .input e := by simpa using h
      exact Arguments.task_ne_input a env fs e ht
    | ok t =>
      simp only [ht] at h
      rcases Task.fault_cases h with ⟨e, he⟩ | ⟨e, he⟩ | ⟨e, he⟩ <;> cases he

namespace Config

/-- **A configuration that has been checked serves a run.** Its terminator stands for octets, its
line has a rate, and the timeout is that of the configuration, to the nanosecond. A job has the
first port of its configuration and fails only for want of one: that is missing where no line can be
a command and no port is set. A first port is the one set, or the target of its alias; that it is
blank can only be due to the alias, whose target has not been checked. No run ends with a fault of
its terminator. -/
theorem validate_serves (c : Config) (h : c.validate = .ok ()) :
    (∃ bytes, Terminator.decode c.input.terminator = .ok bytes) ∧
      1 ≤ c.serial.lineSettings.baudRate ∧
      1 ≤ c.serial.timeoutMs.toNat ∧
      c.serial.lineSettings.timeout.secs * 1000000000 + c.serial.lineSettings.timeout.nanos =
        c.serial.timeoutMs.toNat * 1000000 ∧
      (∀ raw e, c.serial.initialPort? raw = .error e ↔
        raw = true ∧ c.serial.port = none ∧ e = .noPort) ∧
      (∀ raw, c.serial.initialPort? raw = .ok none ↔ raw = false ∧ c.serial.port = none) ∧
      (∀ raw device, c.serial.initialPort? raw = .ok (some device) →
        ∃ name, c.serial.port = some name ∧ c.serial.aliases.resolve name = device ∧
          (Text.isAllBlank device = true ↔
            ∃ target, (name, target) ∈ c.serial.aliases.entries ∧ Text.isAllBlank target = true)) ∧
      (∀ a : Arguments, (a.job c).map Job.initial = c.serial.initialPort? a.raw) ∧
      ∀ args env fs ts input e, (run args env fs ts input).fault ≠ some (.app (.input e)) := by
  have husable := validate_eq_ok_iff.1 h
  have hbaud : c.serial.baud ≠ 0 := husable .baud
  have htimeout : c.serial.timeoutMs ≠ 0 := husable .timeout
  have hrate : c.serial.baud.toNat ≠ 0 := fun h0 => hbaud (UInt32.toNat_inj.1 h0)
  have hspan : c.serial.timeoutMs.toNat ≠ 0 := fun h0 => htimeout (UInt64.toNat_inj.1 h0)
  refine ⟨husable .terminator, Nat.one_le_iff_ne_zero.2 hrate, Nat.one_le_iff_ne_zero.2 hspan,
    Duration.ofMillis_nanos _, fun raw e => SerialConfig.initialPort_eq_error_iff,
    fun raw => SerialConfig.initialPort_eq_none_iff, fun raw device hdevice => ?_,
    fun a => Arguments.map_initial_job (husable .terminator), run_fault_ne_input⟩
  obtain ⟨name, hname, rfl⟩ := SerialConfig.initialPort_eq_some_iff.1 hdevice
  have hfull : Text.isAllBlank name = false :=
    Text.isAllBlank_eq_false_iff.2 (husable .port name hname)
  exact ⟨name, hname, rfl, Aliases.isAllBlank_resolve_iff hfull⟩

/-- An alias of a port, a timeout that is no whole number of seconds, and a terminator with
escapes. -/
def aliased : Config :=
  { serial :=
    { port := some "printer", timeoutMs := 1500, aliases := .ofList [("printer", "/dev/ttyUSB0")] }
    input := { terminator := "\\r\\n" } }

theorem validate_serves_aliased :
    aliased.validate = .ok () ∧ (∃ bytes, Terminator.decode aliased.input.terminator = .ok bytes) ∧
      aliased.serial.lineSettings.timeout.secs * 1000000000 +
        aliased.serial.lineSettings.timeout.nanos =
        1500 * 1000000 ∧
      aliased.serial.initialPort? true = .ok (some "/dev/ttyUSB0") ∧
      (Text.isAllBlank "/dev/ttyUSB0" = true ↔
        ∃ target, ("printer", target) ∈ aliased.serial.aliases.entries ∧
          Text.isAllBlank target = true) := by
  have hvalid : aliased.validate = .ok () := rfl
  have hinitial : aliased.serial.initialPort? true = .ok (some "/dev/ttyUSB0") := rfl
  obtain ⟨hterminator, -, -, htimeout, -, -, hport, -⟩ := validate_serves aliased hvalid
  obtain ⟨name, hname, -, hblank⟩ := hport true _ hinitial
  obtain rfl : "printer" = name := Option.some.inj hname
  exact ⟨hvalid, hterminator, htimeout, hinitial, hblank⟩

/-- A port whose alias stands for a blank. -/
def hollow : Config := { serial := { port := some "x", aliases := .ofList [("x", " ")] } }

/-- **A blank behind an alias passes the check**, and is what a job opens first. -/
theorem validate_misses_blank_target :
    ∃ c : Config, c.validate = .ok () ∧ c.serial.initialPort? false = .ok (some " ") ∧
      Text.isAllBlank " " = true ∧
      ∃ j, ({} : Arguments).job c = .ok j ∧ j.initial = some " " :=
  ⟨hollow, rfl, rfl, by decide, _, rfl, rfl⟩

end Config

end SerialRelay

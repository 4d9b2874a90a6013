import Mathlib.Data.List.Forall2
import Mathlib.Data.Nat.Digits.Defs
import SerialRelay.Proofs.Config.Documents
import SerialRelay.Proofs.Config.Layers
import SerialRelay.Proofs.Pump.InputLines

/-!
# Variables that override a configuration

A variable is read as a number, as a name in any case, or as the text that it is. The first one that
cannot be read decides the fault, whatever the configuration is, and then none of them has an
effect; otherwise each one that is set gives its value. What is set to something other than text
counts as not set.

* `Text.SpellsNumber`, `Text.IsInAnyCase`, `ConfigKey.Means`: what the text of a variable says.
* `ConfigKey.IsInvalid`, `ConfigKey.IsFirstInvalid`: variables that say nothing, and the first of
  them.
* `ConfigKey.readVariable_eq_ok_iff`, `ConfigKey.eq_complaint`: a variable is read as what its text
  says.
* `Environment.apply_eq_error_iff`: the first invalid variable decides the fault.
* `Environment.overrides_all_or_none`: all overrides, or none.
-/

namespace SerialRelay

namespace Text

/-- **A number in ASCII digits**, the highest one first, behind a plus sign if there is one. -/
def SpellsNumber (s : String) (n : ℕ) : Prop :=
  ∃ ds : List ℕ, ds ≠ [] ∧ (∀ d ∈ ds, d < 10) ∧ n = Nat.ofDigits 10 ds.reverse ∧
    (s.toList = ds.map Nat.digitChar ∨ s.toList = '+' :: ds.map Nat.digitChar)

/-- **A name in any ASCII case**: each letter of it may be a capital. -/
def IsInAnyCase (s name : String) : Prop :=
  List.Forall₂ (fun c d => c = d ∨ c = d.toUpper) s.toList name.toList

/-! ### Numbers -/

theorem digitChar_toNat_sub {c : Char} (h : c.isDigit = true) :
    c.toNat - 48 < 10 ∧ Nat.digitChar (c.toNat - 48) = c := by
  have hrange : 48 ≤ c.toNat ∧ c.toNat ≤ 57 := by
    simpa [Char.isDigit, UInt32.le_iff_toNat_le] using h
  have hlt : c.toNat - 48 < 10 := by omega
  refine ⟨hlt, Char.toNat_inj.1 ?_⟩
  rw [Nat.toNat_digitChar_of_lt_ten hlt]
  omega

theorem isDigit_digitChar {d : ℕ} (h : d < 10) : (Nat.digitChar d).isDigit = true := by
  have hall : ∀ d < 10, (Nat.digitChar d).isDigit = true := by decide
  exact hall d h

/-- Digits from the left are those of a number from the right. -/
theorem foldl_digits (ds : List ℕ) :
    ds.foldl (fun n d => 10 * n + d) 0 = Nat.ofDigits 10 ds.reverse := by
  rw [Nat.ofDigits_eq_foldr, List.foldr_reverse]
  simp [Nat.add_comm]

/-- **Digits are read as their number.** -/
theorem digits_eq_some_iff {cs : List Char} {n : ℕ} :
    digits? cs = some n ↔
      ∃ ds : List ℕ, ds ≠ [] ∧ (∀ d ∈ ds, d < 10) ∧ n = Nat.ofDigits 10 ds.reverse ∧
        cs = ds.map Nat.digitChar := by
  unfold digits?
  constructor
  · intro h
    split at h
    · next hcs =>
      simp only [Bool.and_eq_true, Bool.not_eq_true', List.isEmpty_eq_false_iff,
        List.all_eq_true] at hcs
      obtain ⟨hne, hdigit⟩ := hcs
      refine ⟨cs.map fun c => c.toNat - 48, by simpa using hne, ?_, ?_, ?_⟩
      · rintro d hd
        obtain ⟨c, hc, rfl⟩ := List.mem_map.1 hd
        exact (digitChar_toNat_sub (hdigit c hc)).1
      · rw [← foldl_digits, List.foldl_map]
        exact (Option.some.inj h).symm
      · rw [List.map_map]
        conv_lhs => rw [← List.map_id cs]
        exact List.map_congr_left fun c hc => (digitChar_toNat_sub (hdigit c hc)).2.symm
    · cases h
  · rintro ⟨ds, hne, hlt, rfl, rfl⟩
    have hdigit : (ds.map Nat.digitChar).all Char.isDigit = true := by
      rw [List.all_map, List.all_eq_true]
      exact fun d hd => isDigit_digitChar (hlt d hd)
    have hempty : (ds.map Nat.digitChar).isEmpty = false := by simpa using hne
    rw [hempty, hdigit, Bool.not_false, Bool.and_self, if_pos rfl, ← foldl_digits, List.foldl_map]
    refine congrArg some (List.foldl_ext _ _ _ fun n d hd => ?_)
    rw [Nat.toNat_digitChar_of_lt_ten (hlt d hd)]
    omega

theorem plus_ne_digitChar {d : ℕ} (h : d < 10) : '+' ≠ Nat.digitChar d := by
  have hall : ∀ d < 10, '+' ≠ Nat.digitChar d := by decide
  exact hall d h

/-- **A number is read behind its sign.** -/
theorem natural_eq_some_iff {s : String} {n : ℕ} : natural? s = some n ↔ SpellsNumber s n := by
  unfold natural? SpellsNumber
  split
  · next cs hs =>
    rw [digits_eq_some_iff, hs]
    refine exists_congr fun ds => and_congr_right fun hne => and_congr_right fun hlt =>
      and_congr_right fun _ => ?_
    -- no digit is a sign
    have hsign : '+' :: cs ≠ ds.map Nat.digitChar := by
      obtain ⟨d, ds, rfl⟩ := List.exists_cons_of_ne_nil hne
      rw [List.map_cons]
      exact fun h => plus_ne_digitChar (hlt d List.mem_cons_self) (List.cons.inj h).1
    simp [hsign]
  · next hs =>
    rw [digits_eq_some_iff]
    refine exists_congr fun ds => and_congr_right fun _ => and_congr_right fun _ =>
      and_congr_right fun _ => ?_
    exact ⟨.inl, fun h => h.resolve_right (hs _)⟩

theorem naturalBelow_eq_some_iff {s : String} {bound n : ℕ} :
    naturalBelow? bound s = some n ↔ SpellsNumber s n ∧ n < bound := by
  rw [naturalBelow?, Option.filter_eq_some_iff, natural_eq_some_iff, decide_eq_true_eq]

/-! ### Names -/

/-- The letters that names are made of. -/
def letters : List Char := "abcdefghijklmnopqrstuvwxyz".toList

theorem mem_capitals_of_isUpper {c : Char} (h : c.isUpper = true) :
    c ∈ letters.map Char.toUpper := by
  have hrange : 'A'.val ≤ c.val ∧ c.val ≤ 'Z'.val := of_decide_eq_true h
  have hlow : 65 ≤ c.toNat := UInt32.le_iff_toNat_le.1 hrange.1
  have hhigh : c.toNat ≤ 90 := UInt32.le_iff_toNat_le.1 hrange.2
  have hall : ∀ n < 91, 65 ≤ n → Char.ofNat n ∈ letters.map Char.toUpper := by decide
  simpa using hall c.toNat (by omega) hlow

/-- Only a letter and its capital become this letter. -/
theorem toLower_eq_iff {c d : Char} (hd : d ∈ letters) : c.toLower = d ↔ c = d ∨ c = d.toUpper := by
  constructor
  · rintro rfl
    by_cases hc : c.isUpper = true
    · have hback : (letters.map Char.toUpper).all fun c => c = c.toLower.toUpper := by decide
      exact .inr (of_decide_eq_true (List.all_eq_true.1 hback c (mem_capitals_of_isUpper hc)))
    · have hself : c.toLower = c := dif_neg fun hrange => hc (decide_eq_true hrange)
      exact .inl hself.symm
  · have hback : letters.all fun d => d.toLower = d ∧ d.toUpper.toLower = d := by decide
    obtain ⟨hsmall, hcapital⟩ := of_decide_eq_true (List.all_eq_true.1 hback d hd)
    rintro (rfl | rfl)
    · exact hsmall
    · exact hcapital

theorem map_toLower_eq_iff {ds : List Char} (hds : ∀ d ∈ ds, d ∈ letters) (cs : List Char) :
    cs.map Char.toLower = ds ↔ List.Forall₂ (fun c d => c = d ∨ c = d.toUpper) cs ds := by
  induction ds generalizing cs with
  | nil => rw [List.map_eq_nil_iff, List.forall₂_nil_right_iff]
  | cons d ds ih =>
    obtain ⟨hd, hds⟩ := List.forall_mem_cons.1 hds
    cases cs with
    | nil => exact ⟨nofun, nofun⟩
    | cons c cs => rw [List.map_cons, List.cons.injEq, toLower_eq_iff hd, ih hds, List.forall₂_cons]

/-- **A text becomes a name if it is that name in any case.** The letters of the name are looked up
one by one, so that this can be decided for a given name. -/
theorem lowercase_eq_iff {s name : String} (hname : name.toList.all (· ∈ letters)) :
    lowercase s = name ↔ IsInAnyCase s name := by
  have hletters : ∀ d ∈ name.toList, d ∈ letters :=
    fun d hd => of_decide_eq_true (List.all_eq_true.1 hname d hd)
  rw [lowercase, ← String.toList_inj, String.toList_ofList, map_toLower_eq_iff hletters,
    IsInAnyCase]

end Text

/-- **A name is read in any case.** -/
theorem Named.ofName_lowercase_eq_some_iff {α : Type} [Named α] [LawfulNamed α]
    (hnames : ∀ a : α, (Named.name a).toList.all (· ∈ Text.letters)) {s : String} {a : α} :
    Named.ofName? (lowercase s) = some a ↔ Text.IsInAnyCase s (Named.name a) := by
  rw [← Text.lowercase_eq_iff (hnames a)]
  constructor
  · intro h
    have hname := List.find?_some h
    exact (of_decide_eq_true hname).symm
  · intro h
    rw [h]
    exact LawfulNamed.ofName_name a

namespace ConfigKey

/-- The values that have a variable. -/
def overridable : List ConfigKey := [port, baud, timeout, inputFormat, terminator, level, logFormat]

/-- **The values whose variable may be invalid**, in the order in which they are read. -/
def checked : List ConfigKey := [baud, timeout, inputFormat, logFormat]

/-- The text that the variable of a value is set to. -/
def text? (env : Environment) (k : ConfigKey) : Option String :=
  if k ∈ overridable then env.get? (Environment.variableName k.capitals) else none

/-- **What the text of a variable says.** -/
def Means (s : String) : (k : ConfigKey) → k.Value → Prop
  | port, v => v = some s
  | baud, v => ∃ n < 2 ^ 32, Text.SpellsNumber s n ∧ v = UInt32.ofNat n
  | timeout, v => ∃ n < 2 ^ 64, Text.SpellsNumber s n ∧ v = UInt64.ofNat n
  | inputFormat, v => Text.IsInAnyCase s (Named.name v)
  | terminator, v => v = s
  | level, v => v = s
  | logFormat, v => Text.IsInAnyCase s (Named.name v)
  | dataBits, _ | parity, _ | stopBits, _ | flowControl, _ | aliases, _ => False

/-- What is said of the text of an invalid variable. -/
def complaint (s : String) : ConfigKey → String
  | baud => "Invalid baud rate"
  | timeout => "Invalid timeout"
  | inputFormat => "Expected 'text' or 'hex'"
  | logFormat => "unknown log format '" ++ lowercase s ++ "'"
  | _ => ""

/-- The fault of an invalid variable. -/
def fault (k : ConfigKey) (s : String) : ConfigError :=
  .environment (Environment.variableName k.capitals) (k.complaint s)

/-- **A variable is set to a text that says nothing.** -/
def IsInvalid (env : Environment) (k : ConfigKey) : Prop :=
  ∃ s, k.text? env = some s ∧ ∀ v, ¬ k.Means s v

/-- **The first invalid variable**, and its text. -/
structure IsFirstInvalid (env : Environment) (k : ConfigKey) (s : String) : Prop where
  text : k.text? env = some s
  says_nothing : ∀ v, ¬ k.Means s v
  first : ∃ front back, checked = front ++ k :: back ∧ ∀ j ∈ front, ¬ j.IsInvalid env

/-- **What a value is with its variable**: what this says, or the default where it is not set. -/
def IsGiven (env : Environment) (k : ConfigKey) (v : k.Value) : Prop :=
  match k.text? env with
  | some s => k.Means s v
  | none => v = Config.get {} k

variable {env : Environment} {k : ConfigKey}

/-! ### Reading -/

/-- What is found is given as it is, and otherwise there is a complaint. -/
theorem elim_eq_ok_iff {α β : Type} {o : Option α} {why : String} {f : α → β} {v : β} :
    o.elim (.error why : Except String β) (fun x => .ok (f x)) = .ok v ↔
      ∃ x, o = some x ∧ v = f x := by
  cases o <;> simp [eq_comm]

theorem eq_of_elim_eq_error {α β : Type} {o : Option α} {why e : String} {f : α → β}
    (h : o.elim (.error why : Except String β) (fun x => .ok (f x)) = .error e) : e = why := by
  cases o with
  | none => exact (Except.error.inj h).symm
  | some x => cases h

theorem readBaud_eq (s : String) : Environment.readBaud s =
    (Text.naturalBelow? UInt32.size s).elim (.error "Invalid baud rate") fun n =>
      .ok (UInt32.ofNat n) := by
  unfold Environment.readBaud
  cases Text.naturalBelow? UInt32.size s <;> rfl

theorem readTimeout_eq (s : String) : Environment.readTimeout s =
    (Text.naturalBelow? UInt64.size s).elim (.error "Invalid timeout") fun n =>
      .ok (UInt64.ofNat n) := by
  unfold Environment.readTimeout
  cases Text.naturalBelow? UInt64.size s <;> rfl

theorem readFormat_eq (s : String) : Environment.readFormat s =
    (Named.ofName? (lowercase s)).elim (.error "Expected 'text' or 'hex'") fun f => .ok f := by
  unfold Environment.readFormat
  cases (Named.ofName? (lowercase s) : Option InputFormat) <;> rfl

theorem ofText_eq (s : String) : LogFormat.ofText s =
    (Named.ofName? (lowercase s)).elim (.error ("unknown log format '" ++ lowercase s ++ "'"))
      fun f => .ok f := by
  unfold LogFormat.ofText
  cases (Named.ofName? (lowercase s) : Option LogFormat) <;> rfl

/-- A number below a bound is read as what it spells. -/
theorem number_iff {α : Type} {s : String} {bound : ℕ} {ofNat : ℕ → α} {v : α} :
    (∃ n, Text.naturalBelow? bound s = some n ∧ v = ofNat n) ↔
      ∃ n < bound, Text.SpellsNumber s n ∧ v = ofNat n := by
  refine exists_congr fun n => ?_
  rw [Text.naturalBelow_eq_some_iff, and_assoc, and_left_comm]

/-- **A variable is read as what its text says.** -/
theorem readVariable_eq_ok_iff {read : String → Except String k.Value}
    (hr : k.readVariable? = some read) {s : String} {v : k.Value} :
    read s = .ok v ↔ k.Means s v := by
  cases k with
  | port | terminator | level =>
    obtain rfl := Option.some.inj hr
    simp [Means, eq_comm]
  | baud =>
    obtain rfl := Option.some.inj hr
    rw [readBaud_eq, elim_eq_ok_iff, number_iff]
    rfl
  | timeout =>
    obtain rfl := Option.some.inj hr
    rw [readTimeout_eq, elim_eq_ok_iff, number_iff]
    rfl
  | inputFormat =>
    obtain rfl := Option.some.inj hr
    have hnames : ∀ f : InputFormat, (Named.name f).toList.all (· ∈ Text.letters) := by
      intro f
      cases f <;> decide
    rw [readFormat_eq, elim_eq_ok_iff, exists_eq_right', Named.ofName_lowercase_eq_some_iff hnames]
    rfl
  | logFormat =>
    obtain rfl := Option.some.inj hr
    have hnames : ∀ f : LogFormat, (Named.name f).toList.all (· ∈ Text.letters) := by
      intro f
      cases f <;> decide
    rw [ofText_eq, elim_eq_ok_iff, exists_eq_right', Named.ofName_lowercase_eq_some_iff hnames]
    rfl
  | dataBits | parity | stopBits | flowControl | aliases => cases hr

/-- A variable that cannot be read is complained of. -/
theorem eq_complaint {read : String → Except String k.Value} (hr : k.readVariable? = some read)
    {s why : String} (h : read s = .error why) : why = k.complaint s := by
  cases k with
  | port | terminator | level =>
    obtain rfl := Option.some.inj hr
    cases h
  | baud =>
    obtain rfl := Option.some.inj hr
    exact eq_of_elim_eq_error ((readBaud_eq s).symm.trans h)
  | timeout =>
    obtain rfl := Option.some.inj hr
    exact eq_of_elim_eq_error ((readTimeout_eq s).symm.trans h)
  | inputFormat =>
    obtain rfl := Option.some.inj hr
    exact eq_of_elim_eq_error ((readFormat_eq s).symm.trans h)
  | logFormat =>
    obtain rfl := Option.some.inj hr
    exact eq_of_elim_eq_error ((ofText_eq s).symm.trans h)
  | dataBits | parity | stopBits | flowControl | aliases => cases hr

/-- A variable that is set is read. -/
theorem fromVariable_of_text {s : String} (hs : k.text? env = some s) :
    ∃ read, k.readVariable? = some read ∧ k.fromVariable? env = some (read s) := by
  unfold text? at hs
  split at hs
  · next hk =>
    have hread : ∀ j ∈ overridable, j.readVariable?.isSome = true := by decide
    obtain ⟨read, hr⟩ := Option.isSome_iff_exists.1 (hread k hk)
    exact ⟨read, hr, by rw [fromVariable?, hr, Option.bind_some, hs, Option.map_some]⟩
  · cases hs

theorem fromVariable_of_no_text (hs : k.text? env = none) : k.fromVariable? env = none := by
  unfold text? at hs
  split at hs
  · rw [fromVariable?, hs]
    cases k.readVariable? <;> rfl
  · next hk =>
    have hnone : k.readVariable? = none := by
      cases k with
      | port | baud | timeout | inputFormat | terminator | level
      | logFormat => exact absurd (by decide) hk
      | dataBits | parity | stopBits | flowControl | aliases => rfl
    rw [fromVariable?, hnone, Option.bind_none]

/-! ### Faults -/

/-- The fault of a variable, if it cannot be read. -/
def failure? (env : Environment) (k : ConfigKey) : Option ConfigError :=
  match k.fromVariable? env with
  | some (.error why) => some (.environment (Environment.variableName k.capitals) why)
  | _ => none

/-- **A variable has a fault if it is invalid**, and this is what is said of its text. -/
theorem failure_eq_some_iff {e : ConfigError} :
    k.failure? env = some e ↔ ∃ s, k.text? env = some s ∧ (∀ v, ¬ k.Means s v) ∧ e = k.fault s := by
  unfold failure?
  cases hs : k.text? env with
  | none => simp [fromVariable_of_no_text hs]
  | some s =>
    obtain ⟨read, hr, hfrom⟩ := fromVariable_of_text hs
    have hmeans : ∀ v, read s = .ok v ↔ k.Means s v := fun v => readVariable_eq_ok_iff hr
    rw [hfrom]
    cases hread : read s with
    | ok v => simpa using fun h => absurd ((hmeans v).1 hread) (h v)
    | error why =>
      have hnone : ∀ v, ¬ k.Means s v := fun v hv => by
        rw [(hmeans v).2 hv] at hread
        cases hread
      simp [hnone, fault, eq_complaint hr hread, eq_comm]

theorem failure_eq_none_iff : k.failure? env = none ↔ ¬ k.IsInvalid env := by
  rw [Option.eq_none_iff_forall_ne_some, IsInvalid]
  constructor
  · rintro h ⟨s, hs, hnone⟩
    exact h _ (failure_eq_some_iff.2 ⟨s, hs, hnone, rfl⟩)
  · intro h e he
    obtain ⟨s, hs, hnone, -⟩ := failure_eq_some_iff.1 he
    exact h ⟨s, hs, hnone⟩

/-- The first fault is that of the first invalid variable. -/
theorem findSome_failure_eq_some_iff {e : ConfigError} :
    checked.findSome? (failure? env) = some e ↔ ∃ k s, IsFirstInvalid env k s ∧ e = k.fault s := by
  rw [List.findSome?_eq_some_iff]
  constructor
  · rintro ⟨front, k, back, hsplit, hk, hfront⟩
    obtain ⟨s, hs, hnone, rfl⟩ := failure_eq_some_iff.1 hk
    exact ⟨k, s, ⟨hs, hnone, front, back, hsplit, fun j hj => failure_eq_none_iff.1 (hfront j hj)⟩,
      rfl⟩
  · rintro ⟨k, s, ⟨hs, hnone, front, back, hsplit, hfront⟩, rfl⟩
    exact ⟨front, k, back, hsplit, failure_eq_some_iff.2 ⟨s, hs, hnone, rfl⟩,
      fun j hj => failure_eq_none_iff.2 (hfront j hj)⟩

/-- There is a first fault if there is an invalid variable. -/
theorem isSome_findSome_failure_iff :
    (checked.findSome? (failure? env)).isSome = true ↔ ∃ k ∈ checked, k.IsInvalid env := by
  rw [List.findSome?_isSome_iff]
  refine exists_congr fun k => and_congr_right fun _ => ?_
  rw [← not_iff_not, ← failure_eq_none_iff]
  simp

end ConfigKey

theorem error_bind {ε α β : Type} (e : ε) (f : α → Except ε β) :
    (Except.error e >>= f) = .error e := rfl

theorem ok_bind {ε α β : Type} (a : α) (f : α → Except ε β) : (Except.ok a >>= f) = f a := rfl

/-- A file whose configuration is read exists. -/
theorem Config.exists_of_readFile {fs : Files} {path : String} {c : Config}
    (h : readFile fs path = .ok c) :
    fs.exists? path = true := by
  rw [Files.exists?, Option.isSome_iff_ne_none]
  intro hnone
  simp only [readFile, Files.read, hnone] at h
  cases h

namespace Environment

variable {env env' : Environment} {c : Config} {e : ConfigError}

/-- What an override does: it fails with the fault of its variable, or it gives a value. -/
theorem override_cases (env : Environment) {k : ConfigKey} {read : String → Except String k.Value}
    (hr : k.readVariable? = some read) (key : String) (hk : k.capitals = key) (old : k.Value) :
    (∃ e, k.failure? env = some e ∧ env.override key read old = .error e) ∨
      k.failure? env = none ∧ ∃ v, env.override key read old = .ok v := by
  subst hk
  have hfrom : k.fromVariable? env = (env.get? (variableName k.capitals)).map read := by
    rw [ConfigKey.fromVariable?, hr, Option.bind_some]
  unfold ConfigKey.failure? override
  rw [hfrom]
  cases env.get? (variableName k.capitals) with
  | none => exact .inr ⟨rfl, old, rfl⟩
  | some s =>
    cases hread : read s with
    | ok v => simp [hread]
    | error why => simp [hread]

/-- An override that takes any text gives a value. -/
theorem override_of_any {α : Type} {read : String → Except String α} {f : String → α}
    (hread : ∀ s, read s = .ok (f s)) (env : Environment) (key : String) (old : α) :
    ∃ v, env.override key read old = .ok v := by
  unfold override
  cases env.get? (variableName key) with
  | none => exact ⟨old, rfl⟩
  | some s => exact ⟨f s, by simp [hread]⟩

/-- **The first fault of a variable decides**, whatever the configuration is. -/
theorem apply_eq_error_iff_findSome :
    env.apply c = .error e ↔ ConfigKey.checked.findSome? (ConfigKey.failure? env) = some e := by
  obtain ⟨port, hport⟩ := override_of_any (f := some) (fun _ => rfl) env "SERIAL_PORT" c.serial.port
  obtain ⟨terminator, hterminator⟩ :=
    override_of_any (f := id) (fun _ => rfl) env "INPUT_TERMINATOR" c.input.terminator
  obtain ⟨level, hlevel⟩ :=
    override_of_any (f := id) (fun _ => rfl) env "LOGGING_LEVEL" c.logging.level
  have hbaud := override_cases env (k := .baud) rfl "SERIAL_BAUD" (by decide) c.serial.baud
  have htimeout :=
    override_cases env (k := .timeout) rfl "SERIAL_TIMEOUT_MS" (by decide) c.serial.timeoutMs
  have hformat :=
    override_cases env (k := .inputFormat) rfl "INPUT_FORMAT" (by decide) c.input.format
  have hlogFormat :=
    override_cases env (k := .logFormat) rfl "LOGGING_FORMAT" (by decide) c.logging.format
  simp only [id] at hterminator hlevel
  unfold apply
  simp only [ConfigKey.checked, List.findSome?_cons, List.findSome?_nil]
  rw [hport, ok_bind]
  -- the overrides are made one by one, up to the first that fails
  rcases hbaud with ⟨e₁, he, hbaud⟩ | ⟨he, baud, hbaud⟩ <;> rw [hbaud, he]
  · rw [error_bind]; simp
  rw [ok_bind]
  rcases htimeout with ⟨e₁, he, htimeout⟩ | ⟨he, timeoutMs, htimeout⟩ <;> rw [htimeout, he]
  · rw [error_bind]; simp
  rw [ok_bind]
  rcases hformat with ⟨e₁, he, hformat⟩ | ⟨he, format, hformat⟩ <;> rw [hformat, he]
  · rw [error_bind]; simp
  rw [ok_bind, hterminator, ok_bind, hlevel, ok_bind]
  rcases hlogFormat with ⟨e₁, he, hlogFormat⟩ | ⟨he, logFormat, hlogFormat⟩ <;> rw [hlogFormat, he]
  · rw [error_bind]; simp
  · rw [ok_bind]; exact ⟨nofun, nofun⟩

/-- **The first invalid variable decides the fault.** -/
theorem apply_eq_error_iff :
    env.apply c = .error e ↔ ∃ k s, ConfigKey.IsFirstInvalid env k s ∧ e = k.fault s := by
  rw [apply_eq_error_iff_findSome, ConfigKey.findSome_failure_eq_some_iff]

/-- **The overrides fail if a variable is invalid.** -/
theorem exists_apply_eq_error_iff :
    (∃ e, env.apply c = .error e) ↔ ∃ k ∈ ConfigKey.checked, k.IsInvalid env := by
  rw [← ConfigKey.isSome_findSome_failure_iff, Option.isSome_iff_exists]
  exact exists_congr fun e => apply_eq_error_iff_findSome

/-- **With all overrides, each value is the one that is given.** -/
theorem get_eq_iff_isGiven {c : Config} (h : env.apply {} = .ok c) (k : ConfigKey) (v : k.Value) :
    c.get k = v ↔ k.IsGiven env v := by
  have hget := Config.get_of_apply h k
  unfold ConfigKey.IsGiven
  cases hs : k.text? env with
  | none =>
    rw [ConfigKey.fromVariable_of_no_text hs] at hget
    rcases hget with ⟨-, hdefault⟩ | hsome
    · simp only [hdefault, eq_comm]
    · cases hsome
  | some s =>
    obtain ⟨read, hr, hfrom⟩ := ConfigKey.fromVariable_of_text hs
    rw [hfrom] at hget
    rcases hget with ⟨hnone, -⟩ | hsome
    · cases hnone
    · have hread := Option.some.inj hsome
      simp only [← ConfigKey.readVariable_eq_ok_iff hr, hread, Except.ok.injEq]

/-! ### Variables that are not text -/

/-- The environment without a variable. -/
def unset (env : Environment) (name : String) : Environment :=
  { vars := env.vars.filter (·.1 != name) }

theorem lookup_unset (vars : List (String × Bytes)) (name other : String) :
    (vars.filter (·.1 != name)).lookup other =
      if other = name then none else vars.lookup other := by
  induction vars with
  | nil => simp
  | cons v vars ih =>
    obtain ⟨key, value⟩ := v
    by_cases hother : other = name
    · rw [if_pos hother] at ih ⊢
      by_cases hkey : key = name
      · rwa [List.filter_cons_of_neg (by simp [hkey])]
      · have hne : (other == key) = false := by rw [hother]; simpa using Ne.symm hkey
        rwa [List.filter_cons_of_pos (by simpa using hkey), List.lookup_cons, hne]
    · rw [if_neg hother] at ih ⊢
      by_cases hkey : key = name
      · have hne : (other == key) = false := by rw [hkey]; simpa using hother
        rwa [List.filter_cons_of_neg (by simp [hkey]), List.lookup_cons, hne]
      · rw [List.filter_cons_of_pos (by simpa using hkey), List.lookup_cons, List.lookup_cons, ih]

/-- Without a variable that is not text, all variables are set as before. -/
theorem get_unset {name : String} (hnone : env.get? name = none) (other : String) :
    (env.unset name).get? other = env.get? other := by
  rw [get?, unset, lookup_unset]
  split
  · next hother => rw [hother, hnone, Option.bind_none]
  · rfl

theorem apply_congr (h : ∀ name, env'.get? name = env.get? name) (c : Config) :
    env'.apply c = env.apply c := by
  simp only [apply, override, h]

theorem path_congr (h : ∀ name, env'.get? name = env.get? name) (fs : Files) :
    Config.path? env' fs = Config.path? env fs := by
  simp only [Config.path?, Config.candidates, Config.userFile?, h]

/-! ### All or none -/

theorem loadFile_of_apply_error (h : ∀ c, env.apply c = .error e) {fs : Files} {path : String}
    (hread : Config.readFile fs path = .ok c) : Config.loadFile env fs path = .error e := by
  simp only [Config.loadFile, hread, Config.finish, h]
  rfl

/-- **Overrides are made all together or not at all.** They fail if a variable for the rate, the
timeout, the format of the input or that of the log is invalid, and the fault is that of the first
of these, whatever the configuration is. Then the defaults stay as they are, and a configuration
that is in a file, or the defaults where there is none, is refused with this fault, whether or not
it can be used. Otherwise the defaults come with each variable that is set, and with nothing else. A
variable that is set to something other than text counts as not set. -/
theorem overrides_all_or_none (env : Environment) :
    (∀ c, (∃ e, env.apply c = .error e) ↔ ∃ k ∈ ConfigKey.checked, k.IsInvalid env) ∧
      (∀ c e, env.apply c = .error e ↔ ∃ k s, ConfigKey.IsFirstInvalid env k s ∧ e = k.fault s) ∧
      (∀ k s, ConfigKey.IsFirstInvalid env k s → Config.withDefaults env = {} ∧
        (∀ fs path c, Config.readFile fs path = .ok c →
          Config.loadFrom env fs path = .error (k.fault s)) ∧
        ∀ fs, (∀ path, Config.path? env fs = some path → ∃ c, Config.readFile fs path = .ok c) →
          Config.load env fs = .error (k.fault s)) ∧
      ((∀ k ∈ ConfigKey.checked, ¬ k.IsInvalid env) → (Config.withDefaults env).path = none ∧
        ∀ (k : ConfigKey) (v : k.Value), (Config.withDefaults env).config.get k = v ↔
          k.IsGiven env v) ∧
      ∀ name value, env.vars.lookup name = some value → ¬ Text.IsUtf8 value →
        (∀ c, (env.unset name).apply c = env.apply c) ∧
          Config.withDefaults (env.unset name) = Config.withDefaults env ∧
          (∀ fs, Config.load (env.unset name) fs = Config.load env fs) ∧
          ∀ fs path, Config.loadFrom (env.unset name) fs path = Config.loadFrom env fs path := by
  refine ⟨fun c => exists_apply_eq_error_iff, fun c e => apply_eq_error_iff, fun k s h => ?_,
    fun hvalid => ?_, fun name value hvalue htext => ?_⟩
  · have happly : ∀ c, env.apply c = .error (k.fault s) :=
      fun c => apply_eq_error_iff.2 ⟨k, s, h, rfl⟩
    refine ⟨by simp only [Config.withDefaults, happly], fun fs path c hread => ?_,
      fun fs hread => ?_⟩
    · rw [Config.loadFrom, if_pos (Config.exists_of_readFile hread),
        loadFile_of_apply_error happly hread]
    · unfold Config.load
      cases hp : Config.path? env fs with
      | none =>
        simp only [Config.finish, happly]
        rfl
      | some path =>
        obtain ⟨c, hc⟩ := hread path hp
        exact loadFile_of_apply_error happly hc
  · cases happly : env.apply {} with
    | error e =>
      obtain ⟨k, hk, hinvalid⟩ := exists_apply_eq_error_iff.1 ⟨e, happly⟩
      exact absurd hinvalid (hvalid k hk)
    | ok c =>
      have hdefaults : Config.withDefaults env = ⟨none, c⟩ := by
        simp only [Config.withDefaults, happly]
      rw [hdefaults]
      exact ⟨rfl, get_eq_iff_isGiven happly⟩
  · have hnone : env.get? name = none := by
      rw [get?, hvalue, Option.bind_some, ← Option.not_isSome_iff_eq_none, Text.isSome_ofUtf8_iff]
      exact htext
    have hget := get_unset hnone
    have happly := apply_congr hget
    have hload : ∀ fs path, Config.loadFile (env.unset name) fs path =
        Config.loadFile env fs path := fun fs path => by
      simp only [Config.loadFile, Config.finish, happly]
    refine ⟨happly, by simp only [Config.withDefaults, happly], fun fs => ?_, fun fs path => ?_⟩
    · simp only [Config.load, path_congr hget, hload, Config.finish, happly]
    · simp only [Config.loadFrom, hload]

/-- A port that would do, a timeout that is too long, and no such log format. -/
def muddled : Environment :=
  { vars :=
    [("SERIAL_WRITER_SERIAL_PORT", Text.utf8 "P"),
      ("SERIAL_WRITER_SERIAL_BAUD", Text.utf8 "+57600"),
      ("SERIAL_WRITER_SERIAL_TIMEOUT_MS", Text.utf8 "18446744073709551616"),
      ("SERIAL_WRITER_LOGGING_FORMAT", Text.utf8 "xml")] }

/-- A rate, a format in mixed case, and a level that is not text. -/
def unmuddled : Environment :=
  { vars :=
    [("SERIAL_WRITER_SERIAL_BAUD", Text.utf8 "+57600"),
      ("SERIAL_WRITER_INPUT_FORMAT", Text.utf8 "HeX"), ("SERIAL_WRITER_LOGGING_LEVEL", [255])] }

/-- A local file with a rate that cannot be used. -/
def zeroRate : Files :=
  { nodes := [(["serial-writer.toml"], .file (Text.utf8 "[serial]\nbaud = 0\n"))] }

theorem overrides_all_or_none_muddled :
    ConfigKey.IsFirstInvalid muddled .timeout "18446744073709551616" ∧
      Config.withDefaults muddled = {} ∧
      Config.readFile zeroRate "serial-writer.toml" = .ok { serial := { baud := 0 } } ∧
      Config.loadFrom muddled zeroRate "serial-writer.toml" =
        .error (.environment "SERIAL_WRITER_SERIAL_TIMEOUT_MS" "Invalid timeout") ∧
      Config.path? muddled zeroRate = some "serial-writer.toml" ∧
      Config.load muddled zeroRate =
        .error (.environment "SERIAL_WRITER_SERIAL_TIMEOUT_MS" "Invalid timeout") ∧
      (∀ k ∈ ConfigKey.checked, ¬ k.IsInvalid unmuddled) ∧
      ConfigKey.IsGiven unmuddled .baud 57600 ∧ ConfigKey.IsGiven unmuddled .inputFormat .hex ∧
      ConfigKey.IsGiven unmuddled .level "info" ∧
      unmuddled.vars.lookup "SERIAL_WRITER_LOGGING_LEVEL" = some [255] ∧ ¬ Text.IsUtf8 [255] ∧
      Config.withDefaults (unmuddled.unset "SERIAL_WRITER_LOGGING_LEVEL") =
        Config.withDefaults unmuddled := by
  have hfirst : ConfigKey.IsFirstInvalid muddled .timeout "18446744073709551616" := by
    refine ⟨by decide +kernel, fun v hv => ?_, [.baud], [.inputFormat, .logFormat], rfl, ?_⟩
    · have hread := (ConfigKey.readVariable_eq_ok_iff (k := .timeout) rfl).2 hv
      cases hread
    · intro j hj
      obtain rfl := List.mem_singleton.1 hj
      exact ConfigKey.failure_eq_none_iff.1 (by decide +kernel)
  have hread : Config.readFile zeroRate "serial-writer.toml" = .ok { serial := { baud := 0 } } := by
    rfl
  have hpath : Config.path? muddled zeroRate = some "serial-writer.toml" := by decide +kernel
  have hvalid : ∀ k ∈ ConfigKey.checked, ¬ k.IsInvalid unmuddled := by
    have hnone : ∀ k ∈ ConfigKey.checked, k.failure? unmuddled = none := by decide +kernel
    exact fun k hk => ConfigKey.failure_eq_none_iff.1 (hnone k hk)
  have hbytes : ¬ Text.IsUtf8 [255] := by decide +kernel
  obtain ⟨-, -, hall, -, -⟩ := overrides_all_or_none muddled
  obtain ⟨hdefaults, hloadFrom, hload⟩ := hall _ _ hfirst
  obtain ⟨-, -, -, hnone, hunset⟩ := overrides_all_or_none unmuddled
  obtain ⟨-, hgiven⟩ := hnone hvalid
  obtain ⟨-, hsame, -, -⟩ := hunset "SERIAL_WRITER_LOGGING_LEVEL" [255] rfl hbytes
  refine ⟨hfirst, hdefaults, hread, hloadFrom _ _ _ hread, hpath, hload _ fun path h => ?_, hvalid,
    (hgiven .baud _).1 (by decide +kernel), (hgiven .inputFormat _).1 (by decide +kernel),
    (hgiven .level _).1 (by decide +kernel), rfl, hbytes, hsame⟩
  obtain rfl := Option.some.inj (hpath.symm.trans h)
  exact ⟨_, hread⟩

end Environment

end SerialRelay

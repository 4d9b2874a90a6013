import SerialRelay.App.Run
import SerialRelay.Proofs.Pump.InputLines
import SerialRelay.Proofs.Relay.Accounts

/-!
# How a relaying run ends

The exit code of a run speaks of its writes: it is zero unless one has failed. Behind it the pump
has ended too, and has dealt with every line before the first one that is not UTF-8. That it did not
get further shows nowhere but in the log.

* `Relay.deeds`: what the pump does along a schedule, and `Relay.follow_records` for what the steps
  keep of it.
* `Relay.completes_of_follow`: it is what the lines ask for, as long as no write fails.
* `Job.exitCode_ending`: the exit code of a job.
* `exitCode_zero_of_relaying`: what exit code zero says about the input.
-/

namespace SerialRelay

namespace Relay

variable {W : Type} {site : Site W} {cfg : InputSettings}

/-- What the pump does in a turn. -/
def deed? (site : Site W) (cfg : InputSettings) (r : Relay W) : Turn → Option Deed
  | .pump => r.pump.deed? cfg (site.openPort r.world r.handles) r.link
  | .writer => none

/-- **What the pump does along a schedule**, as far as it can be followed. -/
def deeds (site : Site W) (cfg : InputSettings) (s : List Turn) (r : Relay W) : List Deed :=
  (trail (move site cfg) s r).filterMap fun q => q.1.deed? site cfg q.2

variable {kept : Bool} {initial : Option Handle} {lines : List Bytes} {done : List Deed}
  {r r' : Relay W}

/-- **What each step keeps of a relay and its deeds**, a schedule keeps. -/
theorem follow_records {P : Relay W → List Deed → Prop}
    (hstep : ∀ q q' ds t, P q ds → q.move site cfg t = some q' →
      P q' (ds ++ (q.deed? site cfg t).toList))
    {s : List Turn} (h₀ : P r done) (h : r.follow site cfg s = some r') :
    P r' (done ++ r.deeds site cfg s) := by
  refine foldlM_trail
    (P := fun q past => P q (done ++ past.filterMap fun p => p.1.deed? site cfg p.2)) ?_ ?_ h
  · intro q q' past t _ hq hmove
    rw [filterMap_concat, ← List.append_assoc]
    exact hstep q q' _ t hq hmove
  · rwa [List.filterMap_nil, List.append_nil]

/-- The output only grows. -/
theorem output_prefix_of_move {t : Turn} (h : r.move site cfg t = some r') :
    r.output <+: r'.output := by
  cases t with
  | pump =>
    obtain ⟨m, -, rfl⟩ := moves_of_stepPump h
    exact List.prefix_rfl
  | writer =>
    cases writerSteps_of_step h with
    | took hp he => exact List.prefix_rfl
    | landed hp => exact List.prefix_append _ _
    | left hp => exact List.prefix_rfl

/-- Only its own turn changes a pump. -/
theorem pump_of_stepWriter (h : r.stepWriter site = some r') : r'.pump = r.pump := by
  cases writerSteps_of_step h with
  | took hp he => rfl
  | landed hp => rfl
  | left hp => rfl

/-- **A step adds what the pump does**, as long as no write has failed: a pump that moves then still
has both its receivers. -/
theorem completes_of_move {t : Turn} (ha : r.Accounts kept initial)
    (hc : r.pump.Completes cfg lines done) (hok : ∀ e, Item.failed e ∉ r.output)
    (h : r.move site cfg t = some r') :
    r'.pump.Completes cfg lines (done ++ (r.deed? site cfg t).toList) := by
  cases t with
  | pump =>
    obtain ⟨m, hm, rfl⟩ := moves_of_stepPump h
    have hgoes := Pump.isOver_of_moves hm
    -- a writer that ends without a failure has waited for the pump
    have hthere : r.writer.phase ≠ .ended := by
      intro hend
      rw [ha.ended hend hok] at hgoes
      contradiction
    obtain ⟨hbuffers, hports⟩ := ha.wired.receivers hthere
    exact hc.move hbuffers hports hm
  | writer =>
    have hnone : done ++ (r.deed? site cfg .writer).toList = done := List.append_nil _
    rw [hnone, pump_of_stepWriter h]
    exact hc

/-- **Along a schedule without a failed write the pump does what its lines ask for.** -/
theorem completes_of_follow {s : List Turn} (ha : r.Accounts kept initial)
    (hc : r.pump.Completes cfg lines done) (h : r.follow site cfg s = some r')
    (hok : ∀ e, Item.failed e ∉ r'.output) :
    r'.pump.Completes cfg lines (done ++ r.deeds site cfg s) := by
  refine (follow_records (P := fun q ds => q.Accounts kept initial ∧
    ((∀ e, Item.failed e ∉ q.output) → q.pump.Completes cfg lines ds)) ?_ ⟨ha, fun _ => hc⟩ h).2 hok
  rintro q q' ds t ⟨haccounts, hcompletes⟩ hmove
  refine ⟨haccounts.move hmove, fun hnext => ?_⟩
  -- the output only grows, so no write has failed before either
  have hbefore : ∀ e, Item.failed e ∉ q.output :=
    fun e he => hnext e ((output_prefix_of_move hmove).subset he)
  exact completes_of_move haccounts (hcompletes hbefore) hbefore hmove

end Relay

/-- There is a failure among items just if one of them is. -/
theorem failure_eq_none_iff {items : List Item} :
    failure? items = none ↔ ∀ e, Item.failed e ∉ items := by
  rw [failure?, List.findSome?_eq_none_iff]
  constructor
  · intro h e he
    have hnone := h _ he
    cases hnone
  · intro h i hi
    cases i with
    | forwarded b => rfl
    | failed e => exact absurd hi (h e)

namespace Job

variable {j : Job} {fs : Files}

/-- **The exit code of a job** is zero just if no write has failed. -/
theorem exitCode_ending (r : Relay Terminals) :
    (j.ending fs r).exitCode = 0 ↔ ∀ e, Item.failed e ∉ r.output := by
  rw [← failure_eq_none_iff, Ending.exitCode, ending]
  cases failure? r.output with
  | none => exact iff_of_true rfl rfl
  | some e => exact iff_of_false (by simp [Fault.exitCode, AppError.exitCode]) (by simp)

/-- A job whose exit code is zero has come to its end in one of the schedules of its relay. -/
theorem perform_follows {ts : Terminals} {input : Bytes}
    (h : (j.perform fs ts input).exitCode = 0) :
    ∃ initial s r, j.initial.mapM (fs.openTerminal []) = .ok initial ∧
      (relay input initial ts).follow (j.site fs) j.input s = some r ∧
      r.IsComplete (j.site fs) j.input ∧
      j.perform fs ts input = j.ending fs r := by
  unfold perform at h ⊢
  cases hopen : j.initial.mapM (fs.openTerminal []) with
  | error e => simp [hopen, Ending.exitCode, Fault.exitCode, AppError.exitCode] at h
  | ok initial =>
    obtain ⟨s, hs, hcomplete⟩ := Relay.run_follows (j.site fs) j.input (relay input initial ts)
    exact ⟨initial, s, _, rfl, hs, hcomplete, rfl⟩

/-- **A relay at its end without a failed write** has a pump at its end, and what the pump has done
is what the lines before the first one that is not UTF-8 ask for. -/
theorem completes_of_isComplete {W : Type} {site : Site W} {cfg : InputSettings} {input : Bytes}
    {initial : Option Handle} {world : W} {s : List Turn} {r : Relay W}
    (h : (relay input initial world).follow site cfg s = some r) (hcomplete : r.IsComplete site cfg)
    (hok : ∀ e, Item.failed e ∉ r.output) :
    r.pump.isOver = true ∧
      r.pump.Completes cfg (splitLines input) ((relay input initial world).deeds site cfg s) := by
  have hstart : (relay input initial world).Accounts false initial :=
    Relay.start_accounts (by decide) false input initial world
  have hend := Relay.accounts_of_follow hstart h
  have hended := hend.wired.ended_of_isComplete hcomplete
  refine ⟨hend.ended hended hok, ?_⟩
  exact Relay.completes_of_follow hstart (Pump.ofInput_completes cfg input) h hok

end Job

/-- **What exit code zero says about the input.** A relaying run whose exit code is zero has come to
its end in one of the schedules of its relay. In every complete schedule the exit code is zero just
if no write has failed. The pump has ended then. It has done, in their order, what the lines before
the first one that is not UTF-8 ask for, and nothing else; so the input was read to its end just if
every line is UTF-8. -/
theorem exitCode_zero_of_relaying {args : List String} {env : Environment} {fs : Files}
    {ts : Terminals} {input : Bytes} {a : Arguments} {j : Job} (ha : Arguments.parse args = .ok a)
    (ht : a.task env fs = .ok (.relay j)) :
    ((run args env fs ts input).exitCode = 0 →
      ∃ initial s r, j.initial.mapM (fs.openTerminal []) = .ok initial ∧
        (Job.relay (a.inputLeft env fs input) initial ts).follow (j.site fs) j.input s = some r ∧
        r.IsComplete (j.site fs) j.input ∧ run args env fs ts input = j.ending fs r) ∧
      ∀ initial s r,
        (Job.relay (a.inputLeft env fs input) initial ts).follow (j.site fs) j.input s = some r →
        r.IsComplete (j.site fs) j.input →
        ((j.ending fs r).exitCode = 0 ↔ ∀ e, Item.failed e ∉ r.output) ∧
          ((j.ending fs r).exitCode = 0 → ∃ texts : List String,
            texts.map Text.utf8 =
              (inputLines (a.inputLeft env fs input)).takeWhile (Text.IsUtf8 ·) ∧
            ((Job.relay (a.inputLeft env fs input) initial ts).deeds (j.site fs) j.input s).map
                Deed.request = texts.map j.input.read ∧
            r.pump.summary.lines = texts.length ∧
            (r.pump.phase = .finished ↔
              ∀ line ∈ inputLines (a.inputLeft env fs input), Text.IsUtf8 line) ∧
            (r.pump.phase = .broken ↔
              ∃ line ∈ inputLines (a.inputLeft env fs input), ¬ Text.IsUtf8 line)) := by
  have hrun : run args env fs ts input = j.perform fs ts (a.inputLeft env fs input) := by
    simp only [run, ha, ht, Task.perform]
  refine ⟨fun h0 => ?_, fun initial s r hs hcomplete => ⟨Job.exitCode_ending r, fun h0 => ?_⟩⟩
  · rw [hrun] at h0 ⊢
    exact Job.perform_follows h0
  · obtain ⟨hover, hdone⟩ := Job.completes_of_isComplete hs hcomplete ((Job.exitCode_ending r).1 h0)
    obtain ⟨texts, hutf8, hlength, htexts⟩ := exists_texts j.input (a.inputLeft env fs input)
    obtain ⟨hlines, hdeeds, -⟩ := hdone.of_isOver hover
    exact ⟨texts, hutf8, hdeeds.trans htexts, hlines.trans hlength.symm, hdone.phase_iff hover⟩

/-- One terminal, which has taken nothing. -/
def idleTerminal : Terminals := [{ name := "t" }]

/-- The files with that terminal among them. -/
def terminalFiles : Files := { nodes := [(["t"], .terminal 0)] }

/-- A line, one that is not UTF-8, and another line. -/
def unreadable : Bytes := Text.utf8 "y\n" ++ [255, 10] ++ Text.utf8 "x\n"

theorem exitCode_zero_of_relaying_unreadable :
    ∃ (j : Job) (r : Relay Terminals),
      Arguments.parse ["--port", "t"] = .ok { port := some "t" } ∧
      ({ port := some "t" } : Arguments).task {} terminalFiles = .ok (.relay j) ∧
      (run ["--port", "t"] {} terminalFiles idleTerminal unreadable).exitCode = 0 ∧
      run ["--port", "t"] {} terminalFiles idleTerminal unreadable = j.ending terminalFiles r ∧
      (∀ e, Item.failed e ∉ r.output) ∧ r.pump.phase = .broken ∧ r.pump.summary.lines = 1 := by
  have ha : Arguments.parse ["--port", "t"] = .ok { port := some "t" } := by decide +kernel
  have hleft : ({ port := some "t" } : Arguments).inputLeft {} terminalFiles unreadable =
      unreadable := by
    decide +kernel
  have h0 : (run ["--port", "t"] {} terminalFiles idleTerminal unreadable).exitCode = 0 := by
    decide +kernel
  obtain ⟨j, ht⟩ : ∃ j, ({ port := some "t" } : Arguments).task {} terminalFiles = .ok (.relay j) :=
    ⟨_, rfl⟩
  obtain ⟨hfollows, hends⟩ :=
    @exitCode_zero_of_relaying ["--port", "t"] {} terminalFiles idleTerminal unreadable _ j ha ht
  rw [hleft] at hfollows hends
  obtain ⟨initial, s, r, -, hs, hcomplete, hrun⟩ := hfollows h0
  obtain ⟨hcode, hzero⟩ := hends initial s r hs hcomplete
  have hj : (j.ending terminalFiles r).exitCode = 0 := by rw [← hrun, h0]
  obtain ⟨texts, hutf8, -, hlines, -, hbroken⟩ := hzero hj
  have hbad : ∃ line ∈ inputLines unreadable, ¬ Text.IsUtf8 line :=
    ⟨[255], by decide +kernel, by decide +kernel⟩
  have hone : ((inputLines unreadable).takeWhile (Text.IsUtf8 ·)).length = 1 := by decide +kernel
  rw [← hutf8, List.length_map, ← hlines] at hone
  exact ⟨j, r, ha, ht, h0, hrun, hcode.1 hj, hbroken.2 hbad, hone⟩

/-- A line behind one that is not UTF-8 is lost, and the exit code is zero. -/
theorem exitCode_zero_despite_unreadable :
    (run ["--port", "t"] {} terminalFiles idleTerminal (Text.utf8 "x\n")).terminals.map
        Terminal.received = [Text.utf8 "x\n"] ∧
      (∃ line ∈ inputLines ([255, 10] ++ Text.utf8 "x\n"), ¬ Text.IsUtf8 line) ∧
      (run ["--port", "t"] {} terminalFiles idleTerminal ([255, 10] ++ Text.utf8 "x\n")).exitCode =
        0 ∧
      (run ["--port", "t"] {} terminalFiles idleTerminal ([255, 10] ++ Text.utf8 "x\n")).terminals =
        idleTerminal := by
  refine ⟨by decide +kernel, ⟨[255], by decide +kernel, by decide +kernel⟩, by decide +kernel,
    by decide +kernel⟩

end SerialRelay

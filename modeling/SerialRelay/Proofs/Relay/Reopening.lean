import SerialRelay.Proofs.Relay.Endings

/-!
# Opening a device again

Where devices are exclusive, a name opens just if no handle on its device is alive. The handles that
are alive are the writer's and those that it has not taken yet; so a device opens again as soon as
the writer has taken a handle that was obtained behind the last one on it. The pump waits for that
only if it has sent a buffer in between.

* `Site.IsExclusive`: a name opens if no handle on its device is alive, and only then.
* `Relay.Holds`: the handles obtained are those that the writer has taken, in their order, and those
  that wait.
* `Relay.reopening`: when an opening succeeds.
-/

namespace SerialRelay

/-- **Devices that are exclusive.** A name stands for a device or for none. It opens if no handle on
its device is alive, and only then. -/
structure Site.IsExclusive {W : Type} (site : Site W) (place : String → Option ℕ) : Prop where
  opens : ∀ w alive name d, place name = some d → (∀ h ∈ alive, h.device ≠ d) →
    ∃ h, site.openPort w alive name = .ok h ∧ h.device = d
  refuses : ∀ w alive name d, place name = some d → (∃ h ∈ alive, h.device = d) →
    ∃ e, site.openPort w alive name = .error e
  nowhere : ∀ w alive name, place name = none → ∃ e, site.openPort w alive name = .error e

/-- The terminal that a path leads to. -/
def Files.terminal? (fs : Files) (path : String) : Option ℕ :=
  match fs.find? path with
  | some (.terminal i) => some i
  | _ => none

/-- **Terminals are exclusive.** -/
theorem Terminals.site_isExclusive (fs : Files) (timeout : Duration) (resolve : String → String) :
    (Terminals.site fs timeout resolve).IsExclusive fun name => fs.terminal? (resolve name) where
  opens w alive name d hd hfree := by
    unfold Files.terminal? at hd
    split at hd
    · next i hi =>
      obtain rfl := Option.some.inj hd
      have hnone : (alive.any fun h => h.device == i) = false := by simpa using hfree
      exact ⟨⟨i, resolve name⟩, by
        simp only [site, Files.openTerminal, hi, hnone, Bool.false_eq_true, if_false], rfl⟩
    · cases hd
  refuses w alive name d hd htaken := by
    unfold Files.terminal? at hd
    split at hd
    · next i hi =>
      obtain rfl := Option.some.inj hd
      have hsome : (alive.any fun h => h.device == i) = true := by simpa using htaken
      exact ⟨.notFound (resolve name), by simp only [site, Files.openTerminal, hi, hsome, if_true]⟩
    · cases hd
  nowhere w alive name hd := by
    unfold Files.terminal? at hd
    split at hd
    · cases hd
    · next hother =>
      refine ⟨.serial "Not a terminal", ?_⟩
      simp only [site, Files.openTerminal]

/-- One buffer more, or none behind a handle. -/
def Deed.countBehind (n : ℕ) (d : Deed) : ℕ :=
  if d.handle?.isSome then 0 else n + d.buffer?.toList.length

/-- **The buffers sent behind the last handle** among some deeds. -/
def buffersBehind (deeds : List Deed) : ℕ := deeds.foldl Deed.countBehind 0

/-- A deed that obtains no handle counts its buffer. -/
theorem buffersBehind_append (deeds : List Deed) {d : Option Deed}
    (h : d.bind Deed.handle? = none) :
    buffersBehind (deeds ++ d.toList) =
      buffersBehind deeds + (d.bind Deed.buffer?).toList.length := by
  cases d with
  | none => simp [buffersBehind]
  | some d =>
    rw [Option.bind_some] at h
    simp [buffersBehind, List.foldl_append, Deed.countBehind, h]

/-- Behind a handle there is no buffer yet. -/
theorem buffersBehind_handle (deeds : List Deed) {d : Option Deed} {h : Handle}
    (hd : d.bind Deed.handle? = some h) :
    buffersBehind (deeds ++ d.toList) = 0 := by
  obtain ⟨d, rfl, hhandle⟩ := Option.bind_eq_some_iff.1 hd
  simp [buffersBehind, List.foldl_append, Deed.countBehind, hhandle]

namespace Relay

variable {W : Type} {site : Site W} {cfg : InputSettings} {initial : Option Handle}
  {done : List Deed} {r r' : Relay W}

/-- **The handles obtained**: the one that was there at first, and those of the openings that
succeeded. -/
def obtained (initial : Option Handle) (deeds : List Deed) : List Handle :=
  initial.toList ++ deeds.filterMap Deed.handle?

/-- **What a relay holds.** As long as the writer goes on, the handles obtained are those that it
has taken, the current one last, and those that wait. Handles wait behind a buffer only where the
writer has reached its limit of handles in a row, or has not come to that buffer. -/
structure Holds (initial : Option Handle) (done : List Deed) (r : Relay W) : Prop where
  going : r.writer.phase ≠ .ended → ∃ taken, obtained initial done = taken ++ r.link.ports.items ∧
    taken.length = r.writer.stats.attached ∧ taken.getLast? = r.writer.current
  ended : r.writer.phase = .ended → r.link.ports.items = [] ∧ r.link.ports.receiving = false
  inRow : r.writer.portsInRow ≤ r.writer.stats.attached
  behind : r.writer.phase ≠ .ended → r.link.ports.items ≠ [] →
    buffersBehind done ≤ r.link.buffers.items.length ∨
      Writer.maxPortsInRow ≤ r.writer.stats.attached

theorem start_holds (link : Link) (input : Bytes) (initial : Option Handle) (world : W) :
    (start link input initial world).Holds initial [] where
  going _ := ⟨[], by simp [obtained, start], rfl, rfl⟩
  ended hend := by cases hend
  inRow := Nat.le_refl _
  behind _ _ := .inl (Nat.zero_le _)

theorem obtained_append (initial : Option Handle) (deeds deeds' : List Deed) :
    obtained initial (deeds ++ deeds') =
      obtained initial deeds ++ deeds'.filterMap Deed.handle? := by
  rw [obtained, List.filterMap_append, ← List.append_assoc, obtained]

/-- A move of the pump puts what it obtains behind what waits. -/
theorem Holds.stepPump (hh : r.Holds initial done) (hw : r.Wired)
    (h : r.stepPump site cfg = some r') :
    r'.Holds initial (done ++ (r.deed? site cfg .pump).toList) := by
  obtain ⟨m, hm, rfl⟩ := moves_of_stepPump h
  have hports := Pump.ports_of_moves hm
  have hbuffers := Pump.buffers_of_moves hm
  have hreceiving := (Pump.handover_of_moves hm).receiving.2.1
  have hdeed : r.deed? site cfg .pump = r.pump.deed? cfg (site.openPort r.world r.handles) r.link :=
    rfl
  rw [← hdeed] at hports hbuffers
  refine ⟨fun hgo => ?_, fun hend => ?_, hh.inRow, fun hgo hwait => ?_⟩
  · obtain ⟨taken, heq, hlength, hlast⟩ := hh.going hgo
    rw [if_pos (hw.receivers hgo).2] at hports
    refine ⟨taken, ?_, hlength, hlast⟩
    rw [obtained_append, heq, List.append_assoc, hports]
    congr 2
    cases r.deed? site cfg .pump with
    | none => rfl
    | some d => cases hd : d.handle? <;> simp [hd]
  · obtain ⟨hitems, hclosed⟩ := hh.ended hend
    rw [hclosed, if_neg Bool.false_ne_true, hitems, List.append_nil] at hports
    exact ⟨hports, hreceiving.trans hclosed⟩
  · rw [if_pos (hw.receivers hgo).2] at hports
    simp only [hports] at hwait
    cases hd : (r.deed? site cfg .pump).bind Deed.handle? with
    | some h =>
      rw [buffersBehind_handle done hd]
      exact .inl (Nat.zero_le _)
    | none =>
      rw [hd, Option.toList_none, List.append_nil] at hwait
      rw [buffersBehind_append done hd]
      simp only [hbuffers, List.length_append]
      have hbefore := hh.behind hgo hwait
      omega

/-- A step of the writer that takes no handle keeps them all. -/
theorem Holds.keep (hh : r.Holds initial done) (hgo : r.writer.phase ≠ .ended)
    (hgo' : r'.writer.phase ≠ .ended) (hcurrent : r'.writer.current = r.writer.current)
    (hattached : r'.writer.stats.attached = r.writer.stats.attached)
    (hinRow : r'.writer.portsInRow ≤ r.writer.portsInRow)
    (hitems : r'.link.ports.items = r.link.ports.items)
    (hbehind : r.link.ports.items ≠ [] → buffersBehind done ≤ r'.link.buffers.items.length ∨
      Writer.maxPortsInRow ≤ r.writer.stats.attached) : r'.Holds initial done where
  going _ := by
    rw [hitems, hattached, hcurrent]
    exact hh.going hgo
  ended hend := absurd hend hgo'
  inRow := by
    rw [hattached]
    exact hinRow.trans hh.inRow
  behind _ := by
    rw [hitems, hattached]
    exact hbehind

/-- **A round of the writer keeps the order of the handles.** A buffer is taken ahead of a handle
only at the limit. -/
theorem Holds.react {e : Event} (hh : r.Holds initial done) (hw : r.Wired)
    (hp : r.writer.phase = .selecting)
    (he : r.writer.Selects r.stop r.link.ports.poll r.link.buffers.poll e) :
    (r.react e).Holds initial done := by
  have hgo : r.writer.phase ≠ .ended := by simp [hp]
  obtain ⟨taken, heq, hlength, hlast⟩ := hh.going hgo
  have hinRow := hh.inRow
  by_cases hends : (r.writer.react e).1.phase = .ended
  -- a writer that ends takes its receivers with it, and the handles that wait
  · have hrow : (r.writer.react e).1.portsInRow ≤ (r.writer.react e).1.stats.attached := by
      cases he with
      | port hs ht hq => simp [Writer.react, hp] at hends
      | buffer hs hq hi => cases hc : r.writer.current <;> simp [Writer.react, hc, hp] at hends
      | shutdown hs => exact hinRow
      | buffersEnded hs hq hi => exact Nat.zero_le _
      | portsEnded hs ht hq => cases hc : r.writer.current <;> simpa [Writer.react, hc] using hinRow
    have hreact : r.react e = { r with
        writer := (r.writer.react e).1
        link := (r.link.take e).dropReceivers
        writerLog := r.writerLog ++ (r.writer.react e).2 } := by simp [Relay.react, hends]
    rw [hreact]
    exact ⟨fun h => absurd hends h, fun _ => ⟨rfl, rfl⟩, hrow, fun h => absurd hends h⟩
  · have hbehind := hh.behind hgo
    rw [react_of_goes hends]
    cases he with
    | shutdown hs => exact absurd rfl hends
    | buffersEnded hs hq hi => exact absurd rfl hends
    | @port h hs ht hq =>
      have hitems := Channel.items_of_poll_ready hq
      refine ⟨fun _ => ⟨taken ++ [h], ?_, ?_, ?_⟩, fun h => absurd h hends, ?_, fun _ hwait => ?_⟩
      · rw [heq, hitems, List.append_assoc]
        rfl
      · simp [Writer.react, Stats.recordPort, hlength]
      · simp [Writer.react]
      · simpa [Writer.react, Stats.recordPort] using hinRow
      · have hold := hbehind (by simp [hitems])
        simp only [Writer.react, Stats.recordPort, Link.take]
        omega
    | portsEnded hs ht hq =>
      cases hc : r.writer.current with
      | none => exact absurd (by simp [Writer.react, hc]) hends
      | some h =>
        refine hh.keep hgo hends ?_ ?_ ?_ rfl hbehind
        · simp [Writer.react, hc]
        · simp [Writer.react, hc]
        · simp [Writer.react, hc]
    | @buffer b hs hq hi =>
      -- the writer has looked at its handles first, unless it may take no more
      have hlimit : r.link.ports.items ≠ [] → Writer.maxPortsInRow ≤ r.writer.stats.attached := by
        intro hwait
        by_cases ht : r.writer.takesPorts = true
        · exact absurd (Channel.poll_pending (hq ht)).1 hwait
        · rw [Writer.takesPorts_iff, not_and_or] at ht
          rcases ht with ho | hr
          · exact absurd (hw.portsOpen (by simpa using ho)).1 hwait
          · omega
      refine hh.keep hgo hends ?_ ?_ ?_ rfl fun hwait => .inr (hlimit hwait)
      · cases hc : r.writer.current <;> simp [Writer.react, hc]
      · cases hc : r.writer.current <;> simp [Writer.react, hc, Stats.recordDropped]
      · cases hc : r.writer.current <;> simp [Writer.react, hc]

/-- **Every step keeps what a relay holds.** -/
theorem Holds.move {t : Turn} (hh : r.Holds initial done) (hw : r.Wired)
    (h : r.move site cfg t = some r') :
    r'.Holds initial (done ++ (r.deed? site cfg t).toList) := by
  cases t with
  | pump => exact hh.stepPump hw h
  | writer =>
    have hnone : done ++ (r.deed? site cfg .writer).toList = done := List.append_nil _
    rw [hnone]
    cases writerSteps_of_step h with
    | took hp he => exact hh.react hw hp he
    | @landed hd b hp =>
      have hgo : r.writer.phase ≠ .ended := by simp [hp]
      refine hh.keep hgo ?_ ?_ ?_ ?_ rfl (hh.behind hgo)
      all_goals
        simp only [land]
        cases (site.write r.world hd b).1 <;> simp [Writer.settle, Stats.recordForwarded]
    | left hp =>
      have hend : r.leave.writer.phase = .ended := rfl
      exact ⟨fun h => absurd hend h, fun _ => ⟨rfl, rfl⟩, hh.inRow, fun h => absurd hend h⟩

theorem Holds.follow {s : List Turn} (hh : r.Holds initial done) (hw : r.Wired)
    (h : r.follow site cfg s = some r') : r'.Holds initial (done ++ r.deeds site cfg s) :=
  (follow_records (P := fun q ds => q.Wired ∧ q.Holds initial ds)
    (fun _ _ _ _ hq hmove => ⟨hq.1.move hmove, hq.2.move hq.1 hmove⟩) ⟨hw, hh⟩ h).2

/-- **The handles that are alive** are those obtained from the current one on. -/
theorem Holds.handles_perm (hh : r.Holds initial done) (hgo : r.writer.phase ≠ .ended) :
    r.handles.Perm ((obtained initial done).drop (r.writer.stats.attached - 1)) := by
  obtain ⟨taken, heq, hlength, hlast⟩ := hh.going hgo
  have hheld : r.writer.held = r.writer.current.toList := by
    unfold Writer.held
    split
    · next hend => exact absurd hend hgo
    · rfl
  rw [handles, hheld, ← hlast, heq, ← hlength]
  rcases List.eq_nil_or_concat taken with rfl | ⟨before, h, rfl⟩
  · simp
  · rw [List.concat_eq_append, List.length_append, List.length_singleton, Nat.add_sub_cancel,
      List.append_assoc, List.drop_left, List.getLast?_concat]
    exact List.perm_append_singleton h r.link.ports.items

/-- A writer that has ended has let go of all handles. -/
theorem Holds.handles_nil (hh : r.Holds initial done) (hend : r.writer.phase = .ended) :
    r.handles = [] := by
  rw [handles, (hh.ended hend).1, Writer.held, hend]
  rfl

/-- The pump's next move opens a name, and it obtains a handle on a device. -/
def Opens (site : Site W) (cfg : InputSettings) (r : Relay W) (name : String) (d : ℕ) : Prop :=
  ∃ h, h.device = d ∧ r.deed? site cfg .pump = some (.asked name (.ok h))

variable {place : String → Option ℕ} {name : String} {d : ℕ}

/-- Where devices are exclusive, an opening succeeds just if no handle on its device is alive. -/
theorem opens_iff (hex : site.IsExclusive place) (hname : r.pump.phase = .opening name)
    (hplace : place name = some d) :
    (r.Opens site cfg name d ↔ ∀ h ∈ r.handles, h.device ≠ d) ∧
      (¬ r.Opens site cfg name d →
        ∃ e, r.deed? site cfg .pump = some (.asked name (.error e))) := by
  have hdeed : r.deed? site cfg .pump =
      some (.asked name (site.openPort r.world r.handles name)) := by
    simp [deed?, Pump.deed?, hname]
  rw [Opens, hdeed]
  by_cases hfree : ∀ h ∈ r.handles, h.device ≠ d
  · obtain ⟨h, hopen, hd⟩ := hex.opens r.world r.handles name d hplace hfree
    have hopens : ∃ h : Handle, h.device = d ∧
        some (Deed.asked name (site.openPort r.world r.handles name)) =
          some (.asked name (.ok h)) :=
      ⟨h, hd, by rw [hopen]⟩
    exact ⟨iff_of_true hopens hfree, fun hnot => absurd hopens hnot⟩
  · obtain ⟨e, hrefuse⟩ :=
      hex.refuses r.world r.handles name d hplace (by push Not at hfree; exact hfree)
    refine ⟨iff_of_false ?_ hfree, fun _ => ⟨e, by rw [hrefuse]⟩⟩
    rintro ⟨h, -, hopen⟩
    rw [hrefuse] at hopen
    cases hopen

/-- A pump opens a port only when no buffer waits for a writer that is there. -/
theorem buffers_nil_of_opening (hname : r.pump.phase = .opening name)
    (hstep : (r.stepPump site cfg).isSome = true) (hreceiving : r.link.buffers.receiving = true) :
    r.link.buffers.items = [] := by
  obtain ⟨r', hr'⟩ := Option.isSome_iff_exists.1 hstep
  obtain ⟨m, hm, -⟩ := moves_of_stepPump hr'
  cases hm with
  | opened hp hd => exact hd hreceiving
  | inputEnd hp hi | notText hp hi ht | line hp hi ht | refused hp hr | sent hp hr hf =>
    rw [hname] at hp
    cases hp

/-- **Behind a buffer no handle waits**, where no more handles were obtained than the writer takes
in a row. -/
theorem Holds.ports_nil (hh : r.Holds initial done) (hgo : r.writer.phase ≠ .ended)
    (hnone : r.link.buffers.items = []) (hbehind : 0 < buffersBehind done)
    (hfew : (obtained initial done).length ≤ Writer.maxPortsInRow) : r.link.ports.items = [] := by
  by_contra hwait
  obtain ⟨taken, heq, hlength, -⟩ := hh.going hgo
  have hsome := List.length_pos_iff.2 hwait
  rw [heq, List.length_append] at hfew
  -- the writer has come to the buffer, so only its limit could keep it from the handle
  rcases hh.behind hgo hwait with hle | hlimit
  · rw [hnone, List.length_nil] at hle
    omega
  · omega

/-- **When a device opens again.** The handles that are alive are those obtained from the writer's
current one on, and none after the end of the output. So an opening succeeds just if none of these
is on its device; a handle that the writer has replaced does not stand in its way. In particular it
succeeds if the last handle obtained is on another device, and the writer has taken that handle; and
the writer has done so if a buffer was sent behind that handle, as long as no more handles were
obtained than the writer takes in a row. -/
theorem reopening {capacity : ℕ} (hc : 0 < capacity) {kept : Bool} {input : Bytes} {world : W}
    {s : List Turn} (hex : site.IsExclusive place)
    (h : (start { Link.withCapacity capacity with portsKept := kept } input initial world).follow
      site cfg s = some r)
    (hdone : done =
      (start { Link.withCapacity capacity with portsKept := kept } input initial world).deeds
        site cfg s)
    (hname : r.pump.phase = .opening name) (hplace : place name = some d)
    (hstep : (r.stepPump site cfg).isSome = true) :
    (r.writer.phase ≠ .ended →
        r.handles.Perm ((obtained initial done).drop (r.writer.stats.attached - 1))) ∧
      (r.writer.phase = .ended → r.handles = []) ∧
      (r.Opens site cfg name d ↔ r.writer.phase = .ended ∨
        ∀ h ∈ (obtained initial done).drop (r.writer.stats.attached - 1), h.device ≠ d) ∧
      (¬ r.Opens site cfg name d → ∃ e, r.deed? site cfg .pump = some (.asked name (.error e))) ∧
      (∀ last, (obtained initial done).getLast? = some last → last.device ≠ d →
        (r.writer.stats.attached = (obtained initial done).length ∨
          0 < buffersBehind done ∧ (obtained initial done).length ≤ Writer.maxPortsInRow) →
        r.Opens site cfg name d) := by
  have hstart := start_wired hc kept input initial world
  have hw : r.Wired := foldlM_keeps (fun _ _ _ _ hq hmove => hq.move hmove) hstart h
  have hh : r.Holds initial done := by
    rw [hdone]
    exact (start_holds _ input initial world).follow hstart h
  have hopening : (r.Opens site cfg name d ↔ ∀ h ∈ r.handles, h.device ≠ d) ∧ _ :=
    opens_iff hex hname hplace
  obtain ⟨hopens, hfails⟩ := hopening
  have hiff : r.Opens site cfg name d ↔ r.writer.phase = .ended ∨
      ∀ h ∈ (obtained initial done).drop (r.writer.stats.attached - 1), h.device ≠ d := by
    rw [hopens]
    by_cases hend : r.writer.phase = .ended
    · rw [hh.handles_nil hend]
      exact iff_of_true (fun h hmem => absurd hmem List.not_mem_nil) (.inl hend)
    · rw [or_iff_right hend]
      exact forall_congr' fun h => imp_congr_left (hh.handles_perm hend).mem_iff
  refine ⟨hh.handles_perm, hh.handles_nil, hiff, hfails, fun last hlast hother htaken => hiff.2 ?_⟩
  rw [or_iff_not_imp_left]
  intro hgo
  have hall : r.writer.stats.attached = (obtained initial done).length := by
    rcases htaken with hall | ⟨hbehind, hfew⟩
    · exact hall
    · have hnone := buffers_nil_of_opening hname hstep (hw.receivers hgo).1
      obtain ⟨taken, heq, hlength, -⟩ := hh.going hgo
      rw [hh.ports_nil hgo hnone hbehind hfew, List.append_nil] at heq
      rw [heq, hlength]
  obtain ⟨before, hbefore⟩ := List.getLast?_eq_some_iff.1 hlast
  rw [hall, hbefore, List.length_append, List.length_singleton, Nat.add_sub_cancel, List.drop_left]
  intro h hmem
  rw [List.mem_singleton.1 hmem]
  exact hother

/-- Two terminals among the files. -/
def pairFiles : Files := { nodes := [(["A"], .terminal 0), (["B"], .terminal 1)] }

/-- They are opened by their paths. -/
def pairSite : Site Terminals := Terminals.site pairFiles (.ofMillis 1000) id

/-- To the other terminal and back. -/
def thereAndBack : Bytes := Text.utf8 ":port B\n:port A\n"

/-- A relay that starts with a handle on the first terminal. -/
def onFirst : Relay Terminals :=
  start { Link.withCapacity 1 with portsKept := false } thereAndBack (some ⟨0, "A"⟩)
    [{ name := "A" }, { name := "B" }]

theorem reopening_taken :
    ∃ r, onFirst.follow pairSite {} [.pump, .writer, .pump, .writer, .pump] = some r ∧
      r.pump.phase = .opening "A" ∧ (r.stepPump pairSite {}).isSome = true ∧
      r.writer.stats.attached = 2 ∧
      obtained (some ⟨0, "A"⟩) (onFirst.deeds pairSite {} [.pump, .writer, .pump, .writer, .pump]) =
        [⟨0, "A"⟩, ⟨1, "B"⟩] ∧
      r.Opens pairSite {} "A" 0 := by
  have hvalues : (onFirst.follow pairSite {} [.pump, .writer, .pump, .writer, .pump]).map (fun r =>
      (r.pump.phase, (r.stepPump pairSite {}).isSome, r.writer.stats.attached)) =
        some (.opening "A", true, 2) := by
    decide +kernel
  have hobtained : obtained (some ⟨0, "A"⟩)
      (onFirst.deeds pairSite {} [.pump, .writer, .pump, .writer, .pump]) =
        [⟨0, "A"⟩, ⟨1, "B"⟩] := by
    decide +kernel
  have hplace : pairFiles.terminal? (id "A") = some 0 := by decide +kernel
  obtain ⟨r, hr, hvalues⟩ := Option.map_eq_some_iff.1 hvalues
  obtain ⟨hphase, hvalues⟩ := Prod.mk.inj hvalues
  obtain ⟨hstep, hattached⟩ := Prod.mk.inj hvalues
  obtain ⟨done, hdone⟩ : ∃ done,
      done = onFirst.deeds pairSite {} [.pump, .writer, .pump, .writer, .pump] := ⟨_, rfl⟩
  obtain ⟨-, -, -, -, hopens⟩ :=
    reopening Nat.one_pos (Terminals.site_isExclusive pairFiles (.ofMillis 1000) id) hr hdone
      hphase hplace hstep
  rw [hdone, hobtained] at hopens
  exact ⟨r, hr, hphase, hstep, hattached, hobtained,
    hopens ⟨1, "B"⟩ rfl (by decide) (.inl hattached)⟩

/-- Seventeen terminals, and the files with them among the others. -/
def rowOfTerminals : Terminals := (List.range 17).map fun i => { name := "P" ++ toString (i + 1) }

def rowFiles : Files := (rowOfTerminals.place {}).getD {}

/-- Each terminal is opened, then the last but one again, and two lines of payload follow. -/
def alongAndBack : Bytes :=
  Text.utf8
    (String.join (rowOfTerminals.map (fun t => ":port " ++ t.name ++ "\n") ++
      [":port P16\n", "x\n", "y\n"]))

/-- **A device does not open again before the writer has taken the next handle.** The pump may be at
the opening before the writer has taken any handle; and a writer that is at its limit of handles in
a row waits for a buffer, so that the handle that it keeps stands in the way in every schedule. -/
theorem reopening_untaken :
    pairSite.IsExclusive (fun name => pairFiles.terminal? (id name)) ∧
      (∃ r, onFirst.follow pairSite {} [.pump, .pump, .pump] = some r ∧
        r.pump.phase = .opening "A" ∧
        (r.stepPump pairSite {}).isSome = true ∧ pairFiles.terminal? "A" = some 0 ∧
        obtained (some ⟨0, "A"⟩) (onFirst.deeds pairSite {} [.pump, .pump, .pump]) =
          [⟨0, "A"⟩, ⟨1, "B"⟩] ∧
        r.deed? pairSite {} .pump = some (.asked "A" (.error (.notFound "A")))) ∧
      (SerialRelay.run [] {} rowFiles rowOfTerminals alongAndBack).exitCode = 0 ∧
      (SerialRelay.run [] {} rowFiles rowOfTerminals alongAndBack).terminals.map Terminal.received =
        List.replicate 15 [] ++ [Text.utf8 "x\n", Text.utf8 "y\n"] := by
  have hrun : ((SerialRelay.run [] {} rowFiles rowOfTerminals alongAndBack).exitCode,
      (SerialRelay.run [] {} rowFiles rowOfTerminals alongAndBack).terminals.map
        Terminal.received) =
        (0, List.replicate 15 [] ++ [Text.utf8 "x\n", Text.utf8 "y\n"]) := by decide +kernel
  refine ⟨Terminals.site_isExclusive pairFiles _ id, ?_, Prod.mk.inj hrun⟩
  have hvalues : (onFirst.follow pairSite {} [.pump, .pump, .pump]).map (fun r =>
      (r.pump.phase, (r.stepPump pairSite {}).isSome, r.deed? pairSite {} .pump)) =
        some (.opening "A", true, some (.asked "A" (.error (.notFound "A")))) := by
    decide +kernel
  obtain ⟨r, hr, hvalues⟩ := Option.map_eq_some_iff.1 hvalues
  obtain ⟨hphase, hvalues⟩ := Prod.mk.inj hvalues
  obtain ⟨hstep, hdeed⟩ := Prod.mk.inj hvalues
  exact ⟨r, hr, hphase, hstep, by decide +kernel, by decide +kernel, hdeed⟩

end Relay

end SerialRelay

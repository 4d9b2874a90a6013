import SerialRelay.Proofs.Port.Keeps
import SerialRelay.Proofs.Relay.Tally

/-!
# The logs of the ports

Where the handles lead to simulated ports that nobody else writes to, the logs of these ports hold
just what the writer has written: the buffers forwarded, and what was taken of a buffer that failed.

* `Site.IsOver`: the handles of a site lead to simulated ports.
* `IsLedger`: what the ports took of each write call, and that their logs hold this and nothing
  else.
* `Attachment.exists_ledger`: every run on such ports has a ledger.
* `Attachment.counters_account`: the counters account for all buffers taken and for all octets in
  the logs.
-/

namespace SerialRelay

variable {W : Type}

/-- A delivery to one of some ports; there is nothing to deliver to beyond them. -/
def FaultyPort.deliverTo (ports : List FaultyPort) (device : ℕ) (data : Bytes) :
    Except PortError Unit × List FaultyPort :=
  match ports[device]? with
  | none => (.error .notOpen, ports)
  | some p => ((p.send data).1, ports.set device (p.send data).2)

/-- **The handles of a site lead to simulated ports**, to which nobody else writes: a write is a
delivery to the port of its handle, as the write finds it. From one write to the next the settings
of the ports may change, but not their logs. -/
structure Site.IsOver (site : Site W) (ports : W → List FaultyPort) : Prop where
  result : ∀ w h b, (site.write w h b).1 = (FaultyPort.deliverTo (ports w) h.device b).1
  logs : ∀ w h b, (ports (site.write w h b).2).map (·.port.log) =
    (FaultyPort.deliverTo (ports w) h.device b).2.map (·.port.log)

/-- What some ports have taken. -/
def transmittedBy (ports : List FaultyPort) : List Bytes := ports.map FaultyPort.transmitted

theorem transmittedBy_eq (ports : List FaultyPort) :
    transmittedBy ports = (ports.map (·.port.log)).map List.flatten := by
  rw [transmittedBy, List.map_map]
  rfl

/-- **A delivery adds a first part of the data to what its port has taken**, and nothing where there
is none. -/
theorem transmittedBy_deliverTo (ports : List FaultyPort) (device : ℕ) (data : Bytes) :
    ∃ accepted, accepted <+: data ∧
      ((FaultyPort.deliverTo ports device data).1 = .ok () → accepted = data) ∧
      (ports.length ≤ device → accepted = []) ∧
      transmittedBy (FaultyPort.deliverTo ports device data).2 =
        (transmittedBy ports).modify device (· ++ accepted) := by
  unfold FaultyPort.deliverTo
  split
  · next hnone =>
    refine ⟨[], List.nil_prefix, nofun, fun _ => rfl, ?_⟩
    have hid : (fun k : Bytes => k ++ []) = id := funext List.append_nil
    rw [hid, List.modify_id]
  · next p hp =>
    obtain ⟨accepted, hpre, hsend, hok⟩ := p.transmitted_send data
    have hlt : device < ports.length := (List.getElem?_eq_some_iff.1 hp).1
    have hk : (transmittedBy ports)[device]? = some p.transmitted := by
      rw [transmittedBy, List.getElem?_map, hp]
      rfl
    refine ⟨accepted, hpre, hok, fun hle => absurd hlt (Nat.not_lt.2 hle), ?_⟩
    rw [List.modify_eq_set, hk, Option.getD_some, ← hsend, transmittedBy, List.map_set]
    rfl

/-- The octets of some texts, one of which has grown. -/
theorem sum_length_modify (kept : List Bytes) (device : ℕ) (accepted : Bytes)
    (h : kept.length ≤ device → accepted = []) :
    ((kept.modify device (· ++ accepted)).map List.length).sum =
      (kept.map List.length).sum + accepted.length := by
  induction kept generalizing device with
  | nil => simp [h (Nat.zero_le _)]
  | cons k ks ih =>
    cases device with
    | zero => simp [List.modify]; omega
    | succ device =>
      have htail := ih device fun hle => h (Nat.succ_le_succ hle)
      simp at htail ⊢
      omega

/-- **A ledger**: what the ports took of each write call. What a port has taken is what the ledger
says of its calls, in their order. -/
structure IsLedger (kept : List Bytes) (calls : List Call) (ledger : List (Call × Bytes)) :
    Prop where
  calls : ledger.map Prod.fst = calls
  accepted : ∀ x ∈ ledger, x.2 <+: x.1.buffer ∧ (x.1.isFailed = false → x.2 = x.1.buffer)
  logs : ∀ device k, kept[device]? = some k →
    k = ((ledger.filter fun x => x.1.handle.device = device).map Prod.snd).flatten
  total : (kept.map List.length).sum = (ledger.map fun x => x.2.length).sum

theorem IsLedger.start {kept : List Bytes} (h : ∀ k ∈ kept, k = []) : IsLedger kept [] [] where
  calls := rfl
  accepted := nofun
  logs device k hk := h k (List.mem_of_getElem? hk)
  total := by
    have hzero : ∀ n ∈ kept.map List.length, n = 0 := by
      intro n hn
      obtain ⟨k, hk, rfl⟩ := List.mem_map.1 hn
      rw [h k hk]
      rfl
    exact List.sum_eq_zero_iff_forall_eq_nat.2 hzero

/-- One more call in the ledger. -/
theorem IsLedger.call {kept : List Bytes} {calls : List Call} {ledger : List (Call × Bytes)}
    (hl : IsLedger kept calls ledger) {c : Call} {accepted : Bytes} (hpre : accepted <+: c.buffer)
    (hok : c.isFailed = false → accepted = c.buffer)
    (hnone : kept.length ≤ c.handle.device → accepted = []) :
    IsLedger (kept.modify c.handle.device (· ++ accepted)) (calls ++ [c])
      (ledger ++ [(c, accepted)]) where
  calls := by rw [List.map_append, hl.calls]; rfl
  accepted x hx := by
    rcases List.mem_append.1 hx with hx | hx
    · exact hl.accepted x hx
    · obtain rfl := List.mem_singleton.1 hx
      exact ⟨hpre, hok⟩
  logs device k hk := by
    rw [List.getElem?_modify] at hk
    obtain ⟨k₀, hk₀, rfl⟩ := Option.map_eq_some_iff.1 hk
    rw [List.filter_append, List.map_append, List.flatten_append, ← hl.logs device k₀ hk₀]
    by_cases hd : c.handle.device = device
    · simp [hd]
    · simp [hd]
  total := by
    rw [sum_length_modify kept _ _ hnone, hl.total]
    simp

/-- What the calls of a ledger have left: the buffers forwarded, and what was taken of one that
failed. -/
theorem sum_accepted {ledger : List (Call × Bytes)}
    (h : ∀ x ∈ ledger, x.1.isFailed = false → x.2 = x.1.buffer) :
    (ledger.map fun x => x.2.length).sum =
      ((forwardedOf ((ledger.map Prod.fst).map Call.item)).map List.length).sum +
        ((ledger.filter fun x => x.1.isFailed).map fun x => x.2.length).sum := by
  induction ledger with
  | nil => rfl
  | cons x ledger ih =>
    have htail := ih fun y hy => h y (List.mem_cons_of_mem _ hy)
    rw [List.map_cons, List.map_cons, List.map_cons, List.sum_cons, forwardedOf_cons_item,
      List.filter_cons]
    by_cases hx : x.1.isFailed = true
    · rw [if_pos hx, if_pos hx, List.map_cons, List.sum_cons, htail]
      omega
    · have hall : x.2 = x.1.buffer := h x List.mem_cons_self (by simpa using hx)
      rw [if_neg hx, if_neg hx, List.map_cons, List.sum_cons, htail, hall]
      omega

namespace Attachment

variable {site : Site W} {ports : W → List FaultyPort} {a a' : Attachment W}

/-- Each move keeps a ledger, and the end of a write adds its call to it. -/
theorem exists_ledger_step {m : Move} (ho : site.IsOver ports)
    (hl : ∃ ledger, IsLedger (transmittedBy (ports a.relay.world.1)) a.calls ledger)
    (h : a.step site m = some a') :
    ∃ ledger, IsLedger (transmittedBy (ports a'.relay.world.1)) a'.calls ledger := by
  by_cases hm : m = .writer
  · subst hm
    cases writerMoves_of_step h with
    | took hp he => exact hl
    | @landed hd b hp =>
      obtain ⟨ledger, hl⟩ := hl
      obtain ⟨accepted, hpre, hok, hnone, hkept⟩ :=
        transmittedBy_deliverTo (ports a.relay.world.1) hd.device b
      -- the logs after the write are those of the delivery
      have hworld : transmittedBy (ports (site.write a.relay.world.1 hd b).2) =
          (transmittedBy (ports a.relay.world.1)).modify hd.device (· ++ accepted) := by
        rw [transmittedBy_eq, ho.logs, ← transmittedBy_eq, hkept]
      refine ⟨ledger ++ [(⟨hd, b, (site.write a.relay.world.1 hd b).1⟩, accepted)], ?_⟩
      have hcall := hl.call (c := ⟨hd, b, (site.write a.relay.world.1 hd b).1⟩) hpre ?_ ?_
      · rw [← hworld] at hcall
        exact hcall
      · intro hc
        apply hok
        rw [← ho.result]
        cases hx : (site.write a.relay.world.1 hd b).1 with
        | ok => rfl
        | error e => simp [Call.isFailed, hx] at hc
      · intro hle
        exact hnone (by simpa [transmittedBy] using hle)
    | left hp => exact hl
  · obtain ⟨hrest, -⟩ := rests_of_arrival hm h
    have hcalls : a'.calls = a.calls := congrArg Prod.snd hrest.world
    rw [hrest.world, hcalls]
    exact hl

/-- **Every run on simulated ports has a ledger.** -/
theorem exists_ledger {world : W} {ms : List Move} (ho : site.IsOver ports)
    (hfresh : ∀ p ∈ ports world, p.port.log = []) (h : (start world).follow site ms = some a) :
    ∃ ledger, IsLedger (transmittedBy (ports a.relay.world.1)) a.calls ledger := by
  have hstart : IsLedger (transmittedBy (ports world)) [] [] := by
    refine .start fun k hk => ?_
    obtain ⟨p, hp, rfl⟩ := List.mem_map.1 hk
    rw [FaultyPort.transmitted, SimPort.transmitted, hfresh p hp]
    rfl
  exact foldlM_keeps
    (P := fun q => ∃ ledger, IsLedger (transmittedBy (ports q.relay.world.1)) q.calls ledger)
    (fun m _ q q' hq hstep => exists_ledger_step ho hq hstep) ⟨[], hstart⟩ h

/-- **The counters account for everything the writer did.** They are the tally of the events taken
and of the items emitted; between two writes, every buffer taken was forwarded or dropped, or is the
one whose write has failed. If the handles lead to fresh simulated ports that nobody else writes to,
these hold the octets counted, and besides them what was taken of the buffer that failed. -/
theorem counters_account {world : W} {ms : List Move} (h : (start world).follow site ms = some a)
    (hidle : a.relay.writer.underWay = []) :
    a.relay.writer.stats = tally a.events a.relay.output ∧
      (buffersOf a.events).length = a.relay.writer.stats.forwarded + a.relay.writer.stats.dropped +
        (if a.calls.any Call.isFailed then 1 else 0) ∧
      ∀ ports : W → List FaultyPort, site.IsOver ports → (∀ p ∈ ports world, p.port.log = []) →
        ∃ ledger, IsLedger (transmittedBy (ports a.relay.world.1)) a.calls ledger ∧
          (ledger.filter fun x => x.1.isFailed).length ≤ 1 ∧
          ((transmittedBy (ports a.relay.world.1)).map List.length).sum =
            a.relay.writer.stats.bytes +
            ((ledger.filter fun x => x.1.isFailed).map fun x => x.2.length).sum := by
  have hf := (start_faithful world).follow h
  have hlast := onlyLastFails_of_follow h
  have hs := stats_eq_tally h
  refine ⟨hs, length_buffersOf hf hlast hs hidle, ?_⟩
  intro ports ho hfresh
  obtain ⟨ledger, hl⟩ := exists_ledger ho hfresh h
  refine ⟨ledger, hl, ?_, ?_⟩
  · have hcount : (ledger.filter fun x => x.1.isFailed).length =
        (a.calls.filter Call.isFailed).length := by
      rw [← hl.calls, List.filter_map, List.length_map]
      rfl
    rw [hf.output] at hlast
    rw [hcount, length_filter_isFailed hlast]
    split <;> omega
  · have hbytes : a.relay.writer.stats.bytes =
        ((forwardedOf ((ledger.map Prod.fst).map Call.item)).map List.length).sum := by
      rw [hs, hf.output, hl.calls]
      rfl
    rw [hl.total, hbytes]
    exact sum_accepted fun x hx => (hl.accepted x hx).2

/-- A site on some ports, and nothing to open. -/
def portsSite : Site (List FaultyPort) where
  openPort _ _ name := .error (.notFound name)
  write ports h b := FaultyPort.deliverTo ports h.device b

theorem portsSite_isOver : portsSite.IsOver id := ⟨fun _ _ _ => rfl, fun _ _ _ => rfl⟩

/-- A port without faults, and one that takes one octet at a time, and only one. -/
def soundAndBrittle : List FaultyPort := [{}, { port := { maxChunk := some 1, budget := some 1 } }]

/-- One buffer comes before any handle, one goes to the first port, and one fails on the second. -/
theorem counters_account_partial :
    ∃ a : Attachment (List FaultyPort),
      ((start soundAndBrittle).follow portsSite
        [.buffer [9], .writer, .handle ⟨0, "A"⟩, .writer, .buffer [1, 2],
          .writer, .writer, .handle ⟨1, "B"⟩, .writer, .buffer [3, 4, 5], .writer, .writer] =
          some a ∧
        a.relay.writer.underWay = [] ∧ portsSite.IsOver id ∧
          ∀ p ∈ soundAndBrittle, p.port.log = []) ∧
      tally a.events a.relay.output =
        { forwarded := 1, bytes := 2, dropped := 1, attached := 2, current := some "B" } ∧
      buffersOf a.events = [[9], [1, 2], [3, 4, 5]] ∧ a.calls.any Call.isFailed = true ∧
      transmittedBy a.relay.world.1 = [[1, 2], [3]] ∧
      ∃ ledger, IsLedger (transmittedBy a.relay.world.1) a.calls ledger := by
  obtain ⟨a, h, hidle, hstats, hbuffers, hfailed, hsent⟩ : ∃ a : Attachment (List FaultyPort),
      (start soundAndBrittle).follow portsSite
        [.buffer [9], .writer, .handle ⟨0, "A"⟩, .writer, .buffer [1, 2], .writer, .writer,
          .handle ⟨1, "B"⟩, .writer, .buffer [3, 4, 5], .writer, .writer] = some a ∧
      a.relay.writer.underWay = [] ∧
      a.relay.writer.stats =
        { forwarded := 1, bytes := 2, dropped := 1, attached := 2, current := some "B" } ∧
      buffersOf a.events = [[9], [1, 2], [3, 4, 5]] ∧ a.calls.any Call.isFailed = true ∧
      transmittedBy a.relay.world.1 = [[1, 2], [3]] :=
    ⟨_, rfl, rfl, rfl, rfl, rfl, rfl⟩
  have hfresh : ∀ p ∈ soundAndBrittle, p.port.log = [] := by simp [soundAndBrittle]
  obtain ⟨htally, -, hports⟩ := counters_account h hidle
  obtain ⟨ledger, hl, -, -⟩ := hports id portsSite_isOver hfresh
  exact ⟨a, ⟨h, hidle, portsSite_isOver, hfresh⟩, htally.symm.trans hstats, hbuffers, hfailed,
    hsent, ledger, hl⟩

end Attachment

end SerialRelay

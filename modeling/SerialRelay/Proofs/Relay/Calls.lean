import SerialRelay.Proofs.Relay.Confluence
import SerialRelay.Proofs.Relay.Destinations

/-!
# The write calls of a relay

The outlook of a relay keeps its world and its output under every step, also where the writer is
deserted. So the write calls of any schedule, at any time, are the first of those that the course of
the lines comes to.

* `calls_of_isBehind`: a course writes to the destinations of its deliveries.
* `Relay.world_outlook_of_move`: no step changes what will have been written.
* `Relay.calls_follow_openings`: every schedule writes to the destinations, and these are the
  handles opened last just for a punctual input.
-/

namespace SerialRelay

open Writer (maxPortsInRow)

variable {W : Type} {write : W → Handle → Bytes → Except PortError Unit × W}

/-- A write is recorded whatever comes of it; what follows it starts from the same handles. -/
theorem land_recording (write : W → Handle → Bytes → Except PortError Unit × W)
    (s : Standing (W × List (Handle × Bytes))) (h : Handle) (b : Bytes)
    (next : Standing (W × List (Handle × Bytes)) → Upshot (W × List (Handle × Bytes))) :
    (∃ t, s.land (recording write) h b next = next t ∧ t.inRow = s.inRow ∧ t.current = s.current ∧
        t.waiting = s.waiting ∧ t.world.2 = s.world.2 ++ [(h, b)] ∧
          t.output = s.output ++ [.forwarded b]) ∨
      ∃ e, (s.land (recording write) h b next).world.2 = s.world.2 ++ [(h, b)] ∧
        (s.land (recording write) h b next).output = s.output ++ [.failed e] := by
  rw [Standing.land]
  split
  · next w hw =>
    obtain ⟨-, rfl⟩ := Prod.mk.inj hw
    exact .inl ⟨_, rfl, rfl, rfl, rfl, rfl, rfl⟩
  · next e w hw =>
    obtain ⟨-, rfl⟩ := Prod.mk.inj hw
    exact .inr ⟨_, rfl, rfl⟩

/-- A course only adds to the write calls and to the output. -/
theorem isPrefix_course (write : W → Handle → Bytes → Except PortError Unit × W)
    (s : Standing (W × List (Handle × Bytes))) (ds : List Delivery) :
    s.world.2 <+: (course (recording write) s ds).world.2 ∧
      s.output <+: (course (recording write) s ds).output := by
  induction ds generalizing s with
  | nil =>
    obtain ⟨hworld, houtput⟩ := Standing.catchUp_world_output (s := s)
    rw [course, Standing.upshot, hworld, houtput]
    exact ⟨List.prefix_refl _, List.prefix_refl _⟩
  | cons d ds ih =>
    cases d with
    | handle h => exact ih (s.push h)
    | buffer b =>
      obtain ⟨hworld, houtput⟩ := Standing.catchUp_world_output (s := s)
      rw [course, ← hworld, ← houtput]
      split
      · exact ih s.catchUp.drop
      · next h _ =>
        rcases land_recording write s.catchUp.begin h b fun t => course (recording write) t ds with
          ⟨t, ht, -, -, -, hw, ho⟩ | ⟨e, hw, ho⟩
        · rw [ht]
          obtain ⟨h₁, h₂⟩ := ih t
          rw [hw] at h₁
          rw [ho] at h₂
          exact ⟨(List.prefix_append _ _).trans h₁, (List.prefix_append _ _).trans h₂⟩
        · rw [hw, ho]
          exact ⟨List.prefix_append _ _, List.prefix_append _ _⟩

variable {s : Standing (W × List (Handle × Bytes))} {os : List Handle} {n : ℕ}

/-- **A course writes to the destinations**: to the first ones in any case, and to all if no write
fails. -/
theorem calls_of_isBehind (write : W → Handle → Bytes → Except PortError Unit × W)
    (hb : s.IsBehind os n) (ds : List Delivery) :
    (course (recording write) s ds).world.2 <+: s.world.2 ++ sent (destinations os n ds) ∧
      ((∀ e, Item.failed e ∉ (course (recording write) s ds).output) →
        (course (recording write) s ds).world.2 = s.world.2 ++ sent (destinations os n ds)) := by
  -- induction on the deliveries; `IsBehind` is the invariant, and a failed write ends the course
  induction ds generalizing s os n with
  | nil =>
    rw [course, Standing.upshot, Standing.catchUp_world_output.1, destinations, sent,
      List.filterMap_nil, List.append_nil]
    exact ⟨List.prefix_refl _, fun _ => rfl⟩
  | cons d ds ih =>
    cases d with
    | handle h => exact ih (hb.push h)
    | buffer b =>
      obtain ⟨hworld, -⟩ := Standing.catchUp_world_output (s := s)
      rw [course, destinations, ← hb.catchUp.1, ← hworld]
      cases hc : s.catchUp.current with
      | none => exact ih (hb.of_catchUp (t := s.catchUp.drop) rfl rfl rfl)
      | some h =>
        have hsent : sent ((some h, b) :: destinations os (n - maxPortsInRow) ds) =
            [(h, b)] ++ sent (destinations os (n - maxPortsInRow) ds) := rfl
        simp only [hsent]
        rw [← List.append_assoc]
        rcases land_recording write s.catchUp.begin h b fun t => course (recording write) t ds with
          ⟨t, ht, hr, hcur, hwait, hw, -⟩ | ⟨e, hw, ho⟩
        · rw [ht]
          have hnext := ih (hb.of_catchUp hr hcur hwait)
          rwa [hw] at hnext
        · rw [hw, ho]
          exact ⟨List.prefix_append _ _,
            fun hno => absurd (List.mem_append_right _ (List.mem_singleton_self _)) (hno e)⟩

namespace Relay

variable {cfg : InputSettings} {openPort : String → Except PortError Handle} {r r' : Relay W}

/-- A deserted writer stays so, or ends; in both cases nothing is written. -/
theorem world_outlook_of_deserted (hw : r.Wired) (hd : r.Deserted)
    (h : r.stepWriter (Site.ofPorts openPort write) = some r') :
    (r'.outlook cfg openPort write).world = r.world ∧
      (r'.outlook cfg openPort write).output = r.output := by
  obtain ⟨hp, hc, hi, ho⟩ := hd
  have hs : WriterSteps (Site.ofPorts openPort write) r r' := writerSteps_of_step h
  cases hs with
  | landed hp' => rw [hp] at hp'; cases hp'
  | left hp' => rw [hp] at hp'; cases hp'
  | @took e _ he =>
    cases he with
    | shutdown hs => rw [hw.stop] at hs; contradiction
    | port hs ht hq => rw [Channel.items_of_poll_ready hq] at hi; cases hi
    | portsEnded hs ht hq => simp [outlook, react, Writer.react, hc, standing, Standing.upshot]
    | buffersEnded hs hq hb => simp [outlook, react, Writer.react, standing, Standing.upshot]
    | @buffer b hs hq hb =>
      have hstay : (r.react (.buffer b)).Deserted := by
        simp [Deserted, react, Writer.react, hp, hc, hi, ho, Link.take]
      exact outlook_of_deserted hstay

/-- **No step changes what will have been written.** -/
theorem world_outlook_of_move {t : Turn} (hw : r.Wired)
    (h : r.move (Site.ofPorts openPort write) cfg t = some r') :
    (r'.outlook cfg openPort write).world = (r.outlook cfg openPort write).world ∧
      (r'.outlook cfg openPort write).output = (r.outlook cfg openPort write).output := by
  -- a deserted writer counts what it drops, so there only the world and the output are kept
  by_cases hd : r.Deserted
  · cases t with
    | pump => rw [outlook_of_stepPump hw h]; exact ⟨rfl, rfl⟩
    | writer =>
      rw [(outlook_of_deserted hd).1, (outlook_of_deserted hd).2]
      exact world_outlook_of_deserted hw hd h
  · rw [outlook_of_move hw hd h]
    exact ⟨rfl, rfl⟩

/-- What a relay has written is the first of what it will have written. -/
theorem isPrefix_outlook (cfg : InputSettings) (openPort : String → Except PortError Handle)
    (write : W → Handle → Bytes → Except PortError Unit × W)
    (r : Relay (W × List (Handle × Bytes))) :
    r.world.2 <+: (r.outlook cfg openPort (recording write)).world.2 := by
  unfold outlook
  split
  · exact (isPrefix_course write r.standing _).1
  · next h b _ =>
    rcases land_recording write r.standing h b
        fun t => course (recording write) t (r.remaining cfg openPort) with
      ⟨t, ht, -, -, -, hw, -⟩ | ⟨e, hw, -⟩
    · have hnext := (isPrefix_course write t (r.remaining cfg openPort)).1
      rw [hw] at hnext
      rw [ht]
      exact (List.prefix_append _ _).trans hnext
    · rw [hw]; exact List.prefix_append _ _
  · exact List.prefix_refl _
  · exact List.prefix_refl _

/-- What any schedule keeps of the outlook. -/
theorem world_outlook_of_follow {s : List Turn} (hw : r.Wired)
    (h : r.follow (Site.ofPorts openPort write) cfg s = some r') :
    r'.Wired ∧ (r'.outlook cfg openPort write).world = (r.outlook cfg openPort write).world ∧
      (r'.outlook cfg openPort write).output = (r.outlook cfg openPort write).output := by
  refine foldlM_keeps (P := fun q => q.Wired ∧
    (q.outlook cfg openPort write).world = (r.outlook cfg openPort write).world ∧
    (q.outlook cfg openPort write).output = (r.outlook cfg openPort write).output)
    ?_ ⟨hw, rfl, rfl⟩ h
  rintro t - q q' ⟨hwq, hwo, hoo⟩ hq
  obtain ⟨hwq', hoq'⟩ := world_outlook_of_move hwq hq
  exact ⟨hwq.move hq, hwq'.trans hwo, hoq'.trans hoo⟩

/-- **Every schedule writes to the destinations of its lines**, in the order of the lines: at any
time to the first ones, and when nobody can move to all of them, if no write has failed. For a
punctual input these are the handles opened last. For any other they are not, if no two openings
give one handle; but the same buffers are written, namely those behind an opening. -/
theorem calls_follow_openings {capacity : ℕ} (hk : 0 < capacity) {kept : Bool} {input : Bytes}
    {initial : Option Handle} {world : W} {s : List Turn} {r : Relay (W × List (Handle × Bytes))}
    (h : (start { Link.withCapacity capacity with portsKept := kept } input initial
      (world, [])).follow (Site.ofPorts openPort (recording write)) cfg s = some r) :
    let ds := deliveries cfg openPort (splitLines input)
    let reached := destinations initial.toList initial.toList.length ds
    r.world.2 <+: sent reached ∧
      (r.IsComplete (Site.ofPorts openPort (recording write)) cfg →
        (∀ e, Item.failed e ∉ r.output) → r.world.2 = sent reached) ∧
      (isPunctual initial.toList.length ds = true → reached = intended initial ds) ∧
      ((initial.toList ++ opened ds).Nodup →
        (sent reached = sent (intended initial ds) ↔ isPunctual initial.toList.length ds = true)) ∧
      reached.map (fun d => (d.1.isSome, d.2)) =
        (intended initial ds).map (fun d => (d.1.isSome, d.2)) := by
  intro ds reached
  have hlast : initial.toList.getLast? = initial := by cases initial <;> rfl
  obtain ⟨hw, hworld, houtput⟩ :=
    world_outlook_of_follow (start_wired hk kept input initial (world, [])) h
  have hbehind : Standing.IsBehind (W := W × List (Handle × Bytes))
      { waiting := initial.toList, world := (world, []) } initial.toList initial.toList.length :=
    ⟨Nat.le_refl _, rfl, by simp, by simp⟩
  obtain ⟨hfirst, hall⟩ := calls_of_isBehind write hbehind ds
  refine ⟨?_, ?_, ?_, ?_, ?_⟩
  · have hnow := isPrefix_outlook cfg openPort write r
    rw [hworld] at hnow
    exact hnow.trans hfirst
  · intro hc hno
    have he : r.outlook cfg openPort (recording write) = r.standing.upshot := by
      simp only [outlook, hw.ended_of_isComplete hc]
    rw [he] at hworld houtput
    have hout : r.output = (course (recording write)
        { waiting := initial.toList, world := (world, []) } ds).output := houtput
    rw [hout] at hno
    have hcalls : r.world.2 = (course (recording write)
        { waiting := initial.toList, world := (world, []) } ds).world.2 := congrArg Prod.snd hworld
    exact hcalls.trans (hall hno)
  · intro hp
    exact (destinations_of_isPunctual hp).trans (by rw [hlast])
  · intro hd
    rw [← sent_destinations_iff hd, hlast]
  · rw [isSome_destinations (Nat.le_refl _), hlast]

/-- Ports whose writes all succeed. -/
def steady (_ : Unit) (_ : Handle) (_ : Bytes) : Except PortError Unit × Unit := (.ok (), ())

/-- A relay on two such ports, with one place in the queue of buffers. -/
def steadyRelay (input : Bytes) (initial : Option Handle) : Relay (Unit × List (Handle × Bytes)) :=
  start { Link.withCapacity 1 with portsKept := false } input initial ((), [])

/-- A port beside those two. -/
def third : Handle := ⟨2, "I"⟩

/-- Three openings between two payloads, one of which fails. -/
def fewOpenings : Bytes := Text.utf8 "x\n:port A\n:port C\n:port B\ny\n"

theorem calls_follow_openings_few :
    ∃ s r, (0 < 1 ∧ (steadyRelay fewOpenings (some third)).follow
        (Site.ofPorts twoPorts (recording steady)) {} s = some r) ∧
      r.IsComplete (Site.ofPorts twoPorts (recording steady)) {} ∧ (∀ e, Item.failed e ∉ r.output) ∧
      isPunctual 1 (deliveries {} twoPorts (splitLines fewOpenings)) = true ∧
      ([third] ++ opened (deliveries {} twoPorts (splitLines fewOpenings))).Nodup ∧
      r.world.2 = sent (intended (some third) (deliveries {} twoPorts (splitLines fewOpenings))) ∧
      r.world.2 = [(third, [120, 10]), (⟨1, "B"⟩, [121, 10])] := by
  obtain ⟨s, hs, hc⟩ := run_follows (Site.ofPorts twoPorts (recording steady)) {}
    (steadyRelay fewOpenings (some third))
  have hout : ((steadyRelay fewOpenings (some third)).run
      (Site.ofPorts twoPorts (recording steady)) {}).output =
        [.forwarded [120, 10], .forwarded [121, 10]] := by
    decide +kernel
  have hno : ∀ e, Item.failed e ∉ ((steadyRelay fewOpenings (some third)).run
      (Site.ofPorts twoPorts (recording steady)) {}).output := by
    simp [hout]
  obtain ⟨-, hall, hpunctual, -⟩ := calls_follow_openings (by decide) hs
  have hp : isPunctual 1 (deliveries {} twoPorts (splitLines fewOpenings)) = true := by
    decide +kernel
  refine ⟨s, _, ⟨by decide, hs⟩, hc, hno, hp, by decide +kernel, ?_, by decide +kernel⟩
  rw [hall hc hno, hpunctual hp]

/-- Seventeen openings between two payloads. -/
def manyOpenings : Bytes :=
  (List.replicate 16 (Text.utf8 ":port A\n")).flatten ++ Text.utf8 ":port B\nx\n"

/-- The payload behind them goes to the port that was opened before the last one. -/
theorem calls_miss_last_of_many_openings :
    ∃ s r,
      (steadyRelay manyOpenings none).follow (Site.ofPorts twoPorts (recording steady)) {} s =
        some r ∧
      r.IsComplete (Site.ofPorts twoPorts (recording steady)) {} ∧ (∀ e, Item.failed e ∉ r.output) ∧
      sent (intended none (deliveries {} twoPorts (splitLines manyOpenings))) =
        [(⟨1, "B"⟩, [120, 10])] ∧
      r.world.2 = [(⟨0, "A"⟩, [120, 10])] := by
  obtain ⟨s, hs, hc⟩ := run_follows (Site.ofPorts twoPorts (recording steady)) {}
    (steadyRelay manyOpenings none)
  have hout : ((steadyRelay manyOpenings none).run
      (Site.ofPorts twoPorts (recording steady)) {}).output = [.forwarded [120, 10]] := by
    decide +kernel
  exact ⟨s, _, hs, hc, by simp [hout], by decide +kernel, by decide +kernel⟩

end Relay

end SerialRelay

import SerialRelay.Proofs.Relay.Attachment
import SerialRelay.Proofs.Relay.Outlook

/-!
# The books of pump and writer

The pump counts the buffers that it sends and the ports that it opens, the writer what it forwards,
drops and attaches. As long as the writer goes on, what one has counted and the other has not is on
the link or under way. The writer leaves the link when one of its sources has ended; only where no
handle has ever been on the link may buffers be queued then, and these are in neither count of the
writer.

* `Pump.Tallies`: a pump counts what it puts on its link.
* `Relay.Books`: the two counts, as long as the writer goes on.
* `Relay.buffers_accounted`: the two counts at the end.
-/

namespace SerialRelay

namespace Pump

variable {cfg : InputSettings} {openPort : String → Except PortError Handle} {p : Pump} {l : Link}

/-- **A pump counts what it puts on its link**, and leaves the handles to others who may send
them. -/
structure Tallies (p : Pump) (l : Link) (m : Move) : Prop where
  buffers : m.pump.summary.buffers + l.buffers.items.length =
    p.summary.buffers + m.link.buffers.items.length
  ports : m.pump.summary.portsOpened + l.ports.items.length =
    p.summary.portsOpened + m.link.ports.items.length
  kept : m.link.portsKept = l.portsKept
  sending : l.portsKept = true → m.link.ports.sending = l.ports.sending

theorem Tallies.endSending {p' : Pump} {log : List LogLine}
    (hb : p'.summary.buffers = p.summary.buffers)
    (ho : p'.summary.portsOpened = p.summary.portsOpened) :
    Tallies p l ⟨p', l.endSending, log⟩ where
  buffers := by rw [hb]; rfl
  ports := by simp [ho]
  kept := rfl
  sending hk := by simp [hk]

theorem Tallies.same {p' : Pump} {log : List LogLine} (hb : p'.summary.buffers = p.summary.buffers)
    (ho : p'.summary.portsOpened = p.summary.portsOpened) : Tallies p l ⟨p', l, log⟩ where
  buffers := by rw [hb]
  ports := by rw [ho]
  kept := rfl
  sending _ := rfl

/-- **Every move of a pump is counted**, as long as the handles have a receiver. -/
theorem tallies_of_moves {m : Move} (hr : l.ports.receiving = true) (h : Moves cfg openPort p l m) :
    Tallies p l m := by
  cases h with
  | inputEnd hp hi => exact .endSending rfl rfl
  | notText hp hi ht => exact .endSending rfl rfl
  | @line raw rest text hp hi ht =>
    unfold takeUp
    split <;> exact .same rfl rfl
  | @opened name hp hd =>
    unfold publish
    split
    · next h _ =>
      simp only [hr, if_true]
      exact ⟨rfl, by simp [countOpened, Channel.push]; omega, rfl, fun _ => rfl⟩
    · exact .same rfl rfl
  | refused hp hb => exact .endSending rfl rfl
  | sent hp hb hf => exact ⟨by simp [countBuffer, Channel.push]; omega, rfl, rfl, fun _ => rfl⟩

end Pump

namespace Relay

variable {W : Type} {site : Site W} {cfg : InputSettings} {kept : Bool} {initial : Option Handle}
  {r r' : Relay W}

/-- **The books of pump and writer agree**, as long as the writer goes on. A writer without a handle
has only dropped buffers. -/
structure Books (kept : Bool) (initial : Option Handle) (r : Relay W) : Prop where
  buffers : r.pump.summary.buffers = r.writer.stats.forwarded + r.writer.stats.dropped +
    r.link.buffers.items.length + r.writer.underWay.length
  handles : initial.toList.length + r.pump.summary.portsOpened =
    r.writer.stats.attached + r.link.ports.items.length
  idle : r.writer.current = none →
    r.writer.phase = .selecting ∧ r.writer.stats.attached = 0 ∧ r.writer.stats.forwarded = 0
  kept : kept = true → r.link.portsKept = true ∧ r.link.ports.sending = true

/-- What holds of a relay at any time. -/
structure Accounts (kept : Bool) (initial : Option Handle) (r : Relay W) : Prop where
  wired : r.Wired
  books : r.writer.phase ≠ .failed → r.writer.phase ≠ .ended → r.Books kept initial
  failed : r.writer.phase = .failed → ∃ e, .failed e ∈ r.output
  /-- Behind an end without a failure the pump has nothing left. -/
  ended : r.writer.phase = .ended → (∀ e, Item.failed e ∉ r.output) → r.pump.isOver = true

theorem start_accounts {capacity : ℕ} (hk : 0 < capacity) (kept : Bool) (input : Bytes)
    (initial : Option Handle) (world : W) :
    (start { Link.withCapacity capacity with portsKept := kept } input initial world).Accounts kept
      initial where
  wired := start_wired hk kept input initial world
  books _ _ := ⟨rfl, by simp [start, Pump.ofInput], fun _ => ⟨rfl, rfl, rfl⟩, fun h => ⟨h, rfl⟩⟩
  failed := nofun
  ended := nofun

/-- **A move of the pump is booked.** -/
theorem Books.stepPump (hb : r.Books kept initial) (hw : r.Wired) (hp : r.writer.phase ≠ .ended)
    (h : r.stepPump site cfg = some r') : r'.Books kept initial := by
  obtain ⟨m, hm, rfl⟩ := moves_of_stepPump h
  have ht := Pump.tallies_of_moves (hw.receivers hp).2 hm
  refine ⟨?_, ?_, hb.idle, fun hk => ?_⟩
  · have hbuffers := hb.buffers
    have hcount := ht.buffers
    simp only
    omega
  · have hhandles := hb.handles
    have hcount := ht.ports
    simp only
    omega
  · obtain ⟨hkept, hsending⟩ := hb.kept hk
    exact ⟨ht.kept.trans hkept, (ht.sending hkept).trans hsending⟩

/-- A round that is not the last one takes its event from the link. -/
theorem react_of_goes {e : Event} (h : (r.writer.react e).1.phase ≠ .ended) :
    r.react e = { r with
      writer := (r.writer.react e).1
      link := r.link.take e
      writerLog := r.writerLog ++ (r.writer.react e).2 } := by
  simp [Relay.react, h]

/-- **A round of the writer is booked**, unless it is the last one. -/
theorem Books.react {e : Event} (hb : r.Books kept initial) (hp : r.writer.phase = .selecting)
    (he : r.writer.Selects r.stop r.link.ports.poll r.link.buffers.poll e)
    (hgoes : (r.writer.react e).1.phase ≠ .ended) : (r.react e).Books kept initial := by
  have hidle : r.writer.underWay = [] := by simp [Writer.underWay, hp]
  obtain ⟨hbuffers, hhandles, hnone, hkept⟩ := hb
  rw [hidle, List.length_nil, Nat.add_zero] at hbuffers
  rw [react_of_goes hgoes]
  cases he with
  | shutdown hs => exact absurd rfl hgoes
  | buffersEnded hs hq hi => exact absurd rfl hgoes
  | port hs ht hq =>
    have hitems := congrArg List.length (Channel.items_of_poll_ready hq)
    rw [List.length_cons] at hitems
    refine ⟨?_, ?_, fun h => by simp [Writer.react] at h, hkept⟩
    · simpa [Writer.react, Stats.recordPort, Writer.underWay, hp, Link.take] using hbuffers
    · simp only [Writer.react, Stats.recordPort, Link.take]
      omega
  | portsEnded hs ht hq =>
    cases hc : r.writer.current with
    | none => exact absurd (by simp [Writer.react, hc]) hgoes
    | some h =>
      refine ⟨?_, ?_, fun h => by simp [Writer.react, hc] at h, hkept⟩
      · simpa [Writer.react, hc, Writer.underWay, hp, Link.take] using hbuffers
      · simpa [Writer.react, hc, Link.take] using hhandles
  | buffer hs hq hi =>
    have hitems := congrArg List.length (Channel.items_of_poll_ready hi)
    rw [List.length_cons] at hitems
    cases hc : r.writer.current with
    | none =>
      refine ⟨?_, ?_, fun _ => ?_, hkept⟩
      · simp only [Writer.react, hc, Stats.recordDropped, Writer.underWay, hp, Link.take,
          List.length_nil]
        omega
      · simpa [Writer.react, hc, Stats.recordDropped, Link.take] using hhandles
      · simpa [Writer.react, hc, Stats.recordDropped] using hnone hc
    | some h =>
      refine ⟨?_, ?_, fun h => by simp [Writer.react, hc] at h, hkept⟩
      · simp only [Writer.react, hc, Writer.underWay, Link.take, List.length_cons, List.length_nil]
        omega
      · simpa [Writer.react, hc, Link.take] using hhandles

/-- **A write that succeeds is booked.** -/
theorem Books.land {h : Handle} {b : Bytes} (hb : r.Books kept initial)
    (hp : r.writer.phase = .writing h b) (hw : (site.write r.world h b).1 = .ok ()) :
    (r.land site h b).Books kept initial := by
  have hone : r.writer.underWay.length = 1 := by simp [Writer.underWay, hp]
  have hbuffers := hb.buffers
  refine ⟨?_, ?_, fun hc => ?_, hb.kept⟩
  · simp only [Relay.land, hw, Writer.settle, Stats.recordForwarded, Writer.underWay,
      List.length_nil]
    omega
  · simpa [Relay.land, hw, Writer.settle, Stats.recordForwarded] using hb.handles
  · have hnone : r.writer.current = none := by simpa [Relay.land, hw, Writer.settle] using hc
    rw [(hb.idle hnone).1] at hp
    cases hp

/-- The last round of a writer: a source has ended, and nothing is counted any more. -/
theorem over_of_react {e : Event} (hw : r.Wired) (hp : r.writer.phase = .selecting)
    (he : r.writer.Selects r.stop r.link.ports.poll r.link.buffers.poll e)
    (hends : (r.writer.react e).1.phase = .ended) :
    (r.writer.react e).1.stats = r.writer.stats ∧ r.pump.isOver = true ∧
      (e = .buffersEnded ∧ r.link.buffers.items = [] ∨
        e = .portsEnded ∧ r.writer.current = none ∧ r.link.ports.poll = .ended) := by
  have hph : r.writer.phase ≠ .ended := by simp [hp]
  cases he with
  | shutdown hs => rw [hw.stop] at hs; contradiction
  | port hs ht hq => rw [Writer.react, hp] at hends; cases hends
  | buffer hs hq hi => cases hc : r.writer.current <;> simp [Writer.react, hc, hp] at hends
  | buffersEnded hs hq hi =>
    exact ⟨rfl, hw.isOver_of_buffersEnded hph hi, .inl ⟨rfl, (Channel.poll_ended hi).1⟩⟩
  | portsEnded hs ht hq =>
    cases hc : r.writer.current with
    | some h => simp [Writer.react, hc, hp] at hends
    | none =>
      exact ⟨by simp [Writer.react, hc], hw.isOver_of_portsEnded hph hq, .inr ⟨rfl, rfl, hq⟩⟩

/-- **Every step is booked.** -/
theorem Accounts.move {t : Turn} (ha : r.Accounts kept initial) (h : r.move site cfg t = some r') :
    r'.Accounts kept initial := by
  have hw' := ha.wired.move h
  cases t with
  | pump =>
    have hpump : r'.writer = r.writer ∧ r'.output = r.output := by
      obtain ⟨m, -, rfl⟩ := moves_of_stepPump h
      exact ⟨rfl, rfl⟩
    have hgoes : r.pump.isOver = false := by
      obtain ⟨m, hm, -⟩ := moves_of_stepPump h
      exact Pump.isOver_of_moves hm
    refine ⟨hw', fun hnf hne => ?_, ?_, fun hend hok => ?_⟩
    · rw [hpump.1] at hnf hne
      exact (ha.books hnf hne).stepPump ha.wired hne h
    · rw [hpump.1, hpump.2]
      exact ha.failed
    · rw [hpump.1] at hend
      rw [hpump.2] at hok
      rw [ha.ended hend hok] at hgoes
      contradiction
  | writer =>
    cases writerSteps_of_step h with
    | @took e hp he =>
      have hbooks := ha.books (by simp [hp]) (by simp [hp])
      refine ⟨hw', fun _ hne => hbooks.react hp he hne, fun hf => ?_, fun hend _ => ?_⟩
      · have hnever : (r.writer.react e).1.phase ≠ .failed := by
          cases e <;> cases hc : r.writer.current <;> simp [Writer.react, hc, hp]
        exact absurd hf hnever
      · exact (over_of_react ha.wired hp he hend).2.1
    | @landed hd b hp =>
      have hbooks := ha.books (by simp [hp]) (by simp [hp])
      cases hwrite : (site.write r.world hd b).1 with
      | ok u =>
        have hphase : (r.land site hd b).writer.phase = .selecting := by
          simp [land, hwrite, Writer.settle]
        refine ⟨hw', fun _ _ => hbooks.land hp hwrite, fun hf => ?_, fun hend _ => ?_⟩
        · rw [hphase] at hf
          cases hf
        · rw [hphase] at hend
          cases hend
      | error e =>
        have hphase : (r.land site hd b).writer.phase = .failed := by
          simp [land, hwrite, Writer.settle]
        refine ⟨hw', fun hnf _ => absurd hphase hnf, fun _ => ⟨⟨hd.name, e⟩, ?_⟩, fun hend _ => ?_⟩
        · simp [land, hwrite, Writer.settle]
        · rw [hphase] at hend
          cases hend
    | left hp =>
      refine ⟨hw', fun _ hne => absurd rfl hne, fun hf => Writer.Phase.noConfusion hf,
        fun _ hok => ?_⟩
      obtain ⟨e, he⟩ := ha.failed hp
      exact absurd he (hok e)

/-- Behind an end without a failure nobody moves. -/
theorem Accounts.move_eq_none (ha : r.Accounts kept initial) (hend : r.writer.phase = .ended)
    (hok : ∀ e, Item.failed e ∉ r.output) (t : Turn) : r.move site cfg t = none := by
  cases t with
  | pump =>
    cases h : r.stepPump site cfg with
    | none => exact h
    | some r' =>
      obtain ⟨m, hm, -⟩ := moves_of_stepPump h
      have hgoes := Pump.isOver_of_moves hm
      rw [ha.ended hend hok] at hgoes
      contradiction
  | writer => simp [Relay.move, stepWriter, hend]

/-- **The last round of a writer leaves the books balanced**, but for the buffers that are queued.
There are none if the writer has seen the end of the buffers. -/
theorem Accounts.balance (ha : r.Accounts kept initial) (h : r.move site cfg .writer = some r')
    (hend : r'.writer.phase = .ended) (hok : ∀ e, Item.failed e ∉ r'.output) :
    r'.pump.summary.buffers =
        r'.writer.stats.forwarded + r'.writer.stats.dropped + r.link.buffers.items.length ∧
      (r.link.buffers.items ≠ [] → r.event? = some .portsEnded ∧ r'.writer.stats.attached = 0 ∧
        r'.writer.stats.forwarded = 0 ∧ kept = false ∧ initial = none ∧
          r'.pump.summary.portsOpened = 0) := by
  cases writerSteps_of_step h with
  | @landed hd b hp =>
    cases hwrite : (site.write r.world hd b).1 <;> simp [land, hwrite, Writer.settle] at hend
  | left hp =>
    obtain ⟨e, he⟩ := ha.failed hp
    exact absurd he (hok e)
  | @took e hp he =>
    have hbooks := ha.books (by simp [hp]) (by simp [hp])
    have hidle : r.writer.underWay = [] := by simp [Writer.underWay, hp]
    obtain ⟨hstats, -, hlast⟩ := over_of_react ha.wired hp he hend
    have hbuffers := hbooks.buffers
    rw [hidle, List.length_nil, Nat.add_zero] at hbuffers
    have hstats : (r.react e).writer.stats = r.writer.stats := hstats
    rw [hstats]
    refine ⟨hbuffers, fun hqueued => ?_⟩
    rcases hlast with ⟨-, hempty⟩ | ⟨rfl, hc, hports⟩
    · exact absurd hempty hqueued
    obtain ⟨-, hattached, hforwarded⟩ := hbooks.idle hc
    obtain ⟨hitems, hsending⟩ := Channel.poll_ended hports
    have hsending := hsending (ha.wired.receivers (by simp [hp])).2
    have hhandles := hbooks.handles
    rw [hattached, hitems, List.length_nil] at hhandles
    refine ⟨?_, hattached, hforwarded, ?_, ?_, ?_⟩
    · rw [event?, if_pos hp]
      exact Writer.select_eq_some_iff.2 he
    · cases hk : kept with
      | false => rfl
      | true =>
        rw [(hbooks.kept hk).2] at hsending
        contradiction
    · cases hi : initial with
      | none => rfl
      | some h => simp [hi] at hhandles
    · have hopened : (r.react .portsEnded).pump = r.pump := rfl
      rw [hopened]
      omega

theorem accounts_of_follow {s : List Turn} (ha : r.Accounts kept initial)
    (h : r.follow site cfg s = some r') : r'.Accounts kept initial :=
  foldlM_keeps (P := fun q => q.Accounts kept initial) (fun _ _ _ _ hq hstep => hq.move hstep) ha h

/-- **The writer makes the last step** of a run that ends without a failure. -/
theorem Accounts.exists_last_round {s : List Turn} (ha : r.Accounts kept initial)
    (hgoes : r.writer.phase ≠ .ended) (h : r.follow site cfg s = some r')
    (hend : r'.writer.phase = .ended) (hok : ∀ e, Item.failed e ∉ r'.output) :
    ∃ s₁ r₁, s = s₁ ++ [.writer] ∧ r.follow site cfg s₁ = some r₁ ∧
      r₁.move site cfg .writer = some r' ∧
      r₁.Accounts kept initial := by
  rcases List.eq_nil_or_concat s with rfl | ⟨s₁, t, rfl⟩
  · cases h
    exact absurd hend hgoes
  rw [List.concat_eq_append] at h
  obtain ⟨r₁, h₁, h₂⟩ := foldlM_append_eq_some.1 h
  obtain ⟨r₂, hlast, hnil⟩ := foldlM_cons_eq_some.1 h₂
  obtain rfl : r₂ = r' := Option.some.inj hnil
  have ha₁ := accounts_of_follow ha h₁
  cases t with
  | writer => exact ⟨s₁, r₁, List.concat_eq_append, h₁, hlast, ha₁⟩
  | pump =>
    -- the pump leaves the writer and the output, so the output had ended before, and nobody could
    -- move
    obtain ⟨m, -, hr⟩ := moves_of_stepPump hlast
    have hwriter : r₁.writer.phase = .ended := by rw [← hend, hr]
    have houtput : r₂.output = r₁.output := by rw [hr]
    rw [houtput] at hok
    rw [ha₁.move_eq_none hwriter hok .pump] at hlast
    contradiction

/-- **Every buffer that was sent is accounted for** when the output has ended without a failure: it
was forwarded or dropped, if there was ever a handle on the link, or if somebody besides the pump
may still send one. If not, the writer leaves when it sees the handles end. Then nothing was
forwarded, and what is queued at that moment is in neither count. -/
theorem buffers_accounted {capacity : ℕ} (hk : 0 < capacity) {kept : Bool} {input : Bytes}
    {initial : Option Handle} {world : W} {s : List Turn} {r : Relay W}
    (h : (start { Link.withCapacity capacity with portsKept := kept } input initial world).follow
      site cfg s = some r)
    (hend : r.writer.phase = .ended) (hok : ∀ e, Item.failed e ∉ r.output) :
    r.pump.isOver = true ∧
      (kept = true ∨ initial.isSome = true ∨ 0 < r.pump.summary.portsOpened →
        r.pump.summary.buffers = r.writer.stats.forwarded + r.writer.stats.dropped) ∧
      ∃ s₁ r₁, s = s₁ ++ [.writer] ∧
        (start { Link.withCapacity capacity with portsKept := kept } input initial world).follow
          site cfg s₁ = some r₁ ∧
        r.pump.summary.buffers =
          r.writer.stats.forwarded + r.writer.stats.dropped + r₁.link.buffers.items.length ∧
        (r₁.link.buffers.items ≠ [] → r₁.event? = some .portsEnded ∧ r.writer.stats.attached = 0 ∧
          r.writer.stats.forwarded = 0) := by
  obtain ⟨s₁, r₁, hs, h₁, hlast, ha⟩ :=
    (start_accounts hk kept input initial world).exists_last_round nofun h hend hok
  obtain ⟨hbuffers, hleft⟩ := ha.balance hlast hend hok
  refine ⟨(ha.move hlast).ended hend hok, fun hhandle => ?_, s₁, r₁, hs, h₁, hbuffers,
    fun hqueued => ?_⟩
  · by_cases hqueued : r₁.link.buffers.items = []
    · rw [hbuffers, hqueued]
      rfl
    · obtain ⟨-, -, -, hkept, hinitial, hopened⟩ := hleft hqueued
      rw [hkept, hinitial, hopened] at hhandle
      simp at hhandle
  · obtain ⟨hevent, hattached, hforwarded, -⟩ := hleft hqueued
    exact ⟨hevent, hattached, hforwarded⟩

/-- Every name opens a port, and every write succeeds. -/
def openSite : Site Unit where
  openPort _ _ name := .ok ⟨0, name⟩
  write _ _ _ := (.ok (), ())

/-- One payload comes before the opening and is dropped, one comes behind it. -/
theorem buffers_accounted_opening :
    ∃ s r,
      (0 < 1 ∧
        (start { Link.withCapacity 1 with portsKept := false } (Text.utf8 "x\n:port A\ny\n") none
          ()).follow openSite {} s = some r ∧
        r.writer.phase = .ended ∧ (∀ e, Item.failed e ∉ r.output) ∧
        0 < r.pump.summary.portsOpened) ∧
      r.pump.summary.buffers = r.writer.stats.forwarded + r.writer.stats.dropped ∧
      r.pump.summary.buffers = 2 := by
  obtain ⟨s, r, h, hend, hout, hopened, htwo⟩ : ∃ s r,
      (start { Link.withCapacity 1 with portsKept := false } (Text.utf8 "x\n:port A\ny\n") none
        ()).follow openSite {} s = some r ∧
      r.writer.phase = .ended ∧ r.output = [.forwarded [121, 10]] ∧
      0 < r.pump.summary.portsOpened ∧ r.pump.summary.buffers = 2 :=
    ⟨[.pump, .pump, .writer, .pump, .pump, .writer, .pump, .pump, .writer, .writer, .pump, .writer,
      .writer], _, rfl, rfl, rfl, by decide, rfl⟩
  have hok : ∀ e, Item.failed e ∉ r.output := by simp [hout]
  obtain ⟨-, hequal, -⟩ := buffers_accounted (by decide) h hend hok
  exact ⟨s, r, ⟨by decide, h, hend, hok, hopened⟩, hequal (.inr (.inr hopened)), htwo⟩

/-- Without any opening, a pump that is ahead of the writer leaves a buffer that nobody counts. -/
theorem buffers_accounted_fails_without_handle :
    ∃ r,
      (start { Link.withCapacity 1 with portsKept := false } (Text.utf8 "x\n") none ()).follow
        openSite {} [.pump, .pump, .pump, .writer] = some r ∧
      r.IsComplete openSite {} ∧ r.pump.phase = .finished ∧ r.pump.input = [] ∧ r.stop = false ∧
      (∀ e, Item.failed e ∉ r.output) ∧ r.pump.summary.buffers = 1 ∧
      r.pump.summary.buffers ≠ r.writer.stats.forwarded + r.writer.stats.dropped := by
  obtain ⟨r, h, hc, hphase, hinput, hstop, hout, hone, hzero⟩ : ∃ r,
      (start { Link.withCapacity 1 with portsKept := false } (Text.utf8 "x\n") none ()).follow
        openSite {} [.pump, .pump, .pump, .writer] = some r ∧
      r.IsComplete openSite {} ∧ r.pump.phase = .finished ∧ r.pump.input = [] ∧ r.stop = false ∧
      r.output = [] ∧ r.pump.summary.buffers = 1 ∧
      r.writer.stats.forwarded + r.writer.stats.dropped = 0 :=
    ⟨_, rfl, ⟨rfl, rfl⟩, rfl, rfl, rfl, rfl, rfl, rfl⟩
  exact ⟨r, h, hc, hphase, hinput, hstop, by simp [hout], hone, by rw [hone, hzero]; decide⟩

end Relay

end SerialRelay

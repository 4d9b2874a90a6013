import SerialRelay.Port.Book
import SerialRelay.Proofs.Relay.Attachment
import SerialRelay.Writer.Bench

/-!
# Failed writes

A write that fails is the last thing that a writer does. Its item goes out, the counters stay as
they were before the buffer was taken, and the next look at the output finds its end. From then on
nothing is taken, written or counted, whatever is ready or arrives.

* `Attachment.WriterMoves`: the three ways in which the writer of an attachment moves.
* `Attachment.Looks`: a look at the output, during which more may arrive.
* `Attachment.rests_of_follow`: behind a failure, and behind the end, no move does anything.
* `Attachment.failure_is_last`: what a failed write leaves behind, and that it is the last item of
  its run.
-/

namespace SerialRelay

/-- Only the last of these items may be a failure. -/
def OnlyLastFails (items : List Item) : Prop := ∀ i ∈ items.dropLast, ∃ b, i = .forwarded b

namespace Attachment

variable {W : Type} {site : Site W} {a a' b : Attachment W}

/-- **The moves of the writer**: it takes an event, ends a write, or leaves after a failed one. -/
inductive WriterMoves (site : Site W) (a : Attachment W) : Attachment W → Prop
  | took {e : Event} (hp : a.relay.writer.phase = .selecting)
      (he : a.relay.writer.Selects a.relay.stop a.relay.link.ports.poll
        a.relay.link.buffers.poll e) :
      WriterMoves site a { a with relay := a.relay.react e, events := a.events ++ [e] }
  | landed {h : Handle} {b : Bytes} (hp : a.relay.writer.phase = .writing h b) :
      WriterMoves site a { a with relay := a.relay.land site.logged h b }
  | left (hp : a.relay.writer.phase = .failed) :
      WriterMoves site a { a with relay := a.relay.leave }

theorem writerMoves_of_step (h : a.step site .writer = some a') : WriterMoves site a a' := by
  obtain ⟨r, hr, rfl⟩ := Option.map_eq_some_iff.1 h
  cases Relay.writerSteps_of_step hr with
  | @took e hp he =>
    have hevent : a.relay.event? = some e := by
      rw [Relay.event?, if_pos hp]
      exact Writer.select_eq_some_iff.2 he
    rw [hevent]
    exact .took hp he
  | @landed hd b hp =>
    have hevent : a.relay.event? = none := if_neg (by simp [hp])
    rw [hevent, Option.toList_none, List.append_nil]
    exact .landed hp
  | left hp =>
    have hevent : a.relay.event? = none := if_neg (by simp [hp])
    rw [hevent, Option.toList_none, List.append_nil]
    exact .left hp

/-- A writer that has started a write can end it. -/
theorem step_of_writing {h : Handle} {b : Bytes} (hp : a.relay.writer.phase = .writing h b) :
    a.step site .writer = some { a with relay := a.relay.land site.logged h b } := by
  have hevent : a.relay.event? = none := if_neg (by simp [hp])
  simp [step, Relay.stepWriter, hp, hevent, Relay.land]

/-- A writer that is to take an event takes it. -/
theorem step_of_event {e : Event} (he : a.relay.event? = some e) :
    a.step site .writer = some { a with relay := a.relay.react e, events := a.events ++ [e] } := by
  have hp : a.relay.writer.phase = .selecting := by
    by_contra hp
    rw [Relay.event?, if_neg hp] at he
    contradiction
  have hsel := he
  rw [Relay.event?, if_pos hp] at hsel
  simp [step, Relay.stepWriter, hp, hsel, he]

/-- Between the two nothing was taken, written, emitted or counted. -/
structure Rests (a a' : Attachment W) : Prop where
  events : a'.events = a.events
  world : a'.relay.world = a.relay.world
  output : a'.relay.output = a.relay.output
  stats : a'.relay.writer.stats = a.relay.writer.stats

theorem Rests.refl (a : Attachment W) : a.Rests a := ⟨rfl, rfl, rfl, rfl⟩

theorem Rests.trans (h₁ : a.Rests a') (h₂ : a'.Rests b) : a.Rests b :=
  ⟨h₂.events.trans h₁.events, h₂.world.trans h₁.world, h₂.output.trans h₁.output,
    h₂.stats.trans h₁.stats⟩

/-- What arrives, or is signalled, leaves the writer and its work as they are. -/
theorem rests_of_arrival {m : Move} (hm : m ≠ .writer) (h : a.step site m = some a') :
    a.Rests a' ∧ a'.relay.writer = a.relay.writer := by
  cases m with
  | handle hd =>
    obtain ⟨q, -, rfl⟩ := Option.map_eq_some_iff.1 h
    exact ⟨⟨rfl, rfl, rfl, rfl⟩, rfl⟩
  | buffer b =>
    obtain ⟨q, -, rfl⟩ := Option.map_eq_some_iff.1 h
    exact ⟨⟨rfl, rfl, rfl, rfl⟩, rfl⟩
  | endHandles => cases h; exact ⟨⟨rfl, rfl, rfl, rfl⟩, rfl⟩
  | endBuffers => cases h; exact ⟨⟨rfl, rfl, rfl, rfl⟩, rfl⟩
  | signal value => cases h; exact ⟨⟨rfl, rfl, rfl, rfl⟩, rfl⟩
  | writer => exact absurd rfl hm

theorem rests_of_arrivals {ms : List Move} (hm : .writer ∉ ms) (h : a.follow site ms = some a') :
    a.Rests a' ∧ a'.relay.writer = a.relay.writer := by
  refine foldlM_keeps (P := fun q => a.Rests q ∧ q.relay.writer = a.relay.writer)
    ?_ ⟨.refl a, rfl⟩ h
  rintro m hmem q q' ⟨hrest, hw⟩ hstep
  have hother : m ≠ .writer := fun he => hm (he ▸ hmem)
  obtain ⟨hrest', hw'⟩ := rests_of_arrival hother hstep
  exact ⟨hrest.trans hrest', hw'.trans hw⟩

/-- The writer takes nothing more: a write has failed, or the output has ended. -/
def HasStopped (a : Attachment W) : Prop :=
  a.relay.writer.phase = .failed ∨ a.relay.writer.phase = .ended

/-- **Behind a failure, and behind the end, no move does anything.** -/
theorem rests_of_stopped {m : Move} (hs : a.HasStopped) (h : a.step site m = some a') :
    a.Rests a' ∧ a'.HasStopped := by
  by_cases hm : m = .writer
  · subst hm
    cases writerMoves_of_step h with
    | took hp => rcases hs with hs | hs <;> rw [hp] at hs <;> cases hs
    | landed hp => rcases hs with hs | hs <;> rw [hp] at hs <;> cases hs
    | left hp => exact ⟨⟨rfl, rfl, rfl, rfl⟩, .inr rfl⟩
  · obtain ⟨hrest, hw⟩ := rests_of_arrival hm h
    refine ⟨hrest, ?_⟩
    unfold HasStopped
    rw [hw]
    exact hs

theorem rests_of_follow {ms : List Move} (hs : a.HasStopped) (h : a.follow site ms = some a') :
    a.Rests a' := by
  refine (foldlM_keeps (P := fun q => a.Rests q ∧ q.HasStopped) ?_ ⟨.refl a, hs⟩ h).1
  rintro m - q q' ⟨hrest, hq⟩ hstep
  obtain ⟨hrest', hq'⟩ := rests_of_stopped hq hstep
  exact ⟨hrest.trans hrest', hq'⟩

/-- **A look at the output**: the writer moves until there is something to see. More may arrive
meanwhile, and a write under way may take longer than the look. -/
inductive Looks (site : Site W) : Attachment W → Look → Attachment W → Prop
  | item {a a' : Attachment W} {i : Item} (h : a.step site .writer = some a')
      (ho : a'.relay.output = a.relay.output ++ [i]) : Looks site a (.item i) a'
  | finished {a a' : Attachment W} (h : a.step site .writer = some a')
      (hp : a'.relay.writer.phase = .ended) :
      Looks site a .finished a'
  | ended {a : Attachment W} (hp : a.relay.writer.phase = .ended) : Looks site a .over a
  | idle {a : Attachment W} (hp : a.relay.writer.phase = .selecting)
      (h : a.step site .writer = none) :
      Looks site a .idle a
  | blocked {a : Attachment W} {h : Handle} {b : Bytes} (hp : a.relay.writer.phase = .writing h b) :
      Looks site a .blocked a
  | goesOn {a a₁ a₂ : Attachment W} {m : Move} {l : Look} (h : a.step site m = some a₁)
      (hm : m = .writer → a₁.relay.output = a.relay.output ∧ a₁.relay.writer.phase ≠ .ended)
      (hl : Looks site a₁ l a₂) : Looks site a l a₂

/-- The next look behind a failure finds the end of the output. -/
theorem look_of_failed {l : Look} (hp : a.relay.writer.phase = .failed) (hl : Looks site a l a') :
    l = .finished := by
  -- induction on the look: what arrives leaves the failure, and the first move of the writer ends
  -- the output
  induction hl with
  | item h ho =>
    cases writerMoves_of_step h with
    | took hp' => rw [hp] at hp'; cases hp'
    | landed hp' => rw [hp] at hp'; cases hp'
    | left => simp [Relay.leave] at ho
  | finished => rfl
  | ended hp' => rw [hp] at hp'; cases hp'
  | idle hp' => rw [hp] at hp'; cases hp'
  | blocked hp' => rw [hp] at hp'; cases hp'
  | @goesOn a a₁ a₂ m l h hm hl ih =>
    by_cases hw : m = .writer
    · subst hw
      cases writerMoves_of_step h with
      | took hp' => rw [hp] at hp'; cases hp'
      | landed hp' => rw [hp] at hp'; cases hp'
      | left => exact absurd rfl (hm rfl).2
    · refine ih ?_
      rw [(rests_of_arrival hw h).2]
      exact hp

theorem exists_look_of_failed (hp : a.relay.writer.phase = .failed) :
    ∃ a', Looks site a .finished a' := by
  have hevent : a.relay.event? = none := if_neg (by simp [hp])
  refine ⟨{ a with relay := a.relay.leave }, .finished ?_ rfl⟩
  simp [step, Relay.stepWriter, hp, hevent, Relay.leave]

/-- An output to which only successes were added ends in its last item at most with a failure. -/
theorem onlyLastFails_concat {items : List Item} (h : ∀ i ∈ items, ∃ b, i = .forwarded b)
    (i : Item) :
    OnlyLastFails (items ++ [i]) := by
  intro j hj
  rw [List.dropLast_concat] at hj
  exact h j hj

/-- As long as the writer goes on, all its items are successes. -/
theorem Faithful.forwarded (hf : a.Faithful) (hnf : a.relay.writer.phase ≠ .failed)
    (hne : a.relay.writer.phase ≠ .ended) : ∀ i ∈ a.relay.output, ∃ b, i = .forwarded b := by
  intro i hi
  rw [hf.output] at hi
  obtain ⟨c, hc, rfl⟩ := List.mem_map.1 hi
  exact ⟨c.buffer, by rw [Call.item, hf.succeeded hnf hne c hc]⟩

theorem onlyLastFails_step {m : Move} (hf : a.Faithful) (ho : OnlyLastFails a.relay.output)
    (h : a.step site m = some a') : OnlyLastFails a'.relay.output := by
  by_cases hm : m = .writer
  · subst hm
    cases writerMoves_of_step h with
    | took hp => exact ho
    | landed hp => exact onlyLastFails_concat (hf.forwarded (by simp [hp]) (by simp [hp])) _
    | left hp => exact ho
  · rw [(rests_of_arrival hm h).1.output]
    exact ho

/-- **In every run a failure is the last item.** -/
theorem onlyLastFails_of_follow {world : W} {ms : List Move}
    (h : (start world).follow site ms = some a) :
    OnlyLastFails a.relay.output := by
  have hstart : OnlyLastFails (start world).relay.output := nofun
  refine (foldlM_keeps (P := fun q => q.Faithful ∧ OnlyLastFails q.relay.output) ?_
    ⟨start_faithful world, hstart⟩ h).2
  rintro m - q q' ⟨hf, ho⟩ hstep
  exact ⟨hf.step hstep, onlyLastFails_step hf ho hstep⟩

/-- **What a failed write leaves behind**, from the state in which its buffer was to be taken. -/
structure Fails (site : Site W) (a a' : Attachment W) (h : Handle) (b : Bytes) (e : PortError) :
    Prop where
  output : a'.relay.output = a.relay.output ++ [.failed ⟨h.name, e⟩]
  stats : a'.relay.writer.stats = a.relay.writer.stats
  events : a'.events = a.events ++ [.buffer b]
  calls : a'.calls = a.calls ++ [⟨h, b, .error e⟩]
  /-- The next look finds the end of the output. -/
  looks : ∀ l a'', Looks site a' l a'' → l = .finished
  ends : ∃ a'', Looks site a' .finished a''
  /-- Nothing is done from then on. -/
  rests : ∀ ms a'', a'.follow site ms = some a'' → a'.Rests a''

/-- The end of a write that fails. -/
theorem fails_of_landed {a₂ : Attachment W} {h : Handle} {b : Bytes} {e : PortError}
    (hw : (site.write a₂.relay.world.1 h b).1 = .error e)
    (he : a₂.events = a.events ++ [.buffer b]) (hworld : a₂.relay.world = a.relay.world)
    (ho : a₂.relay.output = a.relay.output) (hs : a₂.relay.writer.stats = a.relay.writer.stats) :
    Fails site a { a₂ with relay := a₂.relay.land site.logged h b } h b e := by
  have hres : (site.logged.write a₂.relay.world h b).1 = .error e := hw
  have hfail : (a₂.relay.land site.logged h b).writer.phase = .failed := by
    simp [Relay.land, hres, Writer.settle]
  refine ⟨?_, ?_, he, ?_, fun l a'' hl => look_of_failed hfail hl, exists_look_of_failed hfail,
    fun ms a'' hf => rests_of_follow (.inl hfail) hf⟩
  · simp [Relay.land, hres, Writer.settle, ho]
  · simp [Relay.land, hres, Writer.settle, hs]
  · have hcalls : ({ a₂ with relay := a₂.relay.land site.logged h b } : Attachment W).calls =
        a₂.calls ++ [⟨h, b, (site.write a₂.relay.world.1 h b).1⟩] := rfl
    rw [hcalls, hw, calls, hworld]
    rfl

/-- **A failed write is the last thing that a writer does.** In every run only the last item may be
a failure. Where a buffer is to be taken whose write to the current handle fails, the writer takes
it, and whatever arrives during the write, its end emits that one failure, counts nothing and stops
the writer. -/
theorem failure_is_last {world : W} {ms : List Move} (hr : (start world).follow site ms = some a) :
    OnlyLastFails a.relay.output ∧
      ∀ h b e, a.relay.writer.current = some h → a.relay.event? = some (.buffer b) →
        (site.write a.relay.world.1 h b).1 = .error e →
        ∃ a₁, a.step site .writer = some a₁ ∧ a₁.relay.writer.phase = .writing h b ∧
          ∀ during a₂, .writer ∉ during → a₁.follow site during = some a₂ →
            ∃ a₃, a₂.step site .writer = some a₃ ∧ Fails site a a₃ h b e := by
  refine ⟨onlyLastFails_of_follow hr, ?_⟩
  intro h b e hc he hw
  -- the buffer is taken: a write starts, and no counter moves
  have hreact : (a.relay.react (.buffer b)).writer =
      { a.relay.writer with portsInRow := 0, phase := .writing h b } := by
    simp [Relay.react, Writer.react, hc]
  have hphase : (a.relay.react (.buffer b)).writer.phase = .writing h b := by rw [hreact]
  have hstats : (a.relay.react (.buffer b)).writer.stats = a.relay.writer.stats := by rw [hreact]
  refine ⟨_, step_of_event he, hphase, ?_⟩
  intro during a₂ hd h₂
  obtain ⟨hrest, hsame⟩ := rests_of_arrivals hd h₂
  have hworld : a₂.relay.world = a.relay.world := hrest.world
  have hp : a₂.relay.writer.phase = .writing h b := by rw [hsame]; exact hphase
  refine ⟨_, step_of_writing hp, fails_of_landed ?_ hrest.events hworld hrest.output ?_⟩
  · rw [hworld]
    exact hw
  · rw [hrest.stats]
    exact hstats

/-- A port that takes one octet at a time, and only one. -/
def brittleBook : PortBook :=
  ⟨[("A", .port { port := { maxChunk := some 1, budget := some 1 } })], []⟩

/-- Its first octet is taken, then the port fails; meanwhile another handle and another buffer have
arrived, and one more comes later. -/
theorem failure_is_last_partial :
    ∃ a a₁ a₂ a₃ a₄ : Attachment PortBook,
      (start brittleBook).follow PortBook.site
        [.handle ⟨0, "A"⟩, .writer, .buffer [1, 2]] = some a ∧
      a.step PortBook.site .writer = some a₁ ∧
      a₁.follow PortBook.site [.handle ⟨0, "A"⟩, .buffer [3]] = some a₂ ∧
      a₂.step PortBook.site .writer = some a₃ ∧ a₃.follow PortBook.site [.buffer [4]] = some a₄ ∧
      OnlyLastFails a.relay.output ∧ Fails PortBook.site a a₃ ⟨0, "A"⟩ [1, 2] SimPort.spent ∧
      a₄.relay.output = [.failed ⟨"A", SimPort.spent⟩] ∧
      a₄.events = [.port ⟨0, "A"⟩, .buffer [1, 2]] ∧
      a₄.relay.world.1.entries =
        [("A", .port { port := { maxChunk := some 1, budget := some 0, log := [[1]] } })] := by
  obtain ⟨a, a₁, a₂, a₃, a₄, hr, h₁, h₂, h₃, h₄, hc, he, hw, hout, hevents, hport⟩ :
      ∃ a a₁ a₂ a₃ a₄ : Attachment PortBook,
        (start brittleBook).follow PortBook.site [.handle ⟨0, "A"⟩, .writer, .buffer [1, 2]] =
          some a ∧
        a.step PortBook.site .writer = some a₁ ∧
        a₁.follow PortBook.site [.handle ⟨0, "A"⟩, .buffer [3]] = some a₂ ∧
        a₂.step PortBook.site .writer = some a₃ ∧ a₃.follow PortBook.site [.buffer [4]] = some a₄ ∧
        a.relay.writer.current = some ⟨0, "A"⟩ ∧ a.relay.event? = some (.buffer [1, 2]) ∧
        (PortBook.site.write a.relay.world.1 ⟨0, "A"⟩ [1, 2]).1 = .error SimPort.spent ∧
        a₄.relay.output = [.failed ⟨"A", SimPort.spent⟩] ∧
        a₄.events = [.port ⟨0, "A"⟩, .buffer [1, 2]] ∧
        a₄.relay.world.1.entries =
          [("A", .port { port := { maxChunk := some 1, budget := some 0, log := [[1]] } })] :=
    ⟨_, _, _, _, _, rfl, rfl, rfl, rfl, rfl, rfl, rfl, rfl, rfl, rfl, rfl⟩
  obtain ⟨hlast, hfails⟩ := failure_is_last hr
  obtain ⟨b₁, hb₁, -, hends⟩ := hfails _ _ _ hc he hw
  obtain rfl : a₁ = b₁ := Option.some.inj (h₁.symm.trans hb₁)
  obtain ⟨b₃, hb₃, hf⟩ := hends _ _ (by decide) h₂
  obtain rfl : a₃ = b₃ := Option.some.inj (h₃.symm.trans hb₃)
  exact ⟨a, a₁, a₂, a₃, a₄, hr, h₁, h₂, h₃, h₄, hlast, hf, hout, hevents, hport⟩

end Attachment

end SerialRelay

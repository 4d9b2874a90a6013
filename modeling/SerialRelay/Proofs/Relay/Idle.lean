import SerialRelay.Proofs.Relay.Tally
import SerialRelay.Proofs.Relay.Wiring
import SerialRelay.Proofs.Writer.Overtaking

/-!
# A writer that waits

A look at the output finds nothing to do: no write is under way, and no source that the writer looks
at has anything. Whether the writer has then caught up with its handles turns on the limit. Behind
`maxPortsInRow` handles in a row it looks at its buffers only, and with none there it waits,
although handles are ready.

* `Attachment.runs_of_follow`: a writer on channels makes one of the runs that a writer can make.
* `Attachment.CaughtUp`: all handles that have arrived were taken, and the last one is in use.
* `Attachment.idle_caughtUp_iff`: a waiting writer has caught up just if no more than
  `maxPortsInRow` handles have arrived besides those taken before the last buffer.
-/

namespace SerialRelay

/-- The events up to the last buffer. -/
def throughBuffer (es : List Event) : List Event := es.rdropWhile fun e => !e.isBuffer

theorem throughBuffer_append_sinceBuffer (es : List Event) :
    throughBuffer es ++ sinceBuffer es = es :=
  List.rdropWhile_append_rtakeWhile

namespace Attachment

variable {W : Type} {site : Site W} {a a' : Attachment W}

/-- **A writer on channels makes one of the runs that a writer can make.** -/
theorem runs_of_follow {world : W} {ms : List Move} (h : (start world).follow site ms = some a) :
    Writer.Runs a.events a.relay.writer := by
  refine foldlM_keeps (P := fun q => Writer.Runs q.events q.relay.writer) ?_ .start h
  intro m _ q q' hr hstep
  by_cases hm : m = .writer
  · subst hm
    cases writerMoves_of_step hstep with
    | took hp he =>
      exact hr.took (v := ⟨q.relay.stop, q.relay.link.ports.poll, q.relay.link.buffers.poll⟩) hp
        (Writer.select_eq_some_iff.2 he)
    | landed hp => exact hr.landed hp _
    | left hp => exact hr.left hp
  · obtain ⟨hrest, hw⟩ := rests_of_arrival hm hstep
    rw [hw, hrest.events]
    exact hr

/-- Behind the end of its handles a writer has none waiting, and none can arrive. -/
def HandlesDone (a : Attachment W) : Prop :=
  a.relay.writer.portsOpen = false →
    a.relay.link.ports.items = [] ∧ a.relay.link.ports.sending = false

theorem HandlesDone.took {e : Event} (hd : a.HandlesDone) (hf : a.Faithful)
    (hp : a.relay.writer.phase = .selecting)
    (he : a.relay.writer.Selects a.relay.stop a.relay.link.ports.poll a.relay.link.buffers.poll e) :
    HandlesDone { a with relay := a.relay.react e, events := a.events ++ [e] } := by
  intro hopen
  obtain ⟨-, -, -, hsending, -, -⟩ := Relay.react_keeps a.relay e
  have hreceiving : a.relay.link.ports.receiving = true := by
    rw [hf.receiving.1]
    simp [hp]
  suffices hbefore : a.relay.link.ports.items = [] ∧ a.relay.link.ports.sending = false from
    ⟨Relay.react_ports_nil a.relay e hbefore.1, hsending.trans hbefore.2⟩
  -- either the handles had ended before, or this event is their end
  have hreact : (if e = .portsEnded then false else a.relay.writer.portsOpen) = false :=
    (Writer.portsOpen_react _ _).symm.trans hopen
  by_cases hend : e = .portsEnded
  · subst hend
    cases he with
    | portsEnded hs ht hq =>
      obtain ⟨hitems, hlast⟩ := Channel.poll_ended hq
      exact ⟨hitems, hlast hreceiving⟩
  · rw [if_neg hend] at hreact
    exact hd hreact

theorem HandlesDone.step {m : Move} (hd : a.HandlesDone) (hf : a.Faithful)
    (h : a.step site m = some a') :
    a'.HandlesDone := by
  cases m with
  | handle hd' =>
    obtain ⟨q, hq, rfl⟩ := Option.map_eq_some_iff.1 h
    obtain ⟨hs, -, -⟩ := Channel.offer_eq_some hq
    intro hopen
    have hnone := (hd hopen).2
    rw [hs] at hnone
    cases hnone
  | buffer b =>
    obtain ⟨q, -, rfl⟩ := Option.map_eq_some_iff.1 h
    exact hd
  | endHandles =>
    cases h
    exact fun hopen => ⟨(hd hopen).1, rfl⟩
  | endBuffers => cases h; exact hd
  | signal value => cases h; exact hd
  | writer =>
    cases writerMoves_of_step h with
    | took hp he => exact hd.took hf hp he
    | @landed hd' b hp =>
      have hopen : (a.relay.land site.logged hd' b).writer.portsOpen =
          a.relay.writer.portsOpen := by
        unfold Relay.land
        cases (site.logged.write a.relay.world hd' b).1 <;> rfl
      intro hclosed
      exact hd (hopen.symm.trans hclosed)
    | left hp => exact fun hopen => ⟨rfl, (hd hopen).2⟩

theorem handlesDone_of_follow {world : W} {ms : List Move}
    (h : (start world).follow site ms = some a) :
    a.HandlesDone := by
  refine (foldlM_keeps (P := fun q => q.Faithful ∧ q.HandlesDone)
    ?_ ⟨start_faithful world, nofun⟩ h).2
  rintro m - q q' ⟨hf, hd⟩ hstep
  exact ⟨hf.step hstep, hd.step hf hstep⟩

/-- The writer is between two writes, and no round has an event for it. -/
def IsIdle (site : Site W) (a : Attachment W) : Prop :=
  a.relay.writer.phase = .selecting ∧ a.step site .writer = none

/-- A look that finds the writer waiting has followed some moves to a state in which it waits. -/
theorem follow_of_look_idle (hl : Looks site a .idle a') :
    ∃ ms, a.follow site ms = some a' ∧ a'.IsIdle site := by
  generalize hidle : Look.idle = l at hl
  induction hl with
  | item | finished | ended | blocked => cases hidle
  | idle hp h => exact ⟨[], rfl, hp, h⟩
  | @goesOn a a₁ a₂ m l h hm hl ih =>
    obtain ⟨ms, hms, hidle⟩ := ih hidle
    exact ⟨m :: ms, foldlM_cons_eq_some.2 ⟨a₁, h, hms⟩, hidle⟩

/-- What a waiting writer has seen. -/
theorem IsIdle.seen (hi : a.IsIdle site) :
    a.relay.stop = false ∧ (a.relay.writer.takesPorts = true → a.relay.link.ports.poll = .pending) ∧
      a.relay.link.buffers.items = [] := by
  obtain ⟨hp, hnone⟩ := hi
  rcases Relay.stepWriter_eq_none (Option.map_eq_none_iff.1 hnone) with
      hended | ⟨-, hstop, hports, hbuffers⟩
  · rw [hp] at hended
    cases hended
  · exact ⟨hstop, hports, (Channel.poll_pending hbuffers).1⟩

/-- **Handles wait for an idle writer only at the limit.** -/
theorem IsIdle.inRow_of_waiting (hi : a.IsIdle site) (hd : a.HandlesDone)
    (hk : a.relay.writer.Knows a.events) (hw : a.relay.link.ports.items ≠ []) :
    (handlesOf (sinceBuffer a.events)).length = Writer.maxPortsInRow := by
  obtain ⟨-, hports, -⟩ := hi.seen
  have hopen : a.relay.writer.portsOpen = true := by
    by_contra hclosed
    exact hw (hd (by simpa using hclosed)).1
  have hrow := hk.inRow (by simp [hi.1])
  have hbound := hk.bounded
  by_contra hne
  have ht : a.relay.writer.takesPorts = true := Writer.takesPorts_iff.2 ⟨hopen, by omega⟩
  exact hw (Channel.poll_pending (hports ht)).1

/-- **The next buffer of an idle writer goes to its current handle**, and is dropped if there is
none. -/
theorem IsIdle.next {a₁ : Attachment W} {b : Bytes} (hi : a.IsIdle site)
    (h : a.step site (.buffer b) = some a₁) :
    ∃ a₂, a₁.step site .writer = some a₂ ∧ a₂.events = a.events ++ [.buffer b] ∧
      a₂.relay.writer.underWay = (a.relay.writer.current.map fun hd => (hd, b)).toList := by
  obtain ⟨hstop, hports, hempty⟩ := hi.seen
  obtain ⟨q, hq, rfl⟩ := Option.map_eq_some_iff.1 h
  obtain ⟨-, -, rfl⟩ := Channel.offer_eq_some hq
  have hpoll : (a.relay.link.buffers.push b).poll = .ready b := by
    simp [Channel.push, Channel.poll, hempty]
  have hevent : ({ a.setBuffers (a.relay.link.buffers.push b) with buffers := a.buffers ++ [b] } :
      Attachment W).relay.event? = some (.buffer b) := by
    rw [Relay.event?]
    simp only [setBuffers, hi.1, if_true]
    exact Writer.select_eq_some_iff.2 (.buffer hstop hports hpoll)
  refine ⟨_, step_of_event hevent, rfl, ?_⟩
  cases hc : a.relay.writer.current <;>
    simp [Relay.react, setBuffers, Writer.react, hc, Writer.underWay, hi.1]

/-- **The writer has caught up with its handles**: all that have arrived were taken and counted,
only the last one is still held, and the next buffer goes to it. -/
structure CaughtUp (site : Site W) (a : Attachment W) : Prop where
  taken : handlesOf a.events = a.handles
  attached : a.relay.writer.stats.attached = a.handles.length
  current : a.relay.writer.stats.current = a.handles.getLast?.map Handle.name
  held : a.relay.handles = a.handles.getLast?.toList
  next : ∀ b a₁, a.step site (.buffer b) = some a₁ → ∃ a₂, a₁.step site .writer = some a₂ ∧
    a₂.events = a.events ++ [.buffer b] ∧
    a₂.relay.writer.underWay = (a.handles.getLast?.map fun hd => (hd, b)).toList

/-- An idle writer has caught up if no handle waits. -/
theorem IsIdle.caughtUp_iff (hi : a.IsIdle site) (hf : a.Faithful)
    (hs : a.relay.writer.stats = tally a.events a.relay.output) :
    a.CaughtUp site ↔ a.relay.link.ports.items = [] := by
  obtain ⟨hhandles, -⟩ := hf.queued (by simp [hi.1])
  have hcur : a.relay.writer.current = (handlesOf a.events).getLast? := by
    rw [← hf.current, current_route]
  constructor
  · intro hup
    rw [← hup.taken] at hhandles
    exact List.self_eq_append_right.1 hhandles
  · intro hnone
    rw [hnone, List.append_nil] at hhandles
    refine ⟨hhandles.symm, ?_, ?_, ?_, ?_⟩
    · rw [hs, hhandles]
      rfl
    · rw [hs, hhandles]
      rfl
    · rw [Relay.handles, hnone, Writer.held, hi.1, hcur, hhandles]
      rfl
    · intro b a₁ h₁
      obtain ⟨a₂, h₂, hevents, hwrite⟩ := hi.next h₁
      refine ⟨a₂, h₂, hevents, ?_⟩
      rw [hwrite, hcur, hhandles]

/-- **An idle writer has caught up just if no more than `maxPortsInRow` handles have arrived besides
those taken before the last buffer.** If more have, it has taken so many of them and no other; the
rest waits, and the next buffer goes to the last one taken. -/
theorem idle_caughtUp_iff {world : W} {ms : List Move} (h : (start world).follow site ms = some a)
    (hl : Looks site a .idle a') :
    (a'.CaughtUp site ↔
      a'.handles.length ≤ (handlesOf (throughBuffer a'.events)).length + Writer.maxPortsInRow) ∧
    (¬ a'.CaughtUp site →
      (handlesOf (sinceBuffer a'.events)).length = Writer.maxPortsInRow ∧
      ∃ waiting, waiting ≠ [] ∧ a'.handles = handlesOf a'.events ++ waiting ∧
        ∀ b a₁, a'.step site (.buffer b) = some a₁ → ∃ a₂ hd, a₁.step site .writer = some a₂ ∧
          (handlesOf a'.events).getLast? = some hd ∧ a₂.relay.writer.underWay = [(hd, b)]) := by
  obtain ⟨more, hmore, hi⟩ := follow_of_look_idle hl
  have hreach : (start world).follow site (ms ++ more) = some a' :=
    foldlM_append_eq_some.2 ⟨a, h, hmore⟩
  have hf := (start_faithful world).follow hreach
  have hk := Writer.knows_of_runs (runs_of_follow hreach)
  have hiff := hi.caughtUp_iff hf (stats_eq_tally hreach)
  obtain ⟨hhandles, -⟩ := hf.queued (by simp [hi.1])
  have hlimit := hi.inRow_of_waiting (handlesDone_of_follow hreach) hk
  -- the handles taken are those before the last buffer and those behind it
  have hcount : (handlesOf a'.events).length =
      (handlesOf (throughBuffer a'.events)).length +
        (handlesOf (sinceBuffer a'.events)).length := by
    rw [← List.length_append, ← handlesOf_append, throughBuffer_append_sinceBuffer]
  have hlength : a'.handles.length =
      (handlesOf a'.events).length + a'.relay.link.ports.items.length := by
    rw [← List.length_append, ← hhandles]
  refine ⟨?_, ?_⟩
  · rw [hiff]
    constructor
    · intro hnone
      have hbound := hk.bounded
      rw [hnone, List.length_nil] at hlength
      omega
    · intro hle
      by_contra hwaiting
      have hrow := hlimit hwaiting
      have hpos := List.length_pos_iff.2 hwaiting
      omega
  · intro hnot
    rw [hiff] at hnot
    have hrow := hlimit hnot
    refine ⟨hrow, _, hnot, hhandles, ?_⟩
    intro b a₁ h₁
    obtain ⟨a₂, h₂, -, hwrite⟩ := hi.next h₁
    have hcur : a'.relay.writer.current = (handlesOf a'.events).getLast? := by
      rw [← hf.current, current_route]
    -- the limit has been reached, so there is a handle
    obtain ⟨hd, hlast⟩ : ∃ hd, (handlesOf a'.events).getLast? = some hd := by
      rw [← Option.ne_none_iff_exists', Ne, List.getLast?_eq_none_iff]
      intro hnil
      rw [hnil, List.length_nil, hrow, Writer.maxPortsInRow] at hcount
      omega
    refine ⟨a₂, hd, h₂, hlast, ?_⟩
    rw [hwrite, hcur, hlast]
    rfl

/-- Sixteen handles, a buffer, and one handle more: at the limit, but nothing waits. -/
theorem idle_caughtUp_behind_buffer :
    ∃ a : Attachment ℕ,
      ((start 0).follow counting
        (List.replicate 16 (.handle ⟨0, "A"⟩) ++ List.replicate 16 .writer ++
          [.buffer [1], .writer, .writer, .handle ⟨1, "B"⟩, .writer]) = some a ∧
        Looks counting a .idle a) ∧
      a.CaughtUp counting ∧ a.handles.length = 17 ∧ a.relay.writer.stats.attached = 17 ∧
      a.relay.handles = [⟨1, "B"⟩] := by
  obtain ⟨a, h, hp, hstep, hcount, hlast, hle⟩ : ∃ a : Attachment ℕ,
      (start 0).follow counting
        (List.replicate 16 (.handle ⟨0, "A"⟩) ++ List.replicate 16 .writer ++
        [.buffer [1], .writer, .writer, .handle ⟨1, "B"⟩, .writer]) = some a ∧
      a.relay.writer.phase = .selecting ∧ a.step counting .writer = none ∧ a.handles.length = 17 ∧
      a.handles.getLast? = some ⟨1, "B"⟩ ∧
      a.handles.length ≤ (handlesOf (throughBuffer a.events)).length + Writer.maxPortsInRow :=
    ⟨_, rfl, rfl, rfl, rfl, rfl, by decide⟩
  have hl : Looks counting a .idle a := .idle hp hstep
  have hup := (idle_caughtUp_iff h hl).1.2 hle
  refine ⟨a, ⟨h, hl⟩, hup, hcount, hup.attached.trans hcount, ?_⟩
  rw [hup.held, hlast]
  rfl

/-- Behind sixteen handles in a row the writer waits although one more is ready, and the next buffer
goes to the handle before it. -/
theorem idle_behind_seventeenth_handle :
    ∃ a a₁ a₂ : Attachment ℕ,
      (start 0).follow counting (List.replicate 16 (.handle ⟨0, "A"⟩) ++ [.handle ⟨1, "B"⟩] ++
        List.replicate 16 .writer) = some a ∧
      Looks counting a .idle a ∧ a.handles.length = 17 ∧ a.relay.writer.stats.attached = 16 ∧
      a.relay.writer.stats.current = some "A" ∧ a.relay.handles = [⟨1, "B"⟩, ⟨0, "A"⟩] ∧
      a.step counting (.buffer [120, 10]) = some a₁ ∧ a₁.step counting .writer = some a₂ ∧
      a₂.relay.writer.underWay = [(⟨0, "A"⟩, [120, 10])] ∧ ¬ a.CaughtUp counting := by
  obtain ⟨a, a₁, a₂, h, hp, hstep, hcount, hattached, hcurrent, hheld, h₁, h₂, hwrite⟩ :
      ∃ a a₁ a₂ : Attachment ℕ,
        (start 0).follow counting (List.replicate 16 (.handle ⟨0, "A"⟩) ++ [.handle ⟨1, "B"⟩] ++
          List.replicate 16 .writer) = some a ∧
        a.relay.writer.phase = .selecting ∧ a.step counting .writer = none ∧ a.handles.length = 17 ∧
        a.relay.writer.stats.attached = 16 ∧ a.relay.writer.stats.current = some "A" ∧
        a.relay.handles = [⟨1, "B"⟩, ⟨0, "A"⟩] ∧
        a.step counting (.buffer [120, 10]) = some a₁ ∧ a₁.step counting .writer = some a₂ ∧
        a₂.relay.writer.underWay = [(⟨0, "A"⟩, [120, 10])] :=
    ⟨_, _, _, rfl, rfl, rfl, rfl, rfl, rfl, rfl, rfl, rfl, rfl⟩
  refine ⟨a, a₁, a₂, h, .idle hp hstep, hcount, hattached, hcurrent, hheld, h₁, h₂, hwrite,
    fun hup => ?_⟩
  have hall := hup.attached
  rw [hattached, hcount] at hall
  contradiction

end Attachment

end SerialRelay

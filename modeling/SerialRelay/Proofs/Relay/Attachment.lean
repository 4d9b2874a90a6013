import Mathlib.Tactic.Common
import SerialRelay.Proofs.Relay.Schedule
import SerialRelay.Proofs.Writer.Routing

/-!
# A writer on arbitrary sources

The writer of a relay without its pump: handles and buffers arrive at any time, either source ends
at any time, the signal to stop may come and go, and the writer moves at any time. The attachment
keeps a record of what has arrived and of the events that the writer has taken.

* `Attachment.follow`: the attachment after any moves.
* `Attachment.Faithful`: the write calls and the output are those of the events taken, and these
  were taken in the order of arrival.
* `Attachment.calls_route`: every attachment is faithful, so each buffer goes where the fold of the
  events sends it.
-/

namespace SerialRelay

variable {W : Type}

/-- A write call, and what came of it. -/
structure Call where
  handle : Handle
  buffer : Bytes
  result : Except PortError Unit

namespace Call

def target (c : Call) : Handle × Bytes := (c.handle, c.buffer)

/-- What a write call adds to the output. -/
def item (c : Call) : Item :=
  match c.result with
  | .ok () => .forwarded c.buffer
  | .error e => .failed ⟨c.handle.name, e⟩

end Call

/-- A site that keeps a record of the write calls and of what came of them. -/
def Site.logged (site : Site W) : Site (W × List Call) where
  openPort s := site.openPort s.1
  write s h b :=
    ((site.write s.1 h b).1, (site.write s.1 h b).2, s.2 ++ [⟨h, b, (site.write s.1 h b).1⟩])

/-- The event that the writer takes next, if it is between two writes. -/
def Relay.event? (r : Relay W) : Option Event :=
  if r.writer.phase = .selecting then
    r.writer.select r.stop r.link.ports.poll r.link.buffers.poll
  else none

structure Attachment (W : Type) where
  relay : Relay (W × List Call)
  /-- The handles that have arrived. -/
  handles : List Handle := []
  /-- The buffers that have arrived. -/
  buffers : List Bytes := []
  /-- The events that the writer has taken. -/
  events : List Event := []

namespace Attachment

/-- What may happen next. -/
inductive Move where
  | handle (h : Handle)
  | buffer (b : Bytes)
  | endHandles
  | endBuffers
  | signal (value : Bool)
  | writer
  deriving DecidableEq, Repr

/-- An attachment before anything has arrived. -/
def start (world : W) : Attachment W :=
  { relay := Relay.start { buffers := {} } [] none (world, []) }

def setPorts (a : Attachment W) (q : Channel Handle) : Attachment W :=
  { a with relay := { a.relay with link := { a.relay.link with ports := q } } }

def setBuffers (a : Attachment W) (q : Channel Bytes) : Attachment W :=
  { a with relay := { a.relay with link := { a.relay.link with buffers := q } } }

/-- **What a move makes of an attachment**; nothing arrives from a source that has ended, or at a
writer that is gone. -/
def step (site : Site W) (a : Attachment W) : Move → Option (Attachment W)
  | .handle h =>
    (a.relay.link.ports.offer h).map fun q => { a.setPorts q with handles := a.handles ++ [h] }
  | .buffer b =>
    (a.relay.link.buffers.offer b).map fun q => { a.setBuffers q with buffers := a.buffers ++ [b] }
  | .endHandles => some (a.setPorts a.relay.link.ports.endSending)
  | .endBuffers => some (a.setBuffers a.relay.link.buffers.endSending)
  | .signal value => some { a with relay := { a.relay with stop := value } }
  | .writer =>
    (a.relay.stepWriter site.logged).map fun r =>
      { a with relay := r, events := a.events ++ a.relay.event?.toList }

/-- The attachment after some moves; none if one of them cannot be made. -/
def follow (site : Site W) (ms : List Move) (a : Attachment W) : Option (Attachment W) :=
  ms.foldlM (step site) a

/-- The write calls that have come to an end. -/
def calls (a : Attachment W) : List Call := a.relay.world.2

/-- **What an attachment has done is what its events say**, and it has lost nothing. -/
structure Faithful (a : Attachment W) : Prop where
  current : (route a.events).current = a.relay.writer.current
  sent : (route a.events).sent = a.calls.map Call.target ++ a.relay.writer.underWay
  output : a.relay.output = a.calls.map Call.item
  /-- As long as the writer goes on, no write has failed. -/
  succeeded : a.relay.writer.phase ≠ .failed → a.relay.writer.phase ≠ .ended →
    ∀ c ∈ a.calls, c.result = .ok ()
  /-- What has arrived and not been taken is queued. -/
  queued : a.relay.writer.phase ≠ .ended →
    a.handles = handlesOf a.events ++ a.relay.link.ports.items ∧
      a.buffers = buffersOf a.events ++ a.relay.link.buffers.items
  inOrder : handlesOf a.events <+: a.handles ∧ buffersOf a.events <+: a.buffers
  receiving : a.relay.link.ports.receiving = !decide (a.relay.writer.phase = .ended) ∧
    a.relay.link.buffers.receiving = !decide (a.relay.writer.phase = .ended)
  /-- Behind the end of its buffers an attachment has taken all of them. -/
  exhausted : .buffersEnded ∈ a.events → a.relay.writer.phase = .ended ∧
    a.relay.link.buffers.sending = false ∧ a.buffers = buffersOf a.events ∧
      ∀ c ∈ a.calls, c.result = .ok ()

variable {site : Site W} {a a' : Attachment W}

theorem start_faithful (world : W) : (start world).Faithful where
  current := rfl
  sent := rfl
  output := rfl
  succeeded _ _ := nofun
  queued _ := ⟨rfl, rfl⟩
  inOrder := ⟨List.prefix_refl _, List.prefix_refl _⟩
  receiving := ⟨rfl, rfl⟩
  exhausted := nofun

/-- Where something can arrive, the writer is not gone. -/
theorem Faithful.not_ended (hf : a.Faithful)
    (hr : a.relay.link.ports.receiving = true ∨ a.relay.link.buffers.receiving = true) :
    a.relay.writer.phase ≠ .ended := by
  rcases hr with hr | hr
  · have h := hf.receiving.1
    rw [hr] at h
    simpa using h.symm
  · have h := hf.receiving.2
    rw [hr] at h
    simpa using h.symm

/-- A writer that goes on has not seen the end of its buffers. -/
theorem Faithful.not_exhausted (hf : a.Faithful) (hp : a.relay.writer.phase ≠ .ended) :
    .buffersEnded ∉ a.events := fun hm => hp (hf.exhausted hm).1

theorem Faithful.handle {h : Handle} {q : Channel Handle} (hf : a.Faithful)
    (ho : a.relay.link.ports.offer h = some q) :
    ({ a.setPorts q with handles := a.handles ++ [h] } : Attachment W).Faithful := by
  obtain ⟨-, hr, rfl⟩ := Channel.offer_eq_some ho
  have hp := hf.not_ended (.inl hr)
  obtain ⟨hh, hb⟩ := hf.queued hp
  refine { hf with queued := fun _ => ⟨?_, hb⟩, inOrder := ⟨?_, hf.inOrder.2⟩ }
  · simp [setPorts, Channel.push, hh]
  · exact hf.inOrder.1.trans (List.prefix_append _ _)

theorem Faithful.buffer {b : Bytes} {q : Channel Bytes} (hf : a.Faithful)
    (ho : a.relay.link.buffers.offer b = some q) :
    ({ a.setBuffers q with buffers := a.buffers ++ [b] } : Attachment W).Faithful := by
  obtain ⟨-, hr, rfl⟩ := Channel.offer_eq_some ho
  have hp := hf.not_ended (.inr hr)
  obtain ⟨hh, hb⟩ := hf.queued hp
  refine { hf with
    queued := fun _ => ⟨hh, ?_⟩
    inOrder := ⟨hf.inOrder.1, ?_⟩
    exhausted := fun hm => absurd hm (hf.not_exhausted hp) }
  · simp [setBuffers, Channel.push, hb]
  · exact hf.inOrder.2.trans (List.prefix_append _ _)

theorem Faithful.endHandles (hf : a.Faithful) :
    (a.setPorts a.relay.link.ports.endSending).Faithful :=
  { hf with }

theorem Faithful.endBuffers (hf : a.Faithful) :
    (a.setBuffers a.relay.link.buffers.endSending).Faithful := by
  refine { hf with exhausted := fun hm => ?_ }
  obtain ⟨hp, -, hrest⟩ := hf.exhausted hm
  exact ⟨hp, rfl, hrest⟩

theorem Faithful.signal (hf : a.Faithful) (value : Bool) :
    ({ a with relay := { a.relay with stop := value } } : Attachment W).Faithful :=
  { hf with }

/-- What an event takes from a link was in front of its queue. -/
theorem items_of_selects {w : Writer} {stop : Bool} {l : Link} {e : Event}
    (he : w.Selects stop l.ports.poll l.buffers.poll e) :
    l.ports.items = handlesOf [e] ++ (l.take e).ports.items ∧
      l.buffers.items = buffersOf [e] ++ (l.take e).buffers.items := by
  cases he with
  | port _ _ hq => exact ⟨Channel.items_of_poll_ready hq, rfl⟩
  | buffer _ _ hq => exact ⟨rfl, Channel.items_of_poll_ready hq⟩
  | shutdown => exact ⟨rfl, rfl⟩
  | portsEnded => exact ⟨rfl, rfl⟩
  | buffersEnded => exact ⟨rfl, rfl⟩

theorem take_receiving (l : Link) (e : Event) :
    (l.take e).ports.receiving = l.ports.receiving ∧
      (l.take e).buffers.receiving = l.buffers.receiving ∧
      (l.take e).buffers.sending = l.buffers.sending := by
  cases e <;> exact ⟨rfl, rfl, rfl⟩

/-- **A round of the writer is faithful**: the event that it takes is the next in its queue. -/
theorem Faithful.took {e : Event} (hf : a.Faithful) (hp : a.relay.writer.phase = .selecting)
    (he : a.relay.writer.Selects a.relay.stop a.relay.link.ports.poll a.relay.link.buffers.poll e) :
    ({ a with relay := a.relay.react e, events := a.events ++ [e] } : Attachment W).Faithful := by
  have hph : a.relay.writer.phase ≠ .ended := by simp [hp]
  have hok := hf.succeeded (by simp [hp]) hph
  obtain ⟨hh, hb⟩ := hf.queued hph
  obtain ⟨hih, hib⟩ := items_of_selects he
  obtain ⟨hgoes, hends⟩ := Relay.link_react a.relay e
  obtain ⟨hrp, hrb, hsb⟩ := take_receiving a.relay.link e
  rw [hih, ← List.append_assoc, ← handlesOf_concat] at hh
  rw [hib, ← List.append_assoc, ← buffersOf_concat] at hb
  have hidle : a.relay.writer.underWay = [] := by simp [Writer.underWay, hp]
  -- calls and output stay; the event moves its item from the queue to the events
  refine ⟨?_, ?_, hf.output, fun _ _ => hok, ?_, ?_, ?_, ?_⟩
  · rw [route_concat]
    exact Routing.current_take hf.current e
  · rw [route_concat, Routing.sent_take hf.current hp, hf.sent, hidle, List.append_nil]
    rfl
  · intro h
    rw [hgoes h]
    exact ⟨hh, hb⟩
  · rw [hh, hb]
    exact ⟨List.prefix_append _ _, List.prefix_append _ _⟩
  · by_cases h : (a.relay.react e).writer.phase = .ended
    · simp [h, hends h, Link.dropReceivers, Channel.dropReceiver]
    · rw [hgoes h, hrp, hrb, hf.receiving.1, hf.receiving.2]
      simp [h, hph]
  · intro hm
    -- a writer that goes on has not seen the end before, so it is this event
    have hlast : e = .buffersEnded := by
      rcases List.mem_append.1 hm with hm | hm
      · exact absurd hm (hf.not_exhausted hph)
      · exact (List.mem_singleton.1 hm).symm
    subst hlast
    obtain ⟨-, -, hq⟩ : a.relay.stop = false ∧
        (a.relay.writer.takesPorts = true → a.relay.link.ports.poll = .pending) ∧
        a.relay.link.buffers.poll = .ended := by
      cases he with
      | buffersEnded hs hports hq => exact ⟨hs, hports, hq⟩
    obtain ⟨hitems, hsending⟩ := Channel.poll_ended hq
    have hend : (a.relay.react .buffersEnded).writer.phase = .ended := rfl
    refine ⟨hend, ?_, ?_, hok⟩
    · rw [hends hend]
      exact hsending (by rw [hf.receiving.2]; simp [hph])
    · have hnil : (a.relay.link.take .buffersEnded).buffers.items = [] := hitems
      rw [hb, hnil, List.append_nil]

/-- What comes of a write that ends. -/
theorem settle_item (w : Writer) (h : Handle) (b : Bytes) (x : Except PortError Unit) :
    (w.settle h b x).1.underWay = [] ∧ ((w.settle h b x).1.phase ≠ .failed → x = .ok ()) ∧
      (w.settle h b x).2.1 = Call.item ⟨h, b, x⟩ := by
  cases x with
  | ok => exact ⟨rfl, fun _ => rfl, rfl⟩
  | error e => exact ⟨rfl, fun h => absurd rfl h, rfl⟩

/-- **The end of a write is faithful**: it adds the call and its item. -/
theorem Faithful.landed {h : Handle} {b : Bytes} (hf : a.Faithful)
    (hp : a.relay.writer.phase = .writing h b) :
    ({ a with relay := a.relay.land site.logged h b } : Attachment W).Faithful := by
  have hph : a.relay.writer.phase ≠ .ended := by simp [hp]
  have hok := hf.succeeded (by simp [hp]) hph
  have hsent : (route a.events).sent = a.calls.map Call.target ++ [(h, b)] := by
    rw [hf.sent, Writer.underWay, hp]
  -- the write that was under way becomes the last call
  obtain ⟨hgoes, hcur, -, -⟩ := Relay.land_keeps site.logged a.relay h b
  obtain ⟨hidle, hres, hitem⟩ :=
    settle_item a.relay.writer h b (site.logged.write a.relay.world h b).1
  have hcalls : ({ a with relay := a.relay.land site.logged h b } : Attachment W).calls =
      a.calls ++ [⟨h, b, (site.logged.write a.relay.world h b).1⟩] := rfl
  refine ⟨hf.current.trans hcur.symm, ?_, ?_, ?_, fun _ => hf.queued hph, hf.inOrder, ?_, ?_⟩
  · have hnone : (a.relay.land site.logged h b).writer.underWay = [] := hidle
    rw [hsent, hcalls, hnone, List.map_append, List.append_nil]
    rfl
  · rw [hcalls, List.map_append, ← hf.output, List.map_singleton, ← hitem]
    rfl
  · intro hnf _ c hc
    rw [hcalls] at hc
    rcases List.mem_append.1 hc with hc | hc
    · exact hok c hc
    · rw [List.mem_singleton.1 hc]
      exact hres hnf
  · have hstay : decide ((a.relay.land site.logged h b).writer.phase = .ended) = false :=
      decide_eq_false hgoes
    have hr := hf.receiving
    rw [decide_eq_false hph] at hr
    rw [hstay]
    exact hr
  · intro hm
    exact absurd hm (hf.not_exhausted hph)

/-- A writer that leaves behind a failed write is gone. -/
theorem Faithful.left (hf : a.Faithful) (hp : a.relay.writer.phase = .failed) :
    ({ a with relay := a.relay.leave } : Attachment W).Faithful where
  current := hf.current
  sent := by
    have hidle : a.relay.writer.underWay = [] := by simp [Writer.underWay, hp]
    rw [hf.sent, hidle]
    rfl
  output := hf.output
  succeeded _ h := absurd rfl h
  queued h := absurd rfl h
  inOrder := hf.inOrder
  receiving := ⟨rfl, rfl⟩
  exhausted hm := absurd hm (hf.not_exhausted (by simp [hp]))

/-- **Every move is faithful.** -/
theorem Faithful.step {m : Move} (hf : a.Faithful) (h : a.step site m = some a') : a'.Faithful := by
  cases m with
  | handle hd =>
    obtain ⟨q, hq, rfl⟩ := Option.map_eq_some_iff.1 h
    exact hf.handle hq
  | buffer b =>
    obtain ⟨q, hq, rfl⟩ := Option.map_eq_some_iff.1 h
    exact hf.buffer hq
  | endHandles => cases h; exact hf.endHandles
  | endBuffers => cases h; exact hf.endBuffers
  | signal value => cases h; exact hf.signal value
  | writer =>
    obtain ⟨r, hr, rfl⟩ := Option.map_eq_some_iff.1 h
    cases Relay.writerSteps_of_step hr with
    | @took e hp he =>
      have hevent : a.relay.event? = some e := by
        rw [Relay.event?, if_pos hp]
        exact Writer.select_eq_some_iff.2 he
      rw [hevent]
      exact hf.took hp he
    | @landed hd b hp =>
      have hevent : a.relay.event? = none := if_neg (by simp [hp])
      rw [hevent, Option.toList_none, List.append_nil]
      exact hf.landed hp
    | left hp =>
      have hevent : a.relay.event? = none := if_neg (by simp [hp])
      rw [hevent, Option.toList_none, List.append_nil]
      exact hf.left hp

theorem Faithful.follow {ms : List Move} (hf : a.Faithful) (h : a.follow site ms = some a') :
    a'.Faithful :=
  foldlM_keeps (fun _ _ _ _ hq hstep => hq.step hstep) hf h

/-- **Each buffer goes where the fold of the events sends it.** At any time the handles and the
buffers taken are the first ones that have arrived, each once; every buffer taken was dropped or
sent on unchanged; the calls, with one that may be under way, are those sent, and the output is what
came of the calls; a handle that another one has followed is not written to again. Behind the end of
the buffers all that have arrived were dropped or written, and no more can arrive. -/
theorem calls_route {world : W} {ms : List Move} (h : (start world).follow site ms = some a) :
    handlesOf a.events <+: a.handles ∧ buffersOf a.events <+: a.buffers ∧
      buffersOf a.events = (route a.events).dropped ++ (route a.events).sent.map Prod.snd ∧
      (route a.events).sent = a.calls.map Call.target ++ a.relay.writer.underWay ∧
      a.relay.output = a.calls.map Call.item ∧
      (∀ es hd later, a.events = es ++ .port hd :: later →
        ∃ calls, (route a.events).sent = (route es).sent ++ calls ∧
          ∀ c ∈ calls, c.1 = hd ∨ c.1 ∈ handlesOf later) ∧
      (.buffersEnded ∈ a.events →
        a.buffers = (route a.events).dropped ++ a.calls.map Call.buffer ∧
          a.relay.output = a.calls.map (fun c => .forwarded c.buffer) ∧
          ∀ b, a.step site (.buffer b) = none) := by
  have hf := (start_faithful world).follow h
  refine ⟨hf.inOrder.1, hf.inOrder.2, buffers_route a.events, hf.sent, hf.output, ?_, ?_⟩
  · intro es hd later he
    rw [he]
    exact sent_route_append es hd later
  · intro hm
    obtain ⟨hp, hs, hall, hok⟩ := hf.exhausted hm
    have hidle : a.relay.writer.underWay = [] := by simp [Writer.underWay, hp]
    refine ⟨?_, ?_, ?_⟩
    · rw [hall, buffers_route, hf.sent, hidle, List.append_nil, List.map_map]
      rfl
    · rw [hf.output]
      refine List.map_congr_left fun c hc => ?_
      rw [Call.item, hok c hc]
    · intro b
      simp [Attachment.step, Channel.offer, hs]

/-- A site whose writes count themselves, and fail from the third one on. -/
def counting : Site ℕ where
  openPort _ _ name := .error (.notFound name)
  write n _ _ := (if n < 2 then .ok () else .error .notOpen, n + 1)

/-- A buffer before any handle, one for each of two handles, and the end. -/
theorem calls_route_two_handles :
    ∃ a, (start 0).follow counting
      [.buffer [1], .buffer [2], .writer, .handle ⟨0, "A"⟩, .writer, .writer,
        .handle ⟨1, "B"⟩, .buffer [3], .writer, .endBuffers, .writer, .writer, .writer, .writer] =
        some a ∧
      .buffersEnded ∈ a.events ∧ a.calls.map Call.target = [(⟨0, "A"⟩, [2]), (⟨1, "B"⟩, [3])] ∧
      (route a.events).dropped = [[1]] ∧
      a.buffers = (route a.events).dropped ++ a.calls.map Call.buffer ∧
      a.relay.output = a.calls.map (fun c => .forwarded c.buffer) := by
  obtain ⟨a, h, hm, hc, hd⟩ : ∃ a, (start 0).follow counting [.buffer [1], .buffer [2], .writer,
        .handle ⟨0, "A"⟩, .writer, .writer, .handle ⟨1, "B"⟩, .buffer [3], .writer, .endBuffers,
        .writer, .writer, .writer, .writer] = some a ∧
      .buffersEnded ∈ a.events ∧ a.calls.map Call.target = [(⟨0, "A"⟩, [2]), (⟨1, "B"⟩, [3])] ∧
      (route a.events).dropped = [[1]] := ⟨_, rfl, by decide, rfl, rfl⟩
  obtain ⟨hall, hout, -⟩ := (calls_route h).2.2.2.2.2.2 hm
  exact ⟨a, h, hm, hc, hd, hall, hout⟩

end Attachment

end SerialRelay

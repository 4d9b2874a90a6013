import Mathlib.Data.List.Induction
import SerialRelay.Proofs.Pump.Deliveries
import SerialRelay.Proofs.Trail

/-!
# A pump with arbitrary receivers

A pump is the only sender on its link. The receivers take buffers and handles, close or go away at
any time, and what a name opens may change from one opening to the next. The feed keeps a record of
what was sent, with the number of the line that it comes from, and of the buffers that were taken.

* `Feed.follow`: the feed after any moves.
* `Feed.Records`: what was sent is what the lines read so far ask for, in their order.
* `Feed.Queues`: as long as the buffers have a receiver, those that wait come from lines behind all
  handles sent.
* `Feed.handles_follow_buffers`: no handle is sent ahead of a buffer from an earlier line.
-/

namespace SerialRelay

/-- What was sent, and the number of its line. -/
structure Sending where
  line : ℕ
  delivery : Delivery
  deriving DecidableEq, Repr

namespace Sending

def IsHandle (s : Sending) : Prop := ∃ h, s.delivery = .handle h

/-- A buffer with the number of its line. -/
def buffer? (s : Sending) : Option (ℕ × Bytes) :=
  match s.delivery with
  | .handle _ => none
  | .buffer b => some (s.line, b)

end Sending

/-- **The requests of some lines**, with the numbers of the lines; what is not text asks for
nothing. -/
def numbered (cfg : InputSettings) (lines : List Bytes) : List (ℕ × Request) :=
  (lines.zipIdx 1).filterMap fun x => (lineText? x.1).map fun text => (x.2, cfg.read text)

/-- The buffers among requests. -/
def payloadsOf (requests : List (ℕ × Request)) : List (ℕ × Bytes) :=
  requests.filterMap fun x =>
    match x.2 with
    | .payload b => some (x.1, b)
    | _ => none

/-- **The buffers that some lines spell**, with the numbers of the lines. -/
def payloads (cfg : InputSettings) (lines : List Bytes) : List (ℕ × Bytes) :=
  payloadsOf (numbered cfg lines)

/-- What has come onto a link: on each channel, what is behind the items that were there. -/
def Link.arrivals (l l' : Link) : List Delivery :=
  (l'.ports.items.drop l.ports.items.length).map .handle ++
    (l'.buffers.items.drop l.buffers.items.length).map .buffer

namespace Link

variable {l : Link}

@[simp] theorem arrivals_self : l.arrivals l = [] := by simp [arrivals]

@[simp] theorem arrivals_endSending : l.arrivals l.endSending = [] := by
  simp [arrivals, Channel.endSending]

@[simp] theorem arrivals_handle (h : Handle) :
    l.arrivals { l with ports := l.ports.push h } = [.handle h] := by
  simp [arrivals, Channel.push]

@[simp] theorem arrivals_buffer (b : Bytes) :
    l.arrivals { l with buffers := l.buffers.push b } = [.buffer b] := by
  simp [arrivals, Channel.push]

end Link

/-- The request that a pump is about. -/
def Pump.pending (p : Pump) : Option Request :=
  match p.phase with
  | .opening name => some (.openPort name)
  | .sending b => some (.payload b)
  | _ => none

theorem numbered_concat (cfg : InputSettings) (lines : List Bytes) (raw : Bytes) :
    numbered cfg (lines ++ [raw]) = numbered cfg lines ++
      ((lineText? raw).map fun text => (lines.length + 1, cfg.read text)).toList := by
  rw [numbered, List.zipIdx_append, List.filterMap_append, numbered, Nat.add_comm 1]
  cases h : lineText? raw <;> simp [List.zipIdx_cons, h]

/-- Requests have the numbers of their lines. -/
theorem line_of_mem_numbered {cfg : InputSettings} {lines : List Bytes} {x : ℕ × Request}
    (h : x ∈ numbered cfg lines) : 0 < x.1 ∧ x.1 ≤ lines.length := by
  obtain ⟨⟨raw, k⟩, hk, hx⟩ := List.mem_filterMap.1 h
  obtain ⟨text, -, rfl⟩ := Option.map_eq_some_iff.1 hx
  have hlow := List.le_snd_of_mem_zipIdx hk
  have hhigh := List.snd_lt_of_mem_zipIdx hk
  simp only at hlow hhigh ⊢
  omega

/-- The requests stand in the order of the lines. -/
theorem numbered_sorted (cfg : InputSettings) (lines : List Bytes) :
    (numbered cfg lines).Pairwise fun x y => x.1 < y.1 := by
  induction lines using List.reverseRecOn with
  | nil => exact .nil
  | append_singleton lines raw ih =>
    rw [numbered_concat]
    refine List.pairwise_append.2 ⟨ih, ?_, ?_⟩
    · cases lineText? raw <;> simp
    · intro x hx y hy
      obtain ⟨-, hle⟩ := line_of_mem_numbered hx
      obtain ⟨text, -, rfl⟩ := Option.map_eq_some_iff.1 (Option.mem_toList.1 hy)
      exact Nat.lt_succ_of_le hle

/-- What the first lines ask for comes first. -/
theorem numbered_take (cfg : InputSettings) (lines : List Bytes) (n : ℕ) :
    numbered cfg (lines.take n) <+: numbered cfg lines := by
  conv_rhs => rw [← List.take_append_drop n lines]
  rw [numbered, numbered, List.zipIdx_append, List.filterMap_append]
  exact List.prefix_append _ _

/-- One line more adds its request. -/
theorem numbered_take_succ (cfg : InputSettings) {lines : List Bytes} {n : ℕ} {raw : Bytes}
    (h : lines[n]? = some raw) :
    numbered cfg (lines.take (n + 1)) = numbered cfg (lines.take n) ++
      ((lineText? raw).map fun text => (n + 1, cfg.read text)).toList := by
  have hlt : n < lines.length := (List.getElem?_eq_some_iff.1 h).1
  rw [List.take_add_one, h, Option.toList_some, numbered_concat, List.length_take,
    Nat.min_eq_left (Nat.le_of_lt hlt)]

/-- In front of the request of a line stand those of the lines before it. -/
theorem numbered_take_pred {cfg : InputSettings} {lines : List Bytes} {n : ℕ} {r : Request}
    {rs : List (ℕ × Request)} (h : numbered cfg (lines.take n) = rs ++ [(n, r)]) :
    rs = numbered cfg (lines.take (n - 1)) := by
  have hlast : (n, r) ∈ numbered cfg (lines.take n) := by
    rw [h]
    exact List.mem_append_right _ (List.mem_singleton_self _)
  obtain ⟨hpos, hle⟩ := line_of_mem_numbered hlast
  rcases n with _ | n
  · contradiction
  have hlt : n < lines.length := by
    simp only [List.length_take] at hle
    omega
  rw [numbered_take_succ cfg (List.getElem?_eq_getElem hlt)] at h
  rw [Nat.add_sub_cancel]
  cases ht : lineText? lines[n] with
  | some text =>
    rw [ht] at h
    exact (List.append_inj_left' h rfl).symm
  | none =>
    -- the request has a number that none of the lines before it has
    rw [ht, Option.map_none, Option.toList_none, List.append_nil] at h
    have hmem : (n + 1, r) ∈ numbered cfg (lines.take n) := by
      rw [h]
      exact List.mem_append_right _ (List.mem_singleton_self _)
    have hlow := (line_of_mem_numbered hmem).2
    simp only [List.length_take] at hlow
    omega

theorem payloadsOf_append (rs rs' : List (ℕ × Request)) :
    payloadsOf (rs ++ rs') = payloadsOf rs ++ payloadsOf rs' :=
  List.filterMap_append

/-- A pump, its link, and a record of what has gone over the link. -/
structure Feed where
  pump : Pump
  link : Link
  /-- What the pump has sent. -/
  sent : List Sending := []
  /-- The buffers that were taken. -/
  taken : List Bytes := []

namespace Feed

/-- What may happen next. The pump opens a port, if it comes to that, by the function given. -/
inductive Move where
  | pump (openPort : String → Except PortError Handle)
  | takeBuffer
  | takeHandle
  | closeBuffers
  | closeHandles
  | dropBuffers
  | dropHandles

/-- A feed before its first move. -/
def start (link : Link) (input : Bytes) : Feed := { pump := Pump.ofInput input, link := link }

def setPorts (f : Feed) (q : Channel Handle) : Feed := { f with link := { f.link with ports := q } }

def setBuffers (f : Feed) (q : Channel Bytes) : Feed :=
  { f with link := { f.link with buffers := q } }

/-- The feed after a move of the pump. -/
def advance (f : Feed) (m : Pump.Move) : Feed :=
  { f with
    pump := m.pump
    link := m.link
    sent := f.sent ++ (f.link.arrivals m.link).map fun d => ⟨f.pump.summary.lines, d⟩ }

/-- **What a move makes of a feed**; none if the pump waits or has ended, or if there is nothing to
take. -/
def step (cfg : InputSettings) (f : Feed) : Move → Option Feed
  | .pump openPort => (f.pump.step cfg openPort f.link).map f.advance
  | .takeBuffer =>
    f.link.buffers.items.head?.map fun b =>
      { f.setBuffers f.link.buffers.pop with taken := f.taken ++ [b] }
  | .takeHandle => f.link.ports.items.head?.map fun _ => f.setPorts f.link.ports.pop
  | .closeBuffers => some (f.setBuffers (f.link.buffers.close (f.pump.wanted f.link)))
  | .closeHandles => some (f.setPorts (f.link.ports.close 0))
  | .dropBuffers => some (f.setBuffers f.link.buffers.dropReceiver)
  | .dropHandles => some (f.setPorts f.link.ports.dropReceiver)

/-- The feed after some moves; none if one of them cannot be made. -/
def follow (cfg : InputSettings) (ms : List Move) (f : Feed) : Option Feed := ms.foldlM (step cfg) f

/-- The buffers sent, with the numbers of their lines. -/
def buffers (f : Feed) : List (ℕ × Bytes) := f.sent.filterMap Sending.buffer?

/-- The buffers sent and not taken. -/
def waiting (f : Feed) : List (ℕ × Bytes) := f.buffers.drop f.taken.length

variable {cfg : InputSettings} {lines : List Bytes} {settled : List (ℕ × Request)} {f f' : Feed}

/-- **What a pump has sent is what the lines it has read ask for.** It is done with the requests
`settled`, and as long as it goes on these are all but the one it is about. -/
structure Records (cfg : InputSettings) (lines : List Bytes) (p : Pump) (sent : List Sending)
    (settled : List (ℕ × Request)) : Prop where
  input : p.input = lines.drop p.summary.lines
  /-- The requests of the lines read. -/
  read : ∃ rest, numbered cfg (lines.take p.summary.lines) = settled ++ rest ∧
    (p.isOver = false → rest = (p.pending.map fun r => (p.summary.lines, r)).toList)
  buffers : sent.filterMap Sending.buffer? = payloadsOf settled
  handles : ∀ s ∈ sent, s.IsHandle → ∃ name, (s.line, Request.openPort name) ∈ settled
  sorted : sent.Pairwise fun s t => s.line < t.line

namespace Records

variable {p p' : Pump} {sent : List Sending}

/-- Everything sent comes from the line of a request that the pump is done with. -/
theorem exists_request (hr : Records cfg lines p sent settled) {s : Sending} (hs : s ∈ sent) :
    ∃ r, (s.line, r) ∈ settled := by
  cases hd : s.delivery with
  | handle h =>
    obtain ⟨name, hname⟩ := hr.handles s hs ⟨h, hd⟩
    exact ⟨_, hname⟩
  | buffer b =>
    have hsent : (s.line, b) ∈ sent.filterMap Sending.buffer? :=
      List.mem_filterMap.2 ⟨s, hs, by simp [Sending.buffer?, hd]⟩
    rw [hr.buffers] at hsent
    obtain ⟨⟨k, r⟩, hx, hb⟩ := List.mem_filterMap.1 hsent
    cases r with
    | payload b' => obtain ⟨rfl, -⟩ := Prod.mk.inj (Option.some.inj hb); exact ⟨_, hx⟩
    | openPort name => cases hb
    | nothing => cases hb
    | fault e => cases hb

/-- What the pump is done with comes from lines before that of the request that it is about. -/
theorem line_lt (hr : Records cfg lines p sent settled) (ho : p.isOver = false) {r : Request}
    (hp : p.pending = some r) {x : ℕ × Request} (hx : x ∈ settled) : x.1 < p.summary.lines := by
  obtain ⟨rest, hread, hrest⟩ := hr.read
  have hsorted := numbered_sorted cfg (lines.take p.summary.lines)
  rw [hread, hrest ho, hp] at hsorted
  exact (List.pairwise_append.1 hsorted).2.2 x hx _ (List.mem_singleton_self _)

/-- Before its request the pump was done with the lines before. -/
theorem settled_eq (hr : Records cfg lines p sent settled) (ho : p.isOver = false) {r : Request}
    (hp : p.pending = some r) : settled = numbered cfg (lines.take (p.summary.lines - 1)) := by
  obtain ⟨rest, hread, hrest⟩ := hr.read
  rw [hrest ho, hp] at hread
  exact numbered_take_pred hread

/-- A pump that stops has sent what it has sent. -/
theorem stop (hr : Records cfg lines p sent settled) (hin : p'.input = p.input)
    (hl : p'.summary.lines = p.summary.lines) (ho : p'.isOver = true) :
    Records cfg lines p' sent settled where
  input := by rw [hin, hl, hr.input]
  read := by
    obtain ⟨rest, hread, -⟩ := hr.read
    exact ⟨rest, by rw [hl, hread], fun h => by rw [ho] at h; contradiction⟩
  buffers := hr.buffers
  handles := hr.handles
  sorted := hr.sorted

/-- **A pump that gets done with its request** has sent what the request brings. -/
theorem settle (hr : Records cfg lines p sent settled) (ho : p.isOver = false) {r : Request}
    (hp : p.pending = some r) (p' : Pump) (hin : p'.input = p.input)
    (hl : p'.summary.lines = p.summary.lines) (hp' : p'.pending = none)
    (openPort : String → Except PortError Handle) :
    Records cfg lines p' (sent ++ (r.deliveries openPort).map fun d => ⟨p.summary.lines, d⟩)
      (settled ++ [(p.summary.lines, r)]) where
  input := by rw [hin, hl, hr.input]
  read := by
    obtain ⟨rest, hread, hrest⟩ := hr.read
    rw [hrest ho, hp] at hread
    exact ⟨[], by rw [hl, hread]; simp, fun _ => by rw [hp']; rfl⟩
  buffers := by
    rw [List.filterMap_append, hr.buffers, payloadsOf_append]
    congr 1
    cases r with
    | openPort name => cases h : openPort name <;>
      simp [Request.deliveries, h, payloadsOf, Sending.buffer?]
    | payload b => rfl
    | nothing => rfl
    | fault e => rfl
  handles s hs hh := by
    rcases List.mem_append.1 hs with hs | hs
    · obtain ⟨name, hname⟩ := hr.handles s hs hh
      exact ⟨name, List.mem_append_left _ hname⟩
    · obtain ⟨d, hd, rfl⟩ := List.mem_map.1 hs
      obtain ⟨h, rfl⟩ := hh
      cases r with
      | openPort name => exact ⟨name, List.mem_append_right _ (List.mem_singleton_self _)⟩
      | payload b => simp [Request.deliveries] at hd
      | nothing => cases hd
      | fault e => cases hd
  sorted := by
    refine List.pairwise_append.2 ⟨hr.sorted, ?_, ?_⟩
    · cases r with
      | openPort name => cases h : openPort name <;> simp [Request.deliveries, h]
      | payload b => simp [Request.deliveries]
      | nothing => exact .nil
      | fault e => exact .nil
    · intro s hs s' hs'
      obtain ⟨d, -, rfl⟩ := List.mem_map.1 hs'
      obtain ⟨r', hr'⟩ := hr.exists_request hs
      exact hr.line_lt ho hp hr'

/-- The next line adds its request. -/
theorem numbered_next (hr : Records cfg lines p sent settled) (hp : p.phase = .reading)
    {raw : Bytes} {rest : List Bytes} {text : String} (hi : p.input = raw :: rest)
    (ht : lineText? raw = some text) :
    rest = lines.drop (p.summary.lines + 1) ∧ numbered cfg (lines.take (p.summary.lines + 1)) =
      settled ++ [(p.summary.lines + 1, cfg.read text)] := by
  have hdrop : lines.drop p.summary.lines = raw :: rest := by rw [← hr.input, hi]
  have hget : lines[p.summary.lines]? = some raw := by
    rw [← List.head?_drop, hdrop]
    rfl
  obtain ⟨left, hread, hleft⟩ := hr.read
  rw [hleft (by simp [Pump.isOver, hp]), Pump.pending, hp] at hread
  refine ⟨?_, ?_⟩
  · rw [← List.tail_drop, hdrop]
    rfl
  · rw [numbered_take_succ cfg hget, hread, ht]
    simp

/-- A request that brings nothing is done with as soon as its line is read. -/
theorem pass (hr : Records cfg lines p sent settled) {r : Request} (p' : Pump)
    (hin : p'.input = lines.drop p'.summary.lines)
    (hnum : numbered cfg (lines.take p'.summary.lines) = settled ++ [(p'.summary.lines, r)])
    (hp' : p'.pending = none) (hb : payloadsOf [(p'.summary.lines, r)] = []) :
    Records cfg lines p' sent (settled ++ [(p'.summary.lines, r)]) where
  input := hin
  read := ⟨[], by rw [hnum, List.append_nil], fun _ => by rw [hp']; rfl⟩
  buffers := by rw [hr.buffers, payloadsOf_append, hb, List.append_nil]
  handles s hs hh := by
    obtain ⟨name, hname⟩ := hr.handles s hs hh
    exact ⟨name, List.mem_append_left _ hname⟩
  sorted := hr.sorted

/-- A pump that has read a line is about its request, or is done with one that asks for nothing. -/
theorem takeUp (hr : Records cfg lines p sent settled) (hp : p.phase = .reading) {raw : Bytes}
    {rest : List Bytes} {text : String} (hi : p.input = raw :: rest)
    (ht : lineText? raw = some text) (l : Link) :
    ∃ settled', Records cfg lines ((p.nextLine rest).takeUp l (cfg.read text)).pump sent
      settled' := by
  obtain ⟨hrest, hnum⟩ := hr.numbered_next hp hi ht
  cases hreq : cfg.read text with
  | openPort name =>
    rw [hreq] at hnum
    exact ⟨settled, hrest, ⟨_, hnum, fun _ => rfl⟩, hr.buffers, hr.handles, hr.sorted⟩
  | payload b =>
    rw [hreq] at hnum
    exact ⟨settled, hrest, ⟨_, hnum, fun _ => rfl⟩, hr.buffers, hr.handles, hr.sorted⟩
  | nothing =>
    rw [hreq] at hnum
    exact ⟨_, hr.pass (p.nextLine rest) hrest hnum (by simp [Pump.nextLine, Pump.pending, hp]) rfl⟩
  | fault e =>
    rw [hreq] at hnum
    exact ⟨_, hr.pass (p.nextLine rest).countRejected hrest hnum
      (by simp [Pump.nextLine, Pump.countRejected, Pump.pending, hp]) rfl⟩

end Records

/-- **A move of the pump adds what it sends to the record.** -/
theorem records_of_moves {openPort : String → Except PortError Handle} {p : Pump} {l : Link}
    {m : Pump.Move} {sent : List Sending} (hr : Records cfg lines p sent settled)
    (h : Pump.Moves cfg openPort p l m) :
    ∃ settled', Records cfg lines m.pump
      (sent ++ (l.arrivals m.link).map fun d => ⟨p.summary.lines, d⟩) settled' := by
  have hover := Pump.isOver_of_moves h
  -- a pump that stops brings nothing more onto its link
  have hstop : ∀ p' : Pump, p'.input = p.input → p'.summary.lines = p.summary.lines →
      p'.isOver = true →
      Records cfg lines p' (sent ++ (l.arrivals l.endSending).map fun d => ⟨p.summary.lines, d⟩)
        settled := by
    intro p' hin hl ho
    rw [Link.arrivals_endSending, List.map_nil, List.append_nil]
    exact hr.stop hin hl ho
  cases h with
  | inputEnd hp hi => exact ⟨settled, hstop _ rfl rfl rfl⟩
  | notText hp hi ht => exact ⟨settled, hstop _ rfl rfl rfl⟩
  | @line raw rest text hp hi ht =>
    obtain ⟨settled', hr'⟩ := hr.takeUp hp hi ht l
    refine ⟨settled', ?_⟩
    rw [Pump.takeUp_link, Link.arrivals_self, List.map_nil, List.append_nil]
    exact hr'
  | @opened name hp hd =>
    have hpending : p.pending = some (.openPort name) := by simp [Pump.pending, hp]
    cases ho : openPort name with
    | ok h =>
      by_cases hrecv : l.ports.receiving = true
      · have hdone :=
          hr.settle hover hpending { p with phase := .reading }.countOpened rfl rfl rfl openPort
        refine ⟨settled ++ [(p.summary.lines, .openPort name)], ?_⟩
        simp only [Pump.publish, hrecv, if_true, Link.arrivals_handle]
        simpa [Request.deliveries, ho] using hdone
      · refine ⟨settled, ?_⟩
        simp only [Pump.publish, if_neg hrecv]
        exact hstop _ rfl rfl rfl
    | error e =>
      have hdone :=
        hr.settle hover hpending { p with phase := .reading }.countRejected rfl rfl rfl openPort
      refine ⟨settled ++ [(p.summary.lines, .openPort name)], ?_⟩
      simp only [Pump.publish, Link.arrivals_self]
      simpa [Request.deliveries, ho] using hdone
  | refused hp hb => exact ⟨settled, hstop _ rfl rfl rfl⟩
  | @sent bs hp hb hf =>
    have hpending : p.pending = some (.payload bs) := by simp [Pump.pending, hp]
    have hdone :=
      hr.settle hover hpending { p with phase := .reading }.countBuffer rfl rfl rfl openPort
    refine ⟨settled ++ [(p.summary.lines, .payload bs)], ?_⟩
    rw [Link.arrivals_buffer]
    simpa [Request.deliveries] using hdone

/-- **As long as the buffers have a receiver**, those that wait are the last ones sent, and they
come from lines behind all handles sent. -/
structure Queues (f : Feed) : Prop where
  flow : f.buffers.map Prod.snd = f.taken ++ f.link.buffers.items
  behind : ∀ s ∈ f.sent, s.IsHandle → ∀ w ∈ f.waiting, s.line < w.1

theorem Queues.waiting (hq : f.Queues) : f.waiting.map Prod.snd = f.link.buffers.items := by
  rw [Feed.waiting, List.map_drop, hq.flow, List.drop_left]

/-- What holds of a feed at any time. -/
def IsOrderly (cfg : InputSettings) (lines : List Bytes) (f : Feed) : Prop :=
  (∃ settled, Records cfg lines f.pump f.sent settled) ∧
    (f.link.buffers.receiving = true → f.Queues)

/-- A record that has not grown, on a link with the same buffers. -/
theorem Queues.of_same (hq : f.Queues) (hs : f'.sent = f.sent) (ht : f'.taken = f.taken)
    (hi : f'.link.buffers.items = f.link.buffers.items) : f'.Queues where
  flow := by rw [Feed.buffers, hs, ht, hi]; exact hq.flow
  behind := by
    rw [hs, Feed.waiting, Feed.buffers, hs, ht]
    exact hq.behind

/-- A handle is sent when no buffer waits. -/
theorem Queues.handle (hq : f.Queues) {k : ℕ} {h : Handle} (hnone : f.link.buffers.items = [])
    (hs : f'.sent = f.sent ++ [⟨k, .handle h⟩]) (ht : f'.taken = f.taken)
    (hi : f'.link.buffers.items = f.link.buffers.items) : f'.Queues := by
  have hbuffers : f'.buffers = f.buffers := by simp [Feed.buffers, hs, Sending.buffer?]
  have hwaiting : f'.waiting = [] := by
    rw [Feed.waiting, hbuffers, ht]
    rw [← List.map_eq_nil_iff (f := Prod.snd)]
    exact hq.waiting.trans hnone
  refine ⟨?_, fun s _ _ w hw => ?_⟩
  · rw [hbuffers, ht, hi]
    exact hq.flow
  · rw [hwaiting] at hw
    cases hw

/-- A buffer that is sent waits behind the others, and its line is the last one. -/
theorem Queues.buffer (hq : f.Queues) {k : ℕ} {b : Bytes}
    (hs : f'.sent = f.sent ++ [⟨k, .buffer b⟩]) (ht : f'.taken = f.taken)
    (hi : f'.link.buffers.items = f.link.buffers.items ++ [b])
    (hsorted : f'.sent.Pairwise fun s t => s.line < t.line) : f'.Queues := by
  have hbuffers : f'.buffers = f.buffers ++ [(k, b)] := by simp [Feed.buffers, hs, Sending.buffer?]
  have hlength : f.taken.length ≤ f.buffers.length := by
    have hflow := congrArg List.length hq.flow
    simp only [List.length_map, List.length_append] at hflow
    omega
  have hwaiting : f'.waiting = f.waiting ++ [(k, b)] := by
    rw [Feed.waiting, hbuffers, ht]
    exact List.drop_append_of_le_length hlength
  rw [hs] at hsorted
  refine ⟨?_, ?_⟩
  · rw [hbuffers, ht, hi, List.map_append, hq.flow, List.append_assoc]
    rfl
  · rw [hs, hwaiting]
    intro s hmem hh w hw
    rcases List.mem_append.1 hmem with hmem | hmem
    · rcases List.mem_append.1 hw with hw | hw
      · exact hq.behind s hmem hh w hw
      · obtain rfl := List.mem_singleton.1 hw
        exact (List.pairwise_append.1 hsorted).2.2 s hmem _ (List.mem_singleton_self _)
    · obtain rfl := List.mem_singleton.1 hmem
      obtain ⟨h, hd⟩ := hh
      cases hd

/-- **A move of the pump keeps the waiting buffers behind the handles.** -/
theorem queues_advance {openPort : String → Except PortError Handle} {m : Pump.Move} (hq : f.Queues)
    (hopen : f.link.buffers.receiving = true)
    (hr : Records cfg lines (f.advance m).pump (f.advance m).sent settled)
    (h : Pump.Handover cfg openPort f.pump f.link m) : (f.advance m).Queues := by
  cases h with
  | nothing hl => exact hq.of_same (by simp [advance, hl]) rfl (by simp [advance, hl])
  | ended hl =>
    exact hq.of_same (by simp [advance, hl]) rfl (by simp [advance, hl, Channel.endSending])
  | @handle h hb hl =>
    have hsent : (f.advance m).sent = f.sent ++ [⟨f.pump.summary.lines, .handle h⟩] := by
      simp [advance, hl]
    exact hq.handle (hb hopen) hsent rfl (by simp [advance, hl])
  | @buffer b hl =>
    have hsent : (f.advance m).sent = f.sent ++ [⟨f.pump.summary.lines, .buffer b⟩] := by
      simp [advance, hl]
    exact hq.buffer hsent rfl (by simp [advance, hl, Channel.push]) hr.sorted

/-- **Every move keeps a feed orderly.** -/
theorem IsOrderly.step {m : Move} (hf : f.IsOrderly cfg lines) (h : f.step cfg m = some f') :
    f'.IsOrderly cfg lines := by
  obtain ⟨⟨settled, hr⟩, hq⟩ := hf
  cases m with
  | pump openPort =>
    obtain ⟨m, hm, rfl⟩ := Option.map_eq_some_iff.1 h
    have hmoves := Pump.moves_of_step hm
    have hhand := Pump.handover_of_moves hmoves
    obtain ⟨settled', hr'⟩ := records_of_moves hr hmoves
    refine ⟨⟨settled', hr'⟩, fun hopen => ?_⟩
    have hopen : f.link.buffers.receiving = true := by rw [← hhand.receiving.1]; exact hopen
    exact queues_advance (hq hopen) hopen hr' hhand
  | takeBuffer =>
    obtain ⟨b, hb, rfl⟩ := Option.map_eq_some_iff.1 h
    obtain ⟨rest, hitems⟩ := List.head?_eq_some_iff.1 hb
    refine ⟨⟨settled, hr⟩, fun hopen => ?_⟩
    have hqueues := hq hopen
    refine ⟨?_, fun s hs hh w hw => hqueues.behind s hs hh w ?_⟩
    · have hflow := hqueues.flow
      rw [hitems] at hflow
      simpa [setBuffers, Channel.pop, Feed.buffers, hitems] using hflow
    · -- what waits behind the buffer taken has waited before
      have hdrop : f.buffers.drop (f.taken.length + 1) = f.waiting.drop 1 := by
        rw [Feed.waiting, List.drop_drop]
      have hw : w ∈ f.buffers.drop (f.taken.length + 1) := by
        simpa [Feed.waiting, Feed.buffers, setBuffers] using hw
      rw [hdrop] at hw
      exact List.mem_of_mem_drop hw
  | takeHandle =>
    obtain ⟨hd, -, rfl⟩ := Option.map_eq_some_iff.1 h
    exact ⟨⟨settled, hr⟩, fun hopen => (hq hopen).of_same rfl rfl rfl⟩
  | closeBuffers =>
    cases h
    have hclosed : (f.link.buffers.close (f.pump.wanted f.link)).receiving = false := by
      unfold Channel.close
      split
      · rfl
      · next hc => simpa using hc
    exact ⟨⟨settled, hr⟩, fun hopen => absurd (hclosed.symm.trans hopen) Bool.false_ne_true⟩
  | closeHandles =>
    cases h
    exact ⟨⟨settled, hr⟩, fun hopen => (hq hopen).of_same rfl rfl rfl⟩
  | dropBuffers =>
    cases h
    exact ⟨⟨settled, hr⟩, fun hopen => Bool.noConfusion hopen⟩
  | dropHandles =>
    cases h
    exact ⟨⟨settled, hr⟩, fun hopen => (hq hopen).of_same rfl rfl rfl⟩

theorem IsOrderly.follow {ms : List Move} (hf : f.IsOrderly cfg lines)
    (h : f.follow cfg ms = some f') :
    f'.IsOrderly cfg lines :=
  foldlM_keeps (P := fun q => q.IsOrderly cfg lines) (fun _ _ _ _ hq hstep => hq.step hstep) hf h

/-- A link on which nothing is queued. -/
theorem start_isOrderly (cfg : InputSettings) (link : Link) (input : Bytes)
    (hb : link.buffers.items = []) :
    (start link input).IsOrderly cfg (splitLines input) := by
  refine ⟨⟨[], rfl, ⟨[], rfl, fun _ => rfl⟩, rfl, nofun, .nil⟩, fun _ => ⟨?_, nofun⟩⟩
  exact hb.symm

/-- A handle is put on the link only where a port is opened, once no buffer waits. -/
theorem pending_of_handle {openPort : String → Except PortError Handle} {m : Pump.Move} {h : Handle}
    (hm : Pump.Moves cfg openPort f.pump f.link m)
    (hh : m.link.ports.items = f.link.ports.items ++ [h]) :
    (∃ name, f.pump.pending = some (.openPort name)) ∧
      f.link.arrivals m.link = [.handle h] ∧
      (f.link.buffers.receiving = true → f.link.buffers.items = []) := by
  cases hm with
  | inputEnd hp hi => simp [Pump.stop] at hh
  | notText hp hi ht => simp [Pump.stop] at hh
  | line hp hi ht => simp at hh
  | @opened name hp hd =>
    refine ⟨⟨name, by simp [Pump.pending, hp]⟩, ?_, hd⟩
    cases ho : openPort name with
    | ok h' =>
      rw [ho] at hh
      by_cases hr : f.link.ports.receiving = true
      · simp [Pump.publish, hr, Channel.push] at hh
        simp [Pump.publish, hr, hh]
      · simp [Pump.publish, hr, Pump.stop] at hh
    | error e =>
      rw [ho] at hh
      simp [Pump.publish] at hh
  | refused hp hr => simp [Pump.stop] at hh
  | sent hp hr hf => simp at hh

/-- **No handle is sent ahead of an older buffer.** Whatever the receivers do, the record of what
was sent stands in the order of the lines: the buffers are the first of those that the lines spell,
and each handle comes from a line that asks for a port. When a handle is put on the link, the
buffers from all earlier lines have been sent, and taken too, unless nobody receives buffers any
more. So as long as somebody does, those that wait come from lines behind all handles sent. -/
theorem handles_follow_buffers {capacity : ℕ} {kept : Bool} {input : Bytes} {ms : List Move}
    (h : (start { Link.withCapacity capacity with portsKept := kept } input).follow cfg ms =
      some f) :
    (f.sent.Pairwise fun s t => s.line < t.line) ∧
      f.buffers <+: payloads cfg (splitLines input) ∧
      (∀ s ∈ f.sent, s.IsHandle →
        ∃ name, (s.line, Request.openPort name) ∈ numbered cfg (splitLines input)) ∧
      (∀ openPort f' hd, f.step cfg (.pump openPort) = some f' →
        f'.link.ports.items = f.link.ports.items ++ [hd] →
        f'.sent = f.sent ++ [⟨f.pump.summary.lines, .handle hd⟩] ∧
          f.buffers = payloads cfg ((splitLines input).take (f.pump.summary.lines - 1)) ∧
          (f.link.buffers.receiving = true →
            f.link.buffers.items = [] ∧ f.taken = f.buffers.map Prod.snd)) ∧
      (f.link.buffers.receiving = true → f.waiting.map Prod.snd = f.link.buffers.items ∧
        ∀ s ∈ f.sent, s.IsHandle → ∀ w ∈ f.waiting, s.line < w.1) := by
  obtain ⟨⟨settled, hr⟩, hq⟩ := (start_isOrderly cfg _ input rfl).follow h
  have hfirst : settled <+: numbered cfg (splitLines input) := by
    obtain ⟨rest, hread, -⟩ := hr.read
    exact (hread ▸ List.prefix_append settled rest).trans (numbered_take cfg _ _)
  refine ⟨hr.sorted, ?_, ?_, ?_, fun hopen => ⟨(hq hopen).waiting, (hq hopen).behind⟩⟩
  · rw [Feed.buffers, hr.buffers]
    exact hfirst.filterMap _
  · intro s hs hh
    obtain ⟨name, hname⟩ := hr.handles s hs hh
    exact ⟨name, hfirst.subset hname⟩
  · intro openPort f' hd hstep hput
    obtain ⟨m, hm, rfl⟩ := Option.map_eq_some_iff.1 hstep
    have hmoves := Pump.moves_of_step hm
    obtain ⟨⟨name, hpending⟩, harrivals, hempty⟩ := pending_of_handle hmoves hput
    refine ⟨?_, ?_, fun hopen => ⟨hempty hopen, ?_⟩⟩
    · rw [advance, harrivals]
      rfl
    · rw [Feed.buffers, hr.buffers, hr.settled_eq (Pump.isOver_of_moves hmoves) hpending]
      rfl
    · rw [(hq hopen).flow, hempty hopen, List.append_nil]

/-- Every name opens a port of that name. -/
def openAny (name : String) : Except PortError Handle := .ok ⟨0, name⟩

/-- Two payloads, and an opening behind each of them. -/
def twoSwitches : Bytes := Text.utf8 "a\n:port P\nb\n:port Q\n"

/-- The moves after which the second payload waits. -/
def untilSecond : List Move :=
  [.pump openAny, .pump openAny, .pump openAny, .takeBuffer, .pump openAny, .pump openAny,
    .pump openAny, .pump openAny]

theorem handles_follow_buffers_two :
    ∃ f f' f'' : Feed,
      (start { Link.withCapacity 1 with portsKept := false } twoSwitches).follow {} untilSecond =
        some f ∧
      f.link.buffers.receiving = true ∧ f.link.buffers.items = [[98, 10]] ∧
      f.sent = [⟨1, .buffer [97, 10]⟩, ⟨2, .handle ⟨0, "P"⟩⟩, ⟨3, .buffer [98, 10]⟩] ∧
      f.waiting.map Prod.snd = f.link.buffers.items ∧
      (∀ s ∈ f.sent, s.IsHandle → ∀ w ∈ f.waiting, s.line < w.1) ∧
      (start { Link.withCapacity 1 with portsKept := false } twoSwitches).follow {}
        (untilSecond ++ [.takeBuffer]) =
        some f' ∧
      f'.step {} (.pump openAny) = some f'' ∧ f'.link.buffers.receiving = true ∧
      f''.link.ports.items = f'.link.ports.items ++ [⟨0, "Q"⟩] ∧
      f''.sent = f'.sent ++ [⟨4, .handle ⟨0, "Q"⟩⟩] ∧ f'.taken = f'.buffers.map Prod.snd := by
  obtain ⟨f, hf, ho, hi, hs⟩ : ∃ f : Feed,
      (start { Link.withCapacity 1 with portsKept := false } twoSwitches).follow {} untilSecond =
        some f ∧
      f.link.buffers.receiving = true ∧ f.link.buffers.items = [[98, 10]] ∧
      f.sent = [⟨1, .buffer [97, 10]⟩, ⟨2, .handle ⟨0, "P"⟩⟩, ⟨3, .buffer [98, 10]⟩] :=
    ⟨_, rfl, rfl, rfl, rfl⟩
  obtain ⟨f', f'', hf', hstep, ho', hput, hline⟩ : ∃ f' f'' : Feed,
      (start { Link.withCapacity 1 with portsKept := false } twoSwitches).follow {}
        (untilSecond ++ [.takeBuffer]) =
        some f' ∧
      f'.step {} (.pump openAny) = some f'' ∧ f'.link.buffers.receiving = true ∧
      f''.link.ports.items = f'.link.ports.items ++ [⟨0, "Q"⟩] ∧ f'.pump.summary.lines = 4 :=
    ⟨_, _, rfl, rfl, rfl, rfl, rfl⟩
  obtain ⟨-, -, -, -, hwait⟩ := handles_follow_buffers hf
  obtain ⟨-, -, -, hhandle, -⟩ := handles_follow_buffers hf'
  obtain ⟨hsent, -, htaken⟩ := hhandle _ _ _ hstep hput
  rw [hline] at hsent
  exact ⟨f, f', f'', hf, ho, hi, hs, (hwait ho).1, (hwait ho).2, hf', hstep, ho', hput, hsent,
    (htaken ho').2⟩

end Feed

end SerialRelay

import Mathlib.Data.List.TakeWhile
import SerialRelay.Proofs.Pump.Feed

/-!
# What a pump does about its lines

A pump does one thing about each line: it sends a buffer, has a port opened, passes the line or
skips it. What it has done is recorded beside its moves, with the answer to each opening.

* `Pump.deed?`: what a pump does when it moves.
* `Pump.HasDone`: the deeds of a pump are what the lines read so far ask for, in their order.
* `Pump.Completes`: a pump whose receivers stay finishes only when it has done what all lines ask
  for.
* `Pump.Completes.of_isOver`: such a pump at its end.
* `Pump.movesLeft`: a pump has two moves for each line at most, and one for the end.
-/

namespace SerialRelay

/-- **What a pump does about a line.** An opening has its name and its answer. -/
inductive Deed where
  | sent (buffer : Bytes)
  | asked (name : String) (answer : Except PortError Handle)
  | passed
  | skipped (e : PayloadError)
  deriving DecidableEq, Repr

namespace Deed

/-- What the line has asked for. -/
def request : Deed → Request
  | sent b => .payload b
  | asked name _ => .openPort name
  | passed => .nothing
  | skipped e => .fault e

/-- What comes onto the link. -/
def delivery? : Deed → Option Delivery
  | sent b => some (.buffer b)
  | asked _ (.ok h) => some (.handle h)
  | asked _ (.error _) => none
  | passed => none
  | skipped _ => none

/-- The name that is opened, and the answer. -/
def opening? : Deed → Option (String × Except PortError Handle)
  | asked name answer => some (name, answer)
  | _ => none

/-- The buffer that is sent. -/
def buffer? : Deed → Option Bytes
  | sent b => some b
  | _ => none

/-- The handle that is obtained. -/
def handle? (d : Deed) : Option Handle := d.opening?.bind fun x => x.2.toOption

end Deed

/-- Whether a line is text. -/
def isText (raw : Bytes) : Bool := (lineText? raw).isSome

/-- **What some lines ask for**; what is not text asks for nothing. -/
def requests (cfg : InputSettings) (lines : List Bytes) : List Request :=
  lines.filterMap fun raw => (lineText? raw).map cfg.read

theorem requests_append (cfg : InputSettings) (lines lines' : List Bytes) :
    requests cfg (lines ++ lines') = requests cfg lines ++ requests cfg lines' :=
  List.filterMap_append

theorem requests_take_succ (cfg : InputSettings) {lines : List Bytes} {n : ℕ} {raw : Bytes}
    {text : String} (h : lines[n]? = some raw) (ht : lineText? raw = some text) :
    requests cfg (lines.take (n + 1)) = requests cfg (lines.take n) ++ [cfg.read text] := by
  rw [List.take_add_one, h, Option.toList_some, requests_append]
  simp [requests, ht]

namespace Pump

variable {cfg : InputSettings} {openPort : String → Except PortError Handle} {p : Pump} {l : Link}
  {m : Move} {lines : List Bytes} {deeds : List Deed}

/-- **What a pump does when it moves.** A line that asks for a port or a payload is only taken up;
what it asks for is done in the next move. -/
def deed? (cfg : InputSettings) (openPort : String → Except PortError Handle) (p : Pump)
    (l : Link) : Option Deed :=
  match p.phase with
  | .reading =>
    match (p.input.head?.bind lineText?).map cfg.read with
    | some .nothing => some .passed
    | some (.fault e) => some (.skipped e)
    | _ => none
  | .opening name => some (.asked name (openPort name))
  | .sending b => if l.buffers.receiving then some (.sent b) else none
  | .finished => none
  | .broken => none

/-- A pump that has read a line has either done what it asks for or is about to do it. -/
theorem deed_takeUp (hp : p.phase = .reading) {raw : Bytes} {rest : List Bytes} {text : String}
    (hi : p.input = raw :: rest) (ht : lineText? raw = some text) :
    (p.deed? cfg openPort l).toList.map Deed.request ++
      ((p.nextLine rest).takeUp l (cfg.read text)).pump.pending.toList = [cfg.read text] := by
  have hread : (p.input.head?.bind lineText?).map cfg.read = some (cfg.read text) := by
    simp [hi, ht]
  cases hr : cfg.read text <;>
    simp [deed?, hp, hread, hr, takeUp, pending, nextLine, countRejected, Deed.request]

/-- What reading a line does to a pump, whatever it asks for. -/
theorem takeUp_keeps (hp : p.phase = .reading) (rest : List Bytes) (l : Link) (r : Request) :
    ((p.nextLine rest).takeUp l r).pump.input = rest ∧
      ((p.nextLine rest).takeUp l r).pump.summary.lines = p.summary.lines + 1 ∧
      ((p.nextLine rest).takeUp l r).pump.isOver = false := by
  cases r <;> simp [takeUp, nextLine, countRejected, isOver, hp]

/-- The handle that is obtained comes behind the others, if there is someone to take it. -/
theorem ports_of_moves (h : Moves cfg openPort p l m) :
    m.link.ports.items = l.ports.items ++
      if l.ports.receiving then ((p.deed? cfg openPort l).bind Deed.handle?).toList else [] := by
  cases h with
  | inputEnd hp hi => simp [deed?, hp, hi, stop]
  | notText hp hi ht => simp [deed?, hp, hi, ht, stop]
  | @line raw rest text hp hi ht =>
    rw [takeUp_link]
    simp only [deed?, hp, hi, List.head?_cons, Option.bind_some, ht, Option.map_some]
    cases cfg.read text <;> simp [Deed.handle?, Deed.opening?]
  | @opened name hp hd =>
    cases ho : openPort name <;> cases hr : l.ports.receiving <;>
      simp [deed?, hp, ho, publish, hr, stop, Channel.push, Deed.handle?, Deed.opening?,
        Except.toOption]
  | refused hp hb => simp [deed?, hp, hb, stop]
  | sent hp hb hf => simp [deed?, hp, hb, Deed.handle?, Deed.opening?]

/-- A buffer that is sent comes behind the others. -/
theorem buffers_of_moves (h : Moves cfg openPort p l m) :
    m.link.buffers.items =
      l.buffers.items ++ ((p.deed? cfg openPort l).bind Deed.buffer?).toList := by
  cases h with
  | inputEnd hp hi => simp [deed?, hp, hi, stop, Channel.endSending]
  | notText hp hi ht => simp [deed?, hp, hi, ht, stop, Channel.endSending]
  | @line raw rest text hp hi ht =>
    rw [takeUp_link]
    simp only [deed?, hp, hi, List.head?_cons, Option.bind_some, ht, Option.map_some]
    cases cfg.read text <;> simp [Deed.buffer?]
  | @opened name hp hd =>
    cases ho : openPort name <;> cases hr : l.ports.receiving <;>
      simp [deed?, hp, ho, publish, hr, stop, Channel.endSending, Deed.buffer?]
  | refused hp hb => simp [deed?, hp, hb, stop, Channel.endSending]
  | sent hp hb hf => simp [deed?, hp, hb, Channel.push, Deed.buffer?]

/-- **What comes onto the link is what the pump does**, as long as the handles have a receiver. -/
theorem arrivals_of_moves (hr : l.ports.receiving = true) (h : Moves cfg openPort p l m) :
    l.arrivals m.link = ((p.deed? cfg openPort l).bind Deed.delivery?).toList := by
  rw [Link.arrivals, ports_of_moves h, buffers_of_moves h, if_pos hr, List.drop_left,
    List.drop_left]
  cases p.deed? cfg openPort l with
  | none => rfl
  | some d =>
    cases d with
    | asked name answer => cases answer <;> rfl
    | sent b => rfl
    | passed => rfl
    | skipped e => rfl

/-- **What a pump has done is what the lines it has read ask for**, but for the request that it is
about. -/
structure HasDone (cfg : InputSettings) (lines : List Bytes) (p : Pump) (deeds : List Deed) :
    Prop where
  input : p.input = lines.drop p.summary.lines
  within : p.summary.lines ≤ lines.length
  text : ∀ raw ∈ lines.take p.summary.lines, isText raw = true
  first : deeds.map Deed.request <+: requests cfg (lines.take p.summary.lines)
  going : p.isOver = false →
    requests cfg (lines.take p.summary.lines) = deeds.map Deed.request ++ p.pending.toList
  broken : p.phase = .broken → requests cfg (lines.take p.summary.lines) = deeds.map Deed.request ∧
    ∃ raw rest, p.input = raw :: rest ∧ isText raw = false

theorem ofInput_hasDone (cfg : InputSettings) (input : Bytes) :
    (ofInput input).HasDone cfg (splitLines input) [] where
  input := rfl
  within := Nat.zero_le _
  text raw hraw := absurd hraw List.not_mem_nil
  first := List.nil_prefix
  going _ := rfl
  broken hb := by cases hb

namespace HasDone

/-- The line that is read next, and what it asks for. -/
theorem read_next (h : p.HasDone cfg lines deeds) (hp : p.phase = .reading) {raw : Bytes}
    {rest : List Bytes} {text : String} (hi : p.input = raw :: rest)
    (ht : lineText? raw = some text) :
    rest = lines.drop (p.summary.lines + 1) ∧ p.summary.lines + 1 ≤ lines.length ∧
      (∀ line ∈ lines.take (p.summary.lines + 1), isText line = true) ∧
      requests cfg (lines.take (p.summary.lines + 1)) =
        deeds.map Deed.request ++ [cfg.read text] := by
  have hdrop : lines.drop p.summary.lines = raw :: rest := by rw [← h.input, hi]
  have hget : lines[p.summary.lines]? = some raw := by
    rw [← List.head?_drop, hdrop]
    rfl
  refine ⟨?_, (List.getElem?_eq_some_iff.1 hget).1, ?_, ?_⟩
  · rw [← List.tail_drop, hdrop]
    rfl
  · intro line hline
    rw [List.take_add_one, hget, Option.toList_some, List.mem_append, List.mem_singleton] at hline
    rcases hline with hline | rfl
    · exact h.text line hline
    · simp [isText, ht]
  · have hread := h.going (by simp [isOver, hp])
    rw [pending, hp] at hread
    rw [requests_take_succ cfg hget ht, hread]
    simp

/-- What a pump that goes on has done, and what it is about, comes first among the requests. -/
theorem of_going {p' : Pump} (hin : p'.input = lines.drop p'.summary.lines)
    (hwithin : p'.summary.lines ≤ lines.length)
    (htext : ∀ raw ∈ lines.take p'.summary.lines, isText raw = true) (hgo : p'.isOver = false)
    (hread : requests cfg (lines.take p'.summary.lines) =
      deeds.map Deed.request ++ p'.pending.toList) :
    p'.HasDone cfg lines deeds where
  input := hin
  within := hwithin
  text := htext
  first := hread ▸ List.prefix_append _ _
  going _ := hread
  broken hb := by simp [isOver, hb] at hgo

/-- A pump that finishes may have done the last thing that it was about, or not. -/
theorem stop (h : p.HasDone cfg lines deeds) {deeds' : List Deed}
    (hfirst : deeds'.map Deed.request <+: requests cfg (lines.take p.summary.lines)) {p' : Pump}
    (hin : p'.input = p.input) (hl : p'.summary.lines = p.summary.lines)
    (hf : p'.phase = .finished) :
    p'.HasDone cfg lines deeds' where
  input := by rw [hin, hl, h.input]
  within := by rw [hl]; exact h.within
  text := by rw [hl]; exact h.text
  first := by rw [hl]; exact hfirst
  going hgo := by simp [isOver, hf] at hgo
  broken hb := by rw [hf] at hb; cases hb

/-- **A move adds what it does.** -/
theorem move (h : p.HasDone cfg lines deeds) (hm : Moves cfg openPort p l m) :
    m.pump.HasDone cfg lines (deeds ++ (p.deed? cfg openPort l).toList) := by
  have hread := h.going (isOver_of_moves hm)
  cases hm with
  | inputEnd hp hi =>
    have hnone : p.deed? cfg openPort l = none := by simp [deed?, hp, hi]
    rw [hnone, Option.toList_none, List.append_nil]
    exact h.stop h.first rfl rfl rfl
  | @notText raw rest hp hi ht =>
    have hnone : p.deed? cfg openPort l = none := by simp [deed?, hp, hi, ht]
    rw [pending, hp] at hread
    rw [hnone, Option.toList_none, List.append_nil]
    refine ⟨h.input, h.within, h.text, h.first, ?_, fun _ => ⟨?_, raw, rest, hi, ?_⟩⟩
    · intro hgo
      cases hgo
    · simpa [Pump.stop] using hread
    · simp [isText, ht]
  | @line raw rest text hp hi ht =>
    obtain ⟨hrest, hwithin, htext, hnum⟩ := h.read_next hp hi ht
    obtain ⟨hin, hl, hgo⟩ := takeUp_keeps hp rest l (cfg.read text)
    refine of_going ?_ ?_ ?_ hgo ?_
    · rw [hin, hl, hrest]
    · rw [hl]
      exact hwithin
    · rw [hl]
      exact htext
    · rw [hl, hnum, List.map_append, List.append_assoc, deed_takeUp hp hi ht]
  | @opened name hp hd =>
    have hdeed : p.deed? cfg openPort l = some (.asked name (openPort name)) := by simp [deed?, hp]
    rw [pending, hp] at hread
    have hdone : requests cfg (lines.take p.summary.lines) =
        (deeds ++ [Deed.asked name (openPort name)]).map Deed.request := by
          simpa [Deed.request] using hread
    rw [hdeed, Option.toList_some]
    unfold publish
    split
    · simp only
      split
      · exact of_going h.input h.within h.text rfl (by simpa [countOpened, pending] using hdone)
      -- the port is open, though there is no one to take its handle
      · exact h.stop (hdone ▸ List.prefix_rfl) rfl rfl rfl
    · exact of_going h.input h.within h.text rfl (by simpa [countRejected, pending] using hdone)
  | refused hp hb =>
    have hnone : p.deed? cfg openPort l = none := by simp [deed?, hp, hb]
    rw [hnone, Option.toList_none, List.append_nil]
    exact h.stop h.first rfl rfl rfl
  | @sent b hp hb hf =>
    have hdeed : p.deed? cfg openPort l = some (.sent b) := by simp [deed?, hp, hb]
    rw [pending, hp] at hread
    rw [hdeed, Option.toList_some]
    exact of_going h.input h.within h.text rfl
      (by simpa [countBuffer, pending, Deed.request] using hread)

/-- What has been done comes first among what the lines ask for, up to one that is not text. -/
theorem prefix_legible (h : p.HasDone cfg lines deeds) :
    deeds.map Deed.request <+: requests cfg (lines.takeWhile isText) := by
  have htake : lines.take p.summary.lines <+: lines.takeWhile isText := by
    rw [← List.take_append_drop p.summary.lines lines, List.takeWhile_append_of_pos h.text]
    simp
  obtain ⟨more, hmore⟩ := htake
  rw [← hmore, requests_append]
  exact h.first.trans (List.prefix_append _ _)

end HasDone

/-- **A pump whose receivers stay** finishes only at the end of its input, when it has done all. -/
structure Completes (cfg : InputSettings) (lines : List Bytes) (p : Pump) (deeds : List Deed) : Prop
    extends HasDone cfg lines p deeds where
  finished : p.phase = .finished → p.input = [] ∧
    requests cfg (lines.take p.summary.lines) = deeds.map Deed.request

theorem ofInput_completes (cfg : InputSettings) (input : Bytes) :
    (ofInput input).Completes cfg (splitLines input) [] :=
  ⟨ofInput_hasDone cfg input, fun hf => by cases hf⟩

/-- **A move with both receivers there adds what it does**, and is the last one only at the end of
the input. -/
theorem Completes.move (h : p.Completes cfg lines deeds) (hb : l.buffers.receiving = true)
    (hr : l.ports.receiving = true) (hm : Moves cfg openPort p l m) :
    m.pump.Completes cfg lines (deeds ++ (p.deed? cfg openPort l).toList) := by
  refine ⟨h.toHasDone.move hm, fun hf => ?_⟩
  have hread := h.going (isOver_of_moves hm)
  cases hm with
  | inputEnd hp hi =>
    rw [pending, hp] at hread
    exact ⟨hi, by simpa [Pump.stop, deed?, hp, hi] using hread⟩
  | notText hp hi ht => cases hf
  | @line raw rest text hp hi ht =>
    have hgo := (takeUp_keeps hp rest l (cfg.read text)).2.2
    simp [isOver, hf] at hgo
  | @opened name hp hd => cases ho : openPort name <;>
    simp [publish, ho, hr, countOpened, countRejected] at hf
  | refused hp hg => rw [hb] at hg; contradiction
  | sent hp hg hfull => cases hf

/-- **At its end** such a pump has done what the lines before the first one that is not text ask
for, and it says whether there is such a line. -/
theorem Completes.of_isOver (h : p.Completes cfg lines deeds) (ho : p.isOver = true) :
    p.summary.lines = (lines.takeWhile isText).length ∧
      deeds.map Deed.request = requests cfg (lines.takeWhile isText) ∧
      (p.phase = .finished ↔ ∀ raw ∈ lines, isText raw = true) ∧
      (p.phase = .broken ↔ ∃ raw ∈ lines, isText raw = false) := by
  have hphase : p.phase = .finished ∨ p.phase = .broken := by simpa [isOver] using ho
  have hlines := List.take_append_drop p.summary.lines lines
  rw [← h.input] at hlines
  have hread : (lines.take p.summary.lines).length = p.summary.lines :=
    List.length_take_of_le h.within
  rcases hphase with hf | hb
  · obtain ⟨hnil, hdone⟩ := h.finished hf
    rw [hnil, List.append_nil] at hlines
    have hall : ∀ raw ∈ lines, isText raw = true := by
      rw [← hlines]
      exact h.text
    rw [List.takeWhile_eq_self_iff.2 hall]
    rw [hlines] at hdone hread
    refine ⟨hread.symm, hdone.symm, by simpa [hf] using hall, by simpa [hf] using hall⟩
  · obtain ⟨hdone, raw, rest, hi, hraw⟩ := h.broken hb
    rw [hi] at hlines
    -- the lines read so far are text, and the next one is not
    have htake : lines.takeWhile isText = lines.take p.summary.lines := by
      conv_lhs => rw [← hlines]
      rw [List.takeWhile_append_of_pos h.text]
      simp [hraw]
    have hmem : raw ∈ lines := by
      rw [← hlines]
      simp
    rw [htake]
    refine ⟨hread.symm, hdone.symm, ?_, ?_⟩
    · simp only [hb, reduceCtorEq, false_iff, not_forall]
      exact ⟨raw, hmem, by simp [hraw]⟩
    · simp only [hb, true_iff]
      exact ⟨raw, hmem, hraw⟩

/-- **The moves that a pump has left at most**: two for each line, one for the end. -/
def movesLeft (p : Pump) : ℕ :=
  match p.phase with
  | .reading => 2 * p.input.length + 1
  | .opening _ => 2 * p.input.length + 2
  | .sending _ => 2 * p.input.length + 2
  | .finished => 0
  | .broken => 0

theorem movesLeft_lt_of_moves (h : Moves cfg openPort p l m) : m.pump.movesLeft < p.movesLeft := by
  cases h with
  | inputEnd hp hi => simp [stop, movesLeft, hp]
  | notText hp hi ht => simp [stop, movesLeft, hp]
  | @line raw rest text hp hi ht =>
    cases cfg.read text <;> simp [takeUp, nextLine, countRejected, movesLeft, hp, hi] <;> omega
  | @opened name hp hd =>
    cases openPort name with
    | error e => simp [publish, countRejected, movesLeft, hp]
    | ok h => cases hr : l.ports.receiving <;> simp [publish, hr, stop, countOpened, movesLeft, hp]
  | refused hp hr => simp [stop, movesLeft, hp]
  | sent hp hr hf => simp [countBuffer, movesLeft, hp]

end Pump

end SerialRelay

import SerialRelay.Proofs.Pump.InputLines

/-!
# A pump translates its lines

As long as both receivers stay, a pump is a function of its input: each line has its own effect,
whatever became of the lines before it, and nothing but a line that is not text ends the pump early.

* `InputSettings.command?`, `InputSettings.payload?`: the effect of a line, said without the pump.
* `Feed.deeds`: what a pump does along the moves of a feed.
* `Feed.Faithful`: what was sent is what the pump did, and the pump goes through its lines.
* `Feed.lines_translated`: the buffers, the names and the handles of any run with both receivers.
-/

namespace SerialRelay

namespace InputSettings

variable (cfg : InputSettings) (text : String)

/-- **The port that a line names**, if it is a command and there are commands. -/
def command? : Option String :=
  if cfg.commands = true ∧ ":port ".toList <+: text.toList then
    some (Text.trim (String.ofList (text.toList.drop 6)))
  else none

/-- **The payload of a line** that is no command. -/
def payload? : Option Bytes :=
  match cfg.command? text, cfg.format.decode cfg.terminator text with
  | none, .ok (some b) => some b
  | _, _ => none

/-- A line is read as its command, or else as payload. -/
theorem read_eq : cfg.read text =
    match cfg.command? text with
    | some name => .openPort name
    | none => cfg.readPayload text := by
  have hcommand : (if cfg.commands then commandName? text else none) = cfg.command? text := by
    have hlength : portCommand.length = 6 := by decide
    have hprefix : portCommand.isPrefixOf text.toList = true ↔ ":port ".toList <+: text.toList :=
      List.isPrefixOf_iff_prefix
    rw [commandName?, hlength, command?]
    cases cfg.commands with
    | false => simp only [Bool.false_eq_true, if_false, false_and]
    | true => simp only [if_true, true_and, hprefix]
  cases hc : cfg.command? text with
  | none => simp only [read, hcommand, hc]
  | some name => simp only [read, hcommand, hc]

end InputSettings

namespace Request

/-- The port that is asked for. -/
def name? : Request → Option String
  | openPort name => some name
  | _ => none

/-- The payload that is asked for. -/
def payload? : Request → Option Bytes
  | payload b => some b
  | _ => none

@[simp] theorem name_read (cfg : InputSettings) (text : String) :
    (cfg.read text).name? = cfg.command? text := by
  rw [cfg.read_eq]
  cases cfg.command? text with
  | some name => rfl
  | none =>
    simp only [InputSettings.readPayload]
    split <;> rfl

@[simp] theorem payload_read (cfg : InputSettings) (text : String) :
    (cfg.read text).payload? = cfg.payload? text := by
  rw [cfg.read_eq, InputSettings.payload?]
  cases cfg.command? text with
  | some name => rfl
  | none =>
    simp only [InputSettings.readPayload]
    split <;> simp_all [payload?]

end Request

/-- No line is decoded as an empty payload. -/
theorem InputFormat.decode_ne_nil {format : InputFormat} {terminator : Bytes} {line : String}
    {b : Bytes} (h : format.decode terminator line = .ok (some b)) : b ≠ [] := by
  cases format with
  | text =>
    have hsome := Except.ok.inj h
    split at hsome
    · cases hsome
    · next hne =>
      obtain rfl := Option.some.inj hsome
      intro hnil
      have hempty : line = "" := Text.utf8_injective (List.append_eq_nil_iff.1 hnil).1
      exact hne (by simp [hempty])
  | hex =>
    rw [InputFormat.decode] at h
    cases hx : Hex.decode line with
    | error e => simp [hx, Except.map] at h
    | ok bs =>
      simp only [hx, Except.map, Except.ok.injEq] at h
      split at h
      · cases h
      · next hne =>
        obtain rfl := Option.some.inj h
        simpa using hne

/-- No payload is empty. -/
theorem InputSettings.payload_ne_nil {cfg : InputSettings} {text : String} {b : Bytes}
    (h : cfg.payload? text = some b) : b ≠ [] := by
  unfold payload? at h
  split at h
  · next b' _ hd =>
    obtain rfl := Option.some.inj h
    exact InputFormat.decode_ne_nil hd
  · cases h

namespace Delivery

def buffer? : Delivery → Option Bytes
  | buffer b => some b
  | handle _ => none

def handle? : Delivery → Option Handle
  | handle h => some h
  | buffer _ => none

end Delivery

namespace Deed

/-- The name that is opened is the one that was asked for. -/
theorem fst_opening (d : Deed) : d.opening?.map Prod.fst = d.request.name? := by cases d <;> rfl

/-- The buffer on the link is the payload that was asked for. -/
theorem buffer_delivery (d : Deed) : d.delivery?.bind Delivery.buffer? = d.request.payload? := by
  cases d with
  | asked name answer => cases answer <;> rfl
  | sent b => rfl
  | passed => rfl
  | skipped e => rfl

/-- The handle on the link is the one that was obtained. -/
theorem handle_delivery (d : Deed) : d.delivery?.bind Delivery.handle? = d.handle? := by
  cases d with
  | asked name answer => cases answer <;> rfl
  | sent b => rfl
  | passed => rfl
  | skipped e => rfl

end Deed

namespace Feed

namespace Move

/-- The move of the pump. -/
def isPump : Move → Bool
  | .pump _ => true
  | _ => false

/-- A move after which both receivers are still there, if they were there before. -/
def keeps : Move → Bool
  | .pump _ => true
  | .takeBuffer => true
  | .takeHandle => true
  | .closeBuffers => false
  | .closeHandles => false
  | .dropBuffers => false
  | .dropHandles => false

end Move

/-- What the pump does in a move. -/
def deed? (cfg : InputSettings) (f : Feed) : Move → Option Deed
  | .pump openPort => f.pump.deed? cfg openPort f.link
  | _ => none

/-- **What the pump does along some moves**, as far as they can be made. -/
def deeds (cfg : InputSettings) (ms : List Move) (f : Feed) : List Deed :=
  (trail (step cfg) ms f).filterMap fun q => q.1.deed? cfg q.2

/-- **The names that are opened along some moves**, with the answers. -/
def openings (cfg : InputSettings) (ms : List Move) (f : Feed) :
    List (String × Except PortError Handle) :=
  (f.deeds cfg ms).filterMap Deed.opening?

/-- The payload sent. -/
def payload (f : Feed) : List Bytes := f.sent.filterMap fun s => s.delivery.buffer?

/-- The handles sent. -/
def handles (f : Feed) : List Handle := f.sent.filterMap fun s => s.delivery.handle?

variable {cfg : InputSettings} {lines : List Bytes} {capacity : ℕ} {f f' : Feed} {done : List Deed}

/-- **A feed whose receivers stay** has sent what its pump has done. -/
structure Faithful (cfg : InputSettings) (lines : List Bytes) (capacity : ℕ) (f : Feed)
    (done : List Deed) : Prop where
  completes : f.pump.Completes cfg lines done
  sent : f.sent.map Sending.delivery = done.filterMap Deed.delivery?
  buffersReceiving : f.link.buffers.receiving = true
  portsReceiving : f.link.ports.receiving = true
  room : f.link.buffers.capacity = some capacity

/-- A move adds what the pump does in it. -/
theorem Faithful.step {m : Move} (hf : f.Faithful cfg lines capacity done) (hm : m.keeps = true)
    (h : f.step cfg m = some f') :
    f'.Faithful cfg lines capacity (done ++ (f.deed? cfg m).toList) := by
  cases m with
  | pump openPort =>
    obtain ⟨m, hstep, rfl⟩ := Option.map_eq_some_iff.1 h
    have hmoves := Pump.moves_of_step hstep
    obtain ⟨hb, hp, hcap⟩ := (Pump.handover_of_moves hmoves).receiving
    refine ⟨hf.completes.move hf.buffersReceiving hf.portsReceiving hmoves, ?_,
      hb.trans hf.buffersReceiving, hp.trans hf.portsReceiving, hcap.trans hf.room⟩
    have harrivals := Pump.arrivals_of_moves hf.portsReceiving hmoves
    -- the line that a sending belongs to does not matter here
    have hsame : (Sending.delivery ∘ fun d => ⟨f.pump.summary.lines, d⟩) =
        (id : Delivery → Delivery) := rfl
    rw [advance, List.map_append, List.map_map, hsame, List.map_id, hf.sent, harrivals,
      List.filterMap_append, Feed.deed?]
    congr 1
    cases f.pump.deed? cfg openPort f.link with
    | none => rfl
    | some d => cases hd : d.delivery? <;> simp [hd]
  | takeBuffer =>
    obtain ⟨b, -, rfl⟩ := Option.map_eq_some_iff.1 h
    have hnone : f.deed? cfg .takeBuffer = none := rfl
    rw [hnone, Option.toList_none, List.append_nil]
    exact ⟨hf.completes, hf.sent, hf.buffersReceiving, hf.portsReceiving, hf.room⟩
  | takeHandle =>
    obtain ⟨hd, -, rfl⟩ := Option.map_eq_some_iff.1 h
    have hnone : f.deed? cfg .takeHandle = none := rfl
    rw [hnone, Option.toList_none, List.append_nil]
    exact ⟨hf.completes, hf.sent, hf.buffersReceiving, hf.portsReceiving, hf.room⟩
  | closeBuffers => cases hm
  | closeHandles => cases hm
  | dropBuffers => cases hm
  | dropHandles => cases hm

theorem Faithful.follow {ms : List Move} (hf : f.Faithful cfg lines capacity done)
    (hms : ∀ m ∈ ms, m.keeps = true) (h : f.follow cfg ms = some f') :
    f'.Faithful cfg lines capacity (done ++ f.deeds cfg ms) := by
  refine foldlM_trail (P := fun q past =>
    q.Faithful cfg lines capacity (done ++ past.filterMap fun p => p.1.deed? cfg p.2)) ?_ ?_ h
  · intro q q' past m hm hq hstep
    rw [filterMap_concat, ← List.append_assoc]
    exact hq.step (hms m hm) hstep
  · rwa [List.filterMap_nil, List.append_nil]

/-- Only its own moves change a pump and what it has sent. -/
theorem pump_of_step {m : Move} (h : f.step cfg m = some f') (hm : m.isPump = false) :
    f'.pump = f.pump ∧ f'.sent = f.sent := by
  cases m with
  | pump openPort => cases hm
  | takeBuffer =>
    obtain ⟨b, -, rfl⟩ := Option.map_eq_some_iff.1 h
    exact ⟨rfl, rfl⟩
  | takeHandle =>
    obtain ⟨hd, -, rfl⟩ := Option.map_eq_some_iff.1 h
    exact ⟨rfl, rfl⟩
  | closeBuffers | closeHandles | dropBuffers | dropHandles =>
    cases h
    exact ⟨rfl, rfl⟩

/-- Moves of the pump are paid for by what it has left to do. -/
theorem countP_isPump_le {ms : List Move} (h : f.follow cfg ms = some f') :
    f'.pump.movesLeft + ms.countP Move.isPump ≤ f.pump.movesLeft := by
  have hpaid := foldlM_trail (P := fun q past =>
    q.pump.movesLeft + (past.map Prod.snd).countP Move.isPump ≤ f.pump.movesLeft)
    ?_ (Nat.le_refl _) h
  · rwa [map_snd_trail h] at hpaid
  intro q q' past m _ hq hstep
  rw [List.map_append, List.countP_append]
  cases hm : m.isPump with
  | false =>
    rw [(pump_of_step hstep hm).1]
    simpa [hm] using hq
  | true =>
    cases m with
    | pump openPort =>
      obtain ⟨m, hmove, rfl⟩ := Option.map_eq_some_iff.1 hstep
      have hless := Pump.movesLeft_lt_of_moves (Pump.moves_of_step hmove)
      have hone : [(Move.pump openPort)].countP Move.isPump = 1 := rfl
      simp only [List.map_cons, List.map_nil, hone, advance]
      omega
    | _ => cases hm

/-- **A pump that goes on waits for its buffers only.** -/
theorem Faithful.step_isSome (hf : f.Faithful cfg lines capacity done) (hc : 0 < capacity)
    (hgo : f.pump.isOver = false) (hnone : f.link.buffers.items = [])
    (openPort : String → Except PortError Handle) :
    (f.step cfg (.pump openPort)).isSome = true := by
  rw [Feed.step, Option.isSome_map]
  by_contra hstuck
  rcases Pump.step_eq_none (Option.not_isSome_iff_eq_none.1 hstuck) with
      ho | ⟨-, ⟨-, hsome⟩ | ⟨-, hfull⟩⟩
  · rw [hgo] at ho
    contradiction
  · exact hsome hnone
  · rw [Channel.isFull, hf.room, hnone] at hfull
    simp only [List.length_nil, decide_eq_true_eq] at hfull
    omega

theorem Faithful.payload_eq (hf : f.Faithful cfg lines capacity done) :
    f.payload = (done.map Deed.request).filterMap Request.payload? := by
  have hsent : f.payload = (f.sent.map Sending.delivery).filterMap Delivery.buffer? := by
    rw [payload, List.filterMap_map]
    rfl
  rw [hsent, hf.sent, List.filterMap_filterMap, List.filterMap_map]
  exact List.filterMap_congr fun d _ => d.buffer_delivery

theorem Faithful.handles_eq (hf : f.Faithful cfg lines capacity done) :
    f.handles = (done.filterMap Deed.opening?).filterMap fun x => x.2.toOption := by
  have hsent : f.handles = (f.sent.map Sending.delivery).filterMap Delivery.handle? := by
    rw [handles, List.filterMap_map]
    rfl
  rw [hsent, hf.sent, List.filterMap_filterMap, List.filterMap_filterMap]
  exact List.filterMap_congr fun d _ => d.handle_delivery

/-- The names that are opened are those asked for. -/
theorem map_fst_openings (ds : List Deed) :
    (ds.filterMap Deed.opening?).map Prod.fst = (ds.map Deed.request).filterMap Request.name? := by
  rw [List.map_filterMap, List.filterMap_map]
  exact List.filterMap_congr fun d _ => d.fst_opening

/-- A feed at its start, with room for so many buffers. Others may hold on to the handle queue. -/
def fresh (capacity : ℕ) (kept : Bool) (input : Bytes) : Feed :=
  start { Link.withCapacity capacity with portsKept := kept } input

theorem fresh_faithful (cfg : InputSettings) (capacity : ℕ) (kept : Bool) (input : Bytes) :
    (fresh capacity kept input).Faithful cfg (splitLines input) capacity [] :=
  ⟨Pump.ofInput_completes cfg input, rfl, rfl, rfl, rfl⟩

/-- The payloads and the names that texts ask for. -/
theorem filterMap_read (cfg : InputSettings) (texts : List String) :
    (texts.map cfg.read).filterMap Request.payload? = texts.filterMap cfg.payload? ∧
      (texts.map cfg.read).filterMap Request.name? = texts.filterMap cfg.command? := by
  simp only [List.filterMap_map, Function.comp_def, Request.payload_read, Request.name_read,
    and_self]

section Texts

variable {input : Bytes} {texts : List String}
  (htexts : requests cfg ((splitLines input).takeWhile isText) = texts.map cfg.read)

include htexts

/-- What is sent and opened comes first among what the texts ask for. -/
theorem Faithful.translates (hf : f.Faithful cfg (splitLines input) capacity done) :
    f.payload <+: texts.filterMap cfg.payload? ∧
      (done.filterMap Deed.opening?).map Prod.fst <+: texts.filterMap cfg.command? := by
  have hfirst := hf.completes.prefix_legible
  rw [htexts] at hfirst
  rw [hf.payload_eq, map_fst_openings, ← (filterMap_read cfg texts).1,
    ← (filterMap_read cfg texts).2]
  exact ⟨hfirst.filterMap _, hfirst.filterMap _⟩

/-- A pump at its end has sent and opened all that the texts ask for. -/
theorem Faithful.translates_all (hf : f.Faithful cfg (splitLines input) capacity done)
    (ho : f.pump.isOver = true) :
    f.payload = texts.filterMap cfg.payload? ∧
      (done.filterMap Deed.opening?).map Prod.fst = texts.filterMap cfg.command? := by
  obtain ⟨-, hall, -⟩ := hf.completes.of_isOver ho
  rw [htexts] at hall
  rw [hf.payload_eq, map_fst_openings, hall]
  exact filterMap_read cfg texts

end Texts

/-- **A pump whose receivers stay translates its input line by line.** With `texts` for the lines
before the first one that is not UTF-8, the buffers sent are the payloads of the texts that are no
commands, the names opened are those of the commands, and the handles sent are those of the openings
that succeed, each in the order of the lines; all of them at the end, and a first part before. What
an opening answers is left open, also from one to the next. No buffer is empty. The pump finishes if
every line is UTF-8, and is broken by the first one that is not. It waits only for buffers to be
taken, and comes to its end within two moves for each line and one more. -/
theorem lines_translated {capacity : ℕ} (hc : 0 < capacity) {kept : Bool} {cfg : InputSettings}
    {input : Bytes} {ms : List Move} {f : Feed} (hms : ∀ m ∈ ms, m.keeps = true)
    (h : (fresh capacity kept input).follow cfg ms = some f) :
    ∃ texts : List String,
      texts.map Text.utf8 = (inputLines input).takeWhile (Text.IsUtf8 ·) ∧
      f.payload <+: texts.filterMap cfg.payload? ∧
      ((fresh capacity kept input).openings cfg ms).map Prod.fst <+: texts.filterMap cfg.command? ∧
      f.handles = ((fresh capacity kept input).openings cfg ms).filterMap (fun x => x.2.toOption) ∧
      (∀ b ∈ f.payload, b ≠ []) ∧
      (f.pump.isOver = true →
        f.payload = texts.filterMap cfg.payload? ∧
          ((fresh capacity kept input).openings cfg ms).map Prod.fst =
            texts.filterMap cfg.command? ∧
          f.pump.summary.lines = texts.length ∧
          (f.pump.phase = .finished ↔ ∀ line ∈ inputLines input, Text.IsUtf8 line) ∧
          (f.pump.phase = .broken ↔ ∃ line ∈ inputLines input, ¬ Text.IsUtf8 line)) ∧
      (f.pump.isOver = false → f.link.buffers.items = [] →
        ∀ openPort, (f.step cfg (.pump openPort)).isSome = true) ∧
      ms.countP Move.isPump ≤ 2 * (inputLines input).length + 1 := by
  have hf := (fresh_faithful cfg capacity kept input).follow hms h
  rw [List.nil_append] at hf
  obtain ⟨texts, hutf8, hlength, htexts⟩ := exists_texts cfg input
  obtain ⟨hpayload, hnames⟩ := hf.translates htexts
  refine ⟨texts, hutf8, hpayload, hnames, hf.handles_eq, ?_, fun ho => ?_, hf.step_isSome hc, ?_⟩
  · intro b hb
    obtain ⟨text, -, htext⟩ := List.mem_filterMap.1 (hpayload.subset hb)
    exact InputSettings.payload_ne_nil htext
  · obtain ⟨hall, hnamed⟩ := hf.translates_all htexts ho
    exact ⟨hall, hnamed, (hf.completes.of_isOver ho).1.trans hlength.symm,
      hf.completes.phase_iff ho⟩
  -- the moves made are no more than those that were left at the start
  · have hmoves := countP_isPump_le h
    have hstart : (fresh capacity kept input).pump.movesLeft =
        2 * (inputLines input).length + 1 := by
      simp [fresh, start, Pump.movesLeft, Pump.ofInput, inputLines, splitLines_eq_pieces]
    omega

/-- No name opens a port. -/
def openNone (name : String) : Except PortError Handle := .error (.notFound name)

/-- Hex lines and commands, one line that is neither, an empty one, and one that is not UTF-8. -/
def mixedLines : Bytes :=
  Text.utf8 "61 62\r\r\n:port  P \nzz\n\n:port Q\n0x63\n" ++ [255, 10] ++ Text.utf8 "64"

/-- The moves after which the pump is at the line that is not UTF-8. -/
def untilBroken : List Move :=
  [.pump openAny, .pump openAny, .pump openAny, .takeBuffer, .pump openAny, .pump openAny,
    .takeHandle, .pump openAny, .pump openAny, .pump openNone, .pump openNone, .pump openNone,
    .pump openNone]

theorem lines_translated_mixed :
    ∃ (f : Feed) (texts : List String),
      (fresh 1 false mixedLines).follow { format := .hex } untilBroken = some f ∧
      (∀ m ∈ untilBroken, m.keeps = true) ∧ f.pump.isOver = true ∧ f.pump.phase = .broken ∧
      texts.map Text.utf8 = (inputLines mixedLines).takeWhile (Text.IsUtf8 ·) ∧
      f.payload = [[97, 98], [99]] ∧
      f.payload = texts.filterMap ({ format := .hex } : InputSettings).payload? ∧
      ((fresh 1 false mixedLines).openings { format := .hex } untilBroken).map Prod.fst =
        ["P", "Q"] ∧
      f.handles = [⟨0, "P"⟩] ∧ (∃ line ∈ inputLines mixedLines, ¬ Text.IsUtf8 line) := by
  have hkeeps : ∀ m ∈ untilBroken, m.keeps = true := by decide
  have hresult : ((fresh 1 false mixedLines).follow { format := .hex } untilBroken).map
      (fun f => (f.pump.phase, f.payload, f.handles)) =
        some (.broken, [[97, 98], [99]], [⟨0, "P"⟩]) := by
    decide +kernel
  have hnames : ((fresh 1 false mixedLines).openings { format := .hex } untilBroken).map Prod.fst =
      ["P", "Q"] := by
    decide +kernel
  obtain ⟨f, hf, hvalues⟩ := Option.map_eq_some_iff.1 hresult
  obtain ⟨hphase, hvalues⟩ := Prod.mk.inj hvalues
  obtain ⟨hpayload, hhandles⟩ := Prod.mk.inj hvalues
  have hover : f.pump.isOver = true := by simp [Pump.isOver, hphase]
  obtain ⟨texts, hutf8, -, -, -, -, hend, -⟩ := lines_translated Nat.one_pos hkeeps hf
  obtain ⟨hall, -, -, -, hbroken⟩ := hend hover
  exact ⟨f, texts, hf, hkeeps, hover, hphase, hutf8, hpayload, hall, hnames, hhandles,
    hbroken.1 hphase⟩

end Feed

end SerialRelay

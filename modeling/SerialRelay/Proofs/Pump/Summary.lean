import SerialRelay.Proofs.Pump.Translation

/-!
# The summary of a pump

A pump counts the lines that it reads and what it does about each. Its receivers may close or go
away at any time, so it may finish with one thing undone: a buffer that could not be sent, or a
handle that nobody takes. The counts balance whichever way it finishes.

* `Pump.Exit`, `Pump.exit?`: the ways to finish, and the move that does.
* `Pump.Counts`: the counters of a summary are the numbers of what was done.
* `Feed.Balanced`: what was done, sent and counted, and what was left undone by a pump that has
  finished.
* `Feed.FinishedBy`: why a pump has finished, said of the texts that it has read.
* `Feed.summary_balances`: the summary of a pump that has finished, whatever its receivers did.
-/

namespace SerialRelay

/-- **How a pump finishes.** -/
inductive Pump.Exit where
  | inputEnd
  /-- A buffer could not be sent. -/
  | bufferRefused (b : Bytes)
  /-- A port was opened, and nobody takes its handle. -/
  | handleRefused (h : Handle)
  deriving DecidableEq, Repr

namespace Pump.Exit

/-- The buffer that could not be sent. -/
def buffer? : Exit → Option Bytes
  | bufferRefused b => some b
  | _ => none

/-- The handle that could not be sent. -/
def handle? : Exit → Option Handle
  | handleRefused h => some h
  | _ => none

end Pump.Exit

namespace InputSettings

/-- Whether a line is neither a command nor decoded to a payload, though there is no fault in it. -/
def isVoid (cfg : InputSettings) (text : String) : Bool :=
  match cfg.command? text, cfg.format.decode cfg.terminator text with
  | none, .ok none => true
  | _, _ => false

end InputSettings

namespace Request

def isNothing : Request → Bool
  | nothing => true
  | _ => false

theorem isNothing_read (cfg : InputSettings) (text : String) :
    (cfg.read text).isNothing = cfg.isVoid text := by
  rw [cfg.read_eq, InputSettings.isVoid]
  cases cfg.command? text with
  | some name => rfl
  | none =>
    simp only [InputSettings.readPayload]
    split <;> simp_all [isNothing]

end Request

/-- What is made of something that may not be there. -/
theorem filterMap_toList {α β : Type} (f : α → Option β) (o : Option α) :
    o.toList.filterMap f = (o.bind f).toList := by
  cases o with
  | none => rfl
  | some a => cases h : f a <;> simp [h]

namespace Deed

/-- What counts as rejected: a port that does not open, a line that is not decoded. -/
def isRejected : Deed → Bool
  | asked _ (.error _) => true
  | skipped _ => true
  | _ => false

/-- A buffer that is sent is the payload that was asked for. -/
theorem payload_request (d : Deed) : d.request.payload? = d.buffer? := by cases d <;> rfl

/-- Whatever is done counts once. -/
theorem length_eq_counts (done : List Deed) :
    done.length =
      (done.filterMap buffer?).length + (done.filterMap handle?).length + done.countP isRejected +
      (done.map request).countP Request.isNothing := by
  induction done with
  | nil => rfl
  | cons d done ih =>
    have hone : d.buffer?.toList.length + d.handle?.toList.length +
        (if d.isRejected then 1 else 0) +
        (if d.request.isNothing then 1 else 0) = 1 := by
      cases d with
      | sent b => rfl
      | asked name answer => cases answer <;> rfl
      | passed => rfl
      | skipped e => rfl
    have hlength : ∀ {α : Type} (f : Deed → Option α),
        ((d :: done).filterMap f).length = (f d).toList.length + (done.filterMap f).length := by
      intro α f
      rw [← List.singleton_append, List.filterMap_append, List.length_append]
      exact congrArg (List.length · + _) (filterMap_toList f (some d))
    rw [List.length_cons, ih, hlength, hlength, List.countP_cons, List.map_cons, List.countP_cons]
    omega

end Deed

namespace Pump

variable {cfg : InputSettings} {openPort : String → Except PortError Handle} {p : Pump} {l : Link}
  {m : Move} {done : List Deed}

/-- **How a pump finishes when it moves**, if it does. -/
def exit? (openPort : String → Except PortError Handle) (p : Pump) (l : Link) : Option Exit :=
  match p.phase with
  | .reading => if p.input = [] then some .inputEnd else none
  | .opening name =>
    match openPort name with
    | .ok h => if l.ports.receiving then none else some (.handleRefused h)
    | .error _ => none
  | .sending b => if l.buffers.receiving then none else some (.bufferRefused b)
  | .finished => none
  | .broken => none

/-- **The counters of a summary** are the numbers of what was done. -/
structure Counts (s : PumpSummary) (done : List Deed) : Prop where
  buffers : s.buffers = (done.filterMap Deed.buffer?).length
  portsOpened : s.portsOpened = (done.filterMap Deed.handle?).length
  rejected : s.rejected = done.countP Deed.isRejected

/-- One more thing that is done, and counted. -/
theorem Counts.concat {s s' : PumpSummary} (h : Counts s done) {d : Deed}
    (hb : s'.buffers = s.buffers + d.buffer?.toList.length)
    (hp : s'.portsOpened = s.portsOpened + d.handle?.toList.length)
    (hr : s'.rejected = s.rejected + if d.isRejected then 1 else 0) : Counts s' (done ++ [d]) where
  buffers := by
    rw [hb, h.buffers, List.filterMap_append, List.length_append]
    exact congrArg (_ + List.length ·) (filterMap_toList Deed.buffer? (some d)).symm
  portsOpened := by
    rw [hp, h.portsOpened, List.filterMap_append, List.length_append]
    exact congrArg (_ + List.length ·) (filterMap_toList Deed.handle? (some d)).symm
  rejected := by rw [hr, h.rejected, List.countP_append, List.countP_singleton]

/-- **A move counts what it does.** -/
theorem Counts.move (h : Counts p.summary done) (hm : Moves cfg openPort p l m) :
    Counts m.pump.summary (done ++ (p.deed? cfg openPort l).toList) := by
  cases hm with
  | inputEnd hp hi => simpa [deed?, hp, hi, Pump.stop] using h
  | notText hp hi ht => simpa [deed?, hp, hi, ht, Pump.stop] using h
  | @line raw rest text hp hi ht =>
    simp only [deed?, hp, hi, List.head?_cons, Option.bind_some, ht, Option.map_some]
    cases cfg.read text with
    -- what is only taken up does not count yet
    | openPort name | payload b =>
      rw [Option.toList_none, List.append_nil]
      exact ⟨h.buffers, h.portsOpened, h.rejected⟩
    | nothing => exact h.concat rfl rfl rfl
    | fault e => exact h.concat rfl rfl rfl
  | @opened name hp hd =>
    have hdeed : p.deed? cfg openPort l = some (.asked name (openPort name)) := by simp [deed?, hp]
    rw [hdeed, Option.toList_some]
    cases ho : openPort name with
    | error e => exact h.concat rfl rfl rfl
    | ok hd =>
      simp only [publish]
      split
      · exact h.concat rfl rfl rfl
      · exact h.concat rfl rfl rfl
  | refused hp hb => simpa [deed?, hp, hb, Pump.stop] using h
  | @sent b hp hb hf =>
    have hdeed : p.deed? cfg openPort l = some (.sent b) := by simp [deed?, hp, hb]
    rw [hdeed, Option.toList_some]
    exact h.concat rfl rfl rfl

/-- **Why a pump finishes**: all lines are read, or a receiver has gone. A handle is refused when
its port has just been opened. -/
def StopsFor (p : Pump) (l : Link) (done : List Deed) : Exit → Prop
  | .inputEnd => p.input = []
  | .bufferRefused _ => l.buffers.receiving = false
  | .handleRefused h => l.ports.receiving = false ∧
    ∃ name, done.getLast? = some (.asked name (.ok h))

/-- A handle that is obtained is sent, or else it is refused. -/
theorem handle_exit (cfg : InputSettings) (openPort : String → Except PortError Handle) (p : Pump)
    (l : Link) :
    (p.exit? openPort l).bind Exit.handle? =
      if l.ports.receiving then none else (p.deed? cfg openPort l).bind Deed.handle? := by
  cases hp : p.phase with
  | reading =>
    have hdeed : (p.deed? cfg openPort l).bind Deed.handle? = none := by
      rw [deed?, hp]
      rcases (p.input.head?.bind lineText?).map cfg.read with _ | _ | _ | _ | _ <;> rfl
    have hexit : (p.exit? openPort l).bind Exit.handle? = none := by
      rw [exit?, hp]
      by_cases hi : p.input = [] <;> simp [hi, Exit.handle?]
    rw [hdeed, hexit, ite_self]
  | opening name =>
    cases ho : openPort name <;> cases hr : l.ports.receiving <;>
      simp [exit?, deed?, hp, ho, hr, Exit.handle?, Deed.handle?, Deed.opening?, Except.toOption]
  | sending b => cases hr : l.buffers.receiving <;>
    simp [exit?, deed?, hp, hr, Exit.handle?, Deed.handle?, Deed.opening?]
  | finished => simp [exit?, deed?, hp]
  | broken => simp [exit?, deed?, hp]

/-- **A pump that finishes** has done what the lines read ask for, but for a buffer that is
refused. -/
theorem exit_of_moves (h : p.HasDone cfg lines done) (hm : Moves cfg openPort p l m) :
    (m.pump.phase ≠ .finished ∧ p.exit? openPort l = none) ∨
      m.pump.phase = .finished ∧ ∃ exit, p.exit? openPort l = some exit ∧
        requests cfg (lines.take m.pump.summary.lines) =
          (done ++ (p.deed? cfg openPort l).toList).map Deed.request ++
            exit.buffer?.toList.map .payload ∧
        m.pump.StopsFor m.link (done ++ (p.deed? cfg openPort l).toList) exit := by
  have hread := h.going (isOver_of_moves hm)
  cases hm with
  | inputEnd hp hi =>
    rw [pending, hp] at hread
    refine .inr ⟨rfl, .inputEnd, by simp [exit?, hp, hi], ?_, hi⟩
    simpa [Pump.stop, deed?, hp, hi, Exit.buffer?] using hread
  | notText hp hi ht => exact .inl ⟨by simp [Pump.stop], by simp [exit?, hp, hi]⟩
  | @line raw rest text hp hi ht =>
    have hgo := (takeUp_keeps hp rest l (cfg.read text)).2.2
    refine .inl ⟨fun hf => ?_, by simp [exit?, hp, hi]⟩
    simp [isOver, hf] at hgo
  | @opened name hp hd =>
    rw [pending, hp] at hread
    cases ho : openPort name with
    | error e => exact .inl ⟨by simp [publish, countRejected], by simp [exit?, hp, ho]⟩
    | ok hd =>
      cases hr : l.ports.receiving with
      | true => exact .inl ⟨by simp [publish, hr, countOpened], by simp [exit?, hp, ho, hr]⟩
      | false =>
        have hdeed : p.deed? cfg openPort l = some (.asked name (.ok hd)) := by simp [deed?, hp, ho]
        refine .inr ⟨by simp [publish, hr, Pump.stop],
          .handleRefused hd, by simp [exit?, hp, ho, hr], ?_, ?_, name, ?_⟩
        · simpa [publish, hr, Pump.stop, countOpened, hdeed, Exit.buffer?, Deed.request] using hread
        · simp [publish, hr, Pump.stop]
        · simp [hdeed]
  | @refused b hp hb =>
    rw [pending, hp] at hread
    refine .inr ⟨rfl, .bufferRefused b, by simp [exit?, hp, hb], ?_, hb⟩
    simpa [Pump.stop, deed?, hp, hb, Exit.buffer?] using hread
  | @sent b hp hb hf => exact .inl ⟨by simp [countBuffer], by simp [exit?, hp, hb]⟩

end Pump

namespace Feed

variable {cfg : InputSettings} {input : Bytes} {lines : List Bytes} {f f' : Feed} {done : List Deed}
  {ends : List Pump.Exit}

/-- How the pump finishes in a move, if it does. -/
def exit? (f : Feed) : Move → Option Pump.Exit
  | .pump openPort => f.pump.exit? openPort f.link
  | _ => none

/-- **How the pump finishes along some moves**, as far as they can be made. -/
def exits (cfg : InputSettings) (ms : List Move) (f : Feed) : List Pump.Exit :=
  (trail (step cfg) ms f).filterMap fun q => q.1.exit? q.2

/-- **The books of a feed.** What was done is sent and counted, and a pump that has finished has
left nothing undone but what its exit says. -/
structure Balanced (cfg : InputSettings) (lines : List Bytes) (f : Feed) (done : List Deed)
    (ends : List Pump.Exit) : Prop where
  hasDone : f.pump.HasDone cfg lines done
  counts : Pump.Counts f.pump.summary done
  payload : f.payload = done.filterMap Deed.buffer?
  handles : f.handles ++ ends.filterMap Pump.Exit.handle? = done.filterMap Deed.handle?
  unfinished : f.pump.phase ≠ .finished → ends = []
  finished : f.pump.phase = .finished → ∃ exit, ends = [exit] ∧
    requests cfg (lines.take f.pump.summary.lines) =
      done.map Deed.request ++ exit.buffer?.toList.map .payload ∧
    f.pump.StopsFor f.link done exit

/-- **Why the pump finished**, said of its texts and openings: all lines are read, or what the last
text brings was refused, by a receiver that has gone. -/
def FinishedBy (cfg : InputSettings) (f : Feed) (input : Bytes) (texts : List String)
    (openings : List (String × Except PortError Handle)) : Pump.Exit → Prop
  | .inputEnd => f.pump.summary.lines = (inputLines input).length
  | .bufferRefused b => f.link.buffers.receiving = false ∧ texts.getLast?.bind cfg.payload? = some b
  | .handleRefused h => f.link.ports.receiving = false ∧
      ∃ name, texts.getLast?.bind cfg.command? = some name ∧ openings.getLast? = some (name, .ok h)

/-- Nobody who has gone comes back. -/
theorem receiving_of_step {m : Move} (h : f.step cfg m = some f') :
    (f.link.buffers.receiving = false → f'.link.buffers.receiving = false) ∧
      (f.link.ports.receiving = false → f'.link.ports.receiving = false) := by
  cases m with
  | pump openPort =>
    obtain ⟨m, hstep, rfl⟩ := Option.map_eq_some_iff.1 h
    obtain ⟨hb, hp, -⟩ := (Pump.handover_of_moves (Pump.moves_of_step hstep)).receiving
    exact ⟨hb.trans, hp.trans⟩
  | takeBuffer =>
    obtain ⟨b, -, rfl⟩ := Option.map_eq_some_iff.1 h
    exact ⟨id, id⟩
  | takeHandle =>
    obtain ⟨hd, -, rfl⟩ := Option.map_eq_some_iff.1 h
    exact ⟨id, id⟩
  | closeBuffers =>
    cases h
    exact ⟨fun hb => by simp [setBuffers, Channel.close, hb], id⟩
  | closeHandles =>
    cases h
    exact ⟨id, fun hp => by simp [setPorts, Channel.close, hp]⟩
  | dropBuffers =>
    cases h
    exact ⟨fun _ => rfl, id⟩
  | dropHandles =>
    cases h
    exact ⟨id, fun _ => rfl⟩

/-- What a move of the pump adds to the record. -/
theorem sent_of_moves {openPort : String → Except PortError Handle} {m : Pump.Move}
    (hm : Pump.Moves cfg openPort f.pump f.link m) :
    (f.advance m).payload =
        f.payload ++ ((f.pump.deed? cfg openPort f.link).bind Deed.buffer?).toList ∧
      (f.advance m).handles = f.handles ++
        if f.link.ports.receiving then
          ((f.pump.deed? cfg openPort f.link).bind Deed.handle?).toList else [] := by
  have harrivals : f.link.arrivals m.link =
      (if f.link.ports.receiving then
        ((f.pump.deed? cfg openPort f.link).bind Deed.handle?).toList else []).map
        .handle ++ ((f.pump.deed? cfg openPort f.link).bind Deed.buffer?).toList.map .buffer := by
    rw [Link.arrivals, Pump.ports_of_moves hm, Pump.buffers_of_moves hm, List.drop_left,
      List.drop_left]
  simp only [payload, handles, advance, List.filterMap_append, harrivals, List.map_append,
    List.filterMap_map, Function.comp_def, Delivery.buffer?, Delivery.handle?, List.filterMap_none,
    List.filterMap_some, List.nil_append, List.append_nil, and_self]

/-- **A move of the pump keeps the books.** -/
theorem Balanced.advance {openPort : String → Except PortError Handle} {m : Pump.Move}
    (hf : f.Balanced cfg lines done ends) (hm : Pump.Moves cfg openPort f.pump f.link m) :
    (f.advance m).Balanced cfg lines (done ++ (f.pump.deed? cfg openPort f.link).toList)
      (ends ++ (f.pump.exit? openPort f.link).toList) := by
  have hgo : f.pump.phase ≠ .finished := fun hp => by
    have hover := Pump.isOver_of_moves hm
    simp [Pump.isOver, hp] at hover
  obtain rfl := hf.unfinished hgo
  obtain ⟨hpayload, hhandles⟩ := sent_of_moves hm
  have hexit := Pump.handle_exit cfg openPort f.pump f.link
  have hcases := Pump.exit_of_moves hf.hasDone hm
  refine ⟨hf.hasDone.move hm, hf.counts.move hm, ?_, ?_, fun hp => ?_, fun hp => ?_⟩
  · rw [hpayload, hf.payload, List.filterMap_append, filterMap_toList]
  · -- a handle that is obtained is sent or refused
    have hbooks := hf.handles
    rw [List.filterMap_nil, List.append_nil] at hbooks
    rw [hhandles, hbooks, List.nil_append, filterMap_toList, hexit, List.filterMap_append,
      filterMap_toList, List.append_assoc]
    cases f.link.ports.receiving <;> simp
  · rcases hcases with ⟨-, hnone⟩ | ⟨hfinished, -⟩
    · rw [hnone, Option.toList_none, List.append_nil]
    · exact absurd hfinished hp
  · rcases hcases with ⟨hopen, -⟩ | ⟨-, exit, hsome, hread, hend⟩
    · exact absurd hp hopen
    · exact ⟨exit, by rw [hsome, Option.toList_some, List.nil_append], hread, hend⟩

/-- Every move keeps the books. -/
theorem Balanced.step {m : Move} (hf : f.Balanced cfg lines done ends)
    (h : f.step cfg m = some f') :
    f'.Balanced cfg lines (done ++ (f.deed? cfg m).toList) (ends ++ (f.exit? m).toList) := by
  cases hm : m.isPump with
  | true =>
    cases m with
    | pump openPort =>
      obtain ⟨m, hstep, rfl⟩ := Option.map_eq_some_iff.1 h
      exact hf.advance (Pump.moves_of_step hstep)
    | _ => cases hm
  | false =>
    obtain ⟨hpump, hsent⟩ := pump_of_step h hm
    have hnone : f.deed? cfg m = none ∧ f.exit? m = none := by
      cases m with
      | pump openPort => cases hm
      | _ => exact ⟨rfl, rfl⟩
    have hpayload : f'.payload = f.payload := by simp only [Feed.payload, hsent]
    have hhandles : f'.handles = f.handles := by simp only [Feed.handles, hsent]
    rw [hnone.1, hnone.2, Option.toList_none, Option.toList_none, List.append_nil, List.append_nil]
    refine ⟨hpump ▸ hf.hasDone, hpump ▸ hf.counts, hpayload.trans hf.payload, hhandles ▸ hf.handles,
      hpump ▸ hf.unfinished, ?_⟩
    rw [hpump]
    intro hp
    obtain ⟨exit, hends, hread, hstops⟩ := hf.finished hp
    refine ⟨exit, hends, hread, ?_⟩
    obtain ⟨hbuffers, hports⟩ := receiving_of_step h
    cases exit with
    | inputEnd => exact hstops
    | bufferRefused b => exact hbuffers hstops
    | handleRefused hd => exact ⟨hports hstops.1, hstops.2⟩

theorem Balanced.follow {ms : List Move} (hf : f.Balanced cfg lines done ends)
    (h : f.follow cfg ms = some f') :
    f'.Balanced cfg lines (done ++ f.deeds cfg ms) (ends ++ f.exits cfg ms) := by
  refine foldlM_trail (P := fun q past =>
    q.Balanced cfg lines (done ++ past.filterMap fun p => p.1.deed? cfg p.2)
      (ends ++ past.filterMap fun p => p.1.exit? p.2)) ?_ ?_ h
  · intro q q' past m _ hq hstep
    rw [filterMap_concat, filterMap_concat, ← List.append_assoc, ← List.append_assoc]
    exact hq.step hstep
  · rwa [List.filterMap_nil, List.filterMap_nil, List.append_nil, List.append_nil]

theorem fresh_balanced (cfg : InputSettings) (capacity : ℕ) (kept : Bool) (input : Bytes) :
    (fresh capacity kept input).Balanced cfg (splitLines input) [] [] where
  hasDone := Pump.ofInput_hasDone cfg input
  counts := ⟨rfl, rfl, rfl⟩
  payload := rfl
  handles := rfl
  unfinished _ := rfl
  finished := nofun

section Texts

variable {texts : List String} {exit : Pump.Exit}
  (hread : texts.map cfg.read = done.map Deed.request ++ exit.buffer?.toList.map .payload)

include hread

/-- Each text counts once. -/
theorem length_eq_of_reads :
    texts.length = (done.filterMap Deed.buffer?).length + (done.filterMap Deed.handle?).length +
    done.countP Deed.isRejected + texts.countP cfg.isVoid + exit.buffer?.toList.length := by
  have hvoid : texts.countP cfg.isVoid = (done.map Deed.request).countP Request.isNothing := by
    have hsame := congrArg (List.countP Request.isNothing) hread
    have hnothing : Request.isNothing ∘ cfg.read = cfg.isVoid :=
      funext fun text => Request.isNothing_read cfg text
    have hrefused : (exit.buffer?.toList.map Request.payload).countP Request.isNothing = 0 := by
      cases exit.buffer? <;> rfl
    rwa [List.countP_append, List.countP_map, hnothing, hrefused, Nat.add_zero] at hsame
  have hlength := congrArg List.length hread
  have hcounts := Deed.length_eq_counts done
  simp only [List.length_map, List.length_append] at hlength
  omega

/-- What was sent, and what was refused, is what the texts ask for. -/
theorem payloads_of_reads :
    done.filterMap Deed.buffer? ++ exit.buffer?.toList = texts.filterMap cfg.payload? := by
  have hrefused : (exit.buffer?.toList.map Request.payload).filterMap Request.payload? =
      exit.buffer?.toList := by
    cases exit.buffer? <;> rfl
  rw [← (filterMap_read cfg texts).1, hread, List.filterMap_append, hrefused, List.filterMap_map]
  exact congrArg (· ++ _) (List.filterMap_congr fun d _ => d.payload_request.symm)

/-- The names that were opened are those of the texts. -/
theorem names_of_reads :
    (done.filterMap Deed.opening?).map Prod.fst = texts.filterMap cfg.command? := by
  have hrefused : (exit.buffer?.toList.map Request.payload).filterMap Request.name? = [] := by
    cases exit.buffer? <;> rfl
  rw [← (filterMap_read cfg texts).2, hread, map_fst_openings, List.filterMap_append, hrefused,
    List.append_nil]

/-- **What is refused comes from the last text.** -/
theorem Balanced.finishedBy (hf : f.Balanced cfg (splitLines input) done ends)
    (hstops : f.pump.StopsFor f.link done exit) :
    f.FinishedBy cfg input texts (done.filterMap Deed.opening?) exit := by
  have hlast := congrArg List.getLast? hread
  rw [List.getLast?_map] at hlast
  cases exit with
  | inputEnd =>
    have hnone : (splitLines input).drop f.pump.summary.lines = [] :=
      hf.hasDone.input.symm.trans hstops
    have hall := List.drop_eq_nil_iff.1 hnone
    have hwithin := hf.hasDone.within
    simp only [FinishedBy, inputLines, ← splitLines_eq_pieces, List.length_map]
    omega
  | bufferRefused b =>
    refine ⟨hstops, ?_⟩
    have hrequest : texts.getLast?.map cfg.read = some (.payload b) := by
      simpa [Pump.Exit.buffer?] using hlast
    obtain ⟨text, htext, hb⟩ := Option.map_eq_some_iff.1 hrequest
    rw [htext, Option.bind_some, ← Request.payload_read, hb]
    rfl
  | handleRefused hd =>
    obtain ⟨hclosed, name, hasked⟩ := hstops
    refine ⟨hclosed, name, ?_, ?_⟩
    · have hrequest : texts.getLast?.map cfg.read = some (.openPort name) := by
        simpa [Pump.Exit.buffer?, hasked, Deed.request] using hlast
      obtain ⟨text, htext, hname⟩ := Option.map_eq_some_iff.1 hrequest
      rw [htext, Option.bind_some, ← Request.name_read, hname]
      rfl
    · obtain ⟨before, hbefore⟩ := List.getLast?_eq_some_iff.1 hasked
      rw [hbefore, List.filterMap_append]
      exact List.getLast?_concat

end Texts

/-- **The summary of a pump balances**, whatever its receivers did and however it finishes. With
`texts` for the lines read, each of them counts once: as a buffer, a port, a rejection, a line with
nothing to send, or the one whose buffer was refused. Buffers are counted as they are sent, ports as
they are opened, so with one more port than handles if the last handle was refused. All that was
sent and opened comes from these lines, in their order; if something was refused then from the last
of them, and the pump goes no further. -/
theorem summary_balances {capacity : ℕ} {kept : Bool} {cfg : InputSettings} {input : Bytes}
    {ms : List Move} {f : Feed} (h : (fresh capacity kept input).follow cfg ms = some f)
    (hf : f.pump.phase = .finished) :
    ∃ (texts : List String) (exit : Pump.Exit),
      texts.map Text.utf8 = (inputLines input).take f.pump.summary.lines ∧
      texts.length = f.pump.summary.lines ∧
      (fresh capacity kept input).exits cfg ms = [exit] ∧
      f.FinishedBy cfg input texts ((fresh capacity kept input).openings cfg ms) exit ∧
      f.pump.summary.lines =
        f.pump.summary.buffers + f.pump.summary.portsOpened + f.pump.summary.rejected +
        texts.countP cfg.isVoid + exit.buffer?.toList.length ∧
      f.pump.summary.buffers = f.payload.length ∧
      f.pump.summary.portsOpened =
        (((fresh capacity kept input).openings cfg ms).filterMap fun x => x.2.toOption).length ∧
      f.pump.summary.portsOpened = f.handles.length + exit.handle?.toList.length ∧
      f.payload ++ exit.buffer?.toList = texts.filterMap cfg.payload? ∧
      ((fresh capacity kept input).openings cfg ms).map Prod.fst = texts.filterMap cfg.command? ∧
      f.handles ++ exit.handle?.toList =
        ((fresh capacity kept input).openings cfg ms).filterMap (fun x => x.2.toOption) ∧
      ∀ openPort, f.step cfg (.pump openPort) = none := by
  have hbooks := (fresh_balanced cfg capacity kept input).follow h
  rw [List.nil_append, List.nil_append] at hbooks
  obtain ⟨exit, hends, hdone, hstops⟩ := hbooks.finished hf
  obtain ⟨texts, hutf8, htexts⟩ := exists_texts_of_isText cfg hbooks.hasDone.text
  have hread := htexts.symm.trans hdone
  have hlength : texts.length = f.pump.summary.lines := by
    have hsame := congrArg List.length hutf8
    rwa [List.length_map, List.length_map, List.length_take_of_le hbooks.hasDone.within] at hsame
  -- the handles that were obtained, in the words of the openings
  have hobtained : ((fresh capacity kept input).deeds cfg ms).filterMap Deed.handle? =
      ((fresh capacity kept input).openings cfg ms).filterMap fun x => x.2.toOption := by
    rw [openings, List.filterMap_filterMap]
    rfl
  have hhandles : f.handles ++ exit.handle?.toList =
      ((fresh capacity kept input).deeds cfg ms).filterMap Deed.handle? := by
    rw [← hbooks.handles, hends]
    exact congrArg (f.handles ++ ·) (filterMap_toList Pump.Exit.handle? (some exit)).symm
  refine ⟨texts, exit, ?_, hlength, hends, hbooks.finishedBy hread hstops, ?_, ?_, ?_, ?_, ?_,
    names_of_reads hread, hhandles.trans hobtained, fun openPort => ?_⟩
  · rw [hutf8, inputLines, ← splitLines_eq_pieces, List.map_take]
  · rw [hbooks.counts.buffers, hbooks.counts.portsOpened, hbooks.counts.rejected, ← hlength]
    exact length_eq_of_reads hread
  · rw [hbooks.counts.buffers, hbooks.payload]
  · rw [hbooks.counts.portsOpened, hobtained]
  · rw [hbooks.counts.portsOpened, ← hhandles, List.length_append]
  · rw [hbooks.payload]
    exact payloads_of_reads hread
  · rw [step, Pump.step, hf]
    rfl

/-- A payload, an empty line, an opening and two more payloads. -/
def fiveLines : Bytes := Text.utf8 "a\n\n:port P\nb\nc\n"

/-- The buffers' receiver closes while the pump waits for the queue to drain. -/
def untilBufferRefused : List Move :=
  [.pump openAny, .pump openAny, .pump openAny, .pump openAny, .closeBuffers, .pump openAny,
    .pump openAny, .pump openAny]

/-- The handles' receiver goes away while the pump waits for the queue to drain. -/
def untilHandleRefused : List Move :=
  [.pump openAny, .pump openAny, .pump openAny, .pump openAny, .dropHandles, .takeBuffer,
    .pump openAny]

theorem summary_balances_refused :
    ∃ (f g : Feed) (texts : List String),
      (fresh 1 false fiveLines).follow {} untilBufferRefused = some f ∧ f.pump.phase = .finished ∧
      f.pump.summary = ⟨4, 1, 1, 0⟩ ∧ texts.map Text.utf8 = (inputLines fiveLines).take 4 ∧
      4 = 1 + 1 + 0 + texts.countP ({} : InputSettings).isVoid + 1 ∧ f.handles.length = 1 ∧
      (fresh 1 false fiveLines).follow {} untilHandleRefused = some g ∧ g.pump.phase = .finished ∧
      g.pump.summary = ⟨3, 1, 1, 0⟩ ∧ g.handles.length = 0 := by
  have hbuffer : ((fresh 1 false fiveLines).follow {} untilBufferRefused).map
      (fun f => (f.pump.phase, f.pump.summary)) = some (.finished, ⟨4, 1, 1, 0⟩) := by
        decide +kernel
  have hbufferExit : (fresh 1 false fiveLines).exits {} untilBufferRefused =
      [.bufferRefused [98, 10]] := by
    decide +kernel
  have hhandle : ((fresh 1 false fiveLines).follow {} untilHandleRefused).map
      (fun f => (f.pump.phase, f.pump.summary)) = some (.finished, ⟨3, 1, 1, 0⟩) := by
        decide +kernel
  have hhandleExit : (fresh 1 false fiveLines).exits {} untilHandleRefused =
      [.handleRefused ⟨0, "P"⟩] := by
    decide +kernel
  obtain ⟨f, hf, hvalues⟩ := Option.map_eq_some_iff.1 hbuffer
  obtain ⟨hphase, hsummary⟩ := Prod.mk.inj hvalues
  obtain ⟨texts, exit, hutf8, -, hexit, -, hlines, -, -, hports, -⟩ := summary_balances hf hphase
  obtain rfl := List.singleton_inj.1 (hexit.symm.trans hbufferExit)
  obtain ⟨g, hg, hvalues⟩ := Option.map_eq_some_iff.1 hhandle
  obtain ⟨hgphase, hgsummary⟩ := Prod.mk.inj hvalues
  obtain ⟨-, exit, -, -, hexit, -, -, -, -, hgports, -⟩ := summary_balances hg hgphase
  obtain rfl := List.singleton_inj.1 (hexit.symm.trans hhandleExit)
  rw [hsummary] at hutf8 hlines hports
  rw [hgsummary] at hgports
  simp only [Pump.Exit.handle?, Option.toList_none, Option.toList_some, List.length_nil,
    List.length_singleton] at hports hgports
  exact ⟨f, g, texts, hf, hphase, hsummary, hutf8, hlines, by omega, hg, hgphase,
    hgsummary, by omega⟩

end Feed

end SerialRelay

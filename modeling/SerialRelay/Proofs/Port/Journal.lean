import Mathlib.Data.List.DropRight
import SerialRelay.Proofs.Port.Chunks
import SerialRelay.Writer.Basic

/-!
# The books of a simulated port

Whatever is asked of a simulated port, it comes down to offers, flushes and adjustments, one after
the other. Each of these is entered in a journal, with its answer, and the state of the port can be
read off there: the log holds what was taken since it was last cleared, the flushes that succeeded
are counted, and what is left of a limit is what the answers in order since then leave of it.

* `SimPort.Request`, `SimPort.perform`, `SimPort.serve`: what is asked of a port, and what that
  enters.
* `SimPort.serveAll`: requests through handles, some of which are clones.
* `SimPort.Step`, `SimPort.Leads`: one entry, and a journal of them.
* `SimPort.Step.log`, `SimPort.Step.flushes`, `SimPort.Step.budget`: what one entry does to the
  books.
* `SimPort.serveAll_keeps_books`: the books of each port after any requests.
-/

namespace SerialRelay

namespace SimPort

/-- **What is asked of a simulated port.** -/
inductive Request where
  | offer (data : Bytes)
  /-- A complete write. -/
  | write (data : Bytes)
  | flush
  | adjust (a : Adjustment)
  deriving DecidableEq, Repr

/-- What is entered in the journal of a port: a call with its answer, or an adjustment. -/
inductive Entry where
  | called (c : PortCall)
  | adjusted (a : Adjustment)
  deriving DecidableEq, Repr

namespace Entry

/-- The octets that an offer leaves in the log, if it takes any. -/
def piece? : Entry → Option Bytes
  | called (.offered data (.took (n + 1))) => some (data.take (n + 1))
  | _ => none

/-- An offer that is answered in order, even if nothing is taken. -/
def isTaken : Entry → Bool
  | called (.offered _ (.took _)) => true
  | _ => false

/-- A flush that succeeds. -/
def isFlushed : Entry → Bool
  | called (.flushed .done) => true
  | _ => false

/-- A limit that is set. -/
def isLimit : Entry → Bool
  | adjusted (.limit _) => true
  | _ => false

end Entry

/-- **The entries since the log was cleared last.** -/
def sinceClear (es : List Entry) : List Entry :=
  es.rtakeWhile fun e => decide (e ≠ .adjusted .clear)

/-- **A request**: the port behind it, and its entries. -/
def perform (p : SimPort) : Request → SimPort × List Entry
  | .offer data => ((p.offer data).2, [.called (.offered data (p.offer data).1)])
  | .write data => ((patience.write p data).2, (patience.calls p data).map .called)
  | .flush => (p.flush.2, [.called (.flushed p.flush.1)])
  | .adjust a => (p.adjust a, [.adjusted a])

/-- **Requests one after the other**: the port behind them, and its journal. -/
def serve : SimPort → List Request → SimPort × List Entry
  | p, [] => (p, [])
  | p, r :: later =>
    ((serve (p.perform r).1 later).1, (p.perform r).2 ++ (serve (p.perform r).1 later).2)

/-- **One entry** and what it does to a port. -/
inductive Step : SimPort → Entry → SimPort → Prop
  | offered (p : SimPort) (data : Bytes) :
      Step p (.called (.offered data (p.offer data).1)) (p.offer data).2
  | flushed (p : SimPort) : Step p (.called (.flushed p.flush.1)) p.flush.2
  | adjusted (p : SimPort) (a : Adjustment) : Step p (.adjusted a) (p.adjust a)

/-- **A journal** that leads from a port to another. -/
inductive Leads (p : SimPort) : List Entry → SimPort → Prop
  | nil : Leads p [] p
  | concat {q r : SimPort} {es : List Entry} {e : Entry} (h : Leads p es q) (hs : Step q e r) :
      Leads p (es ++ [e]) r

variable {p q r : SimPort} {data : Bytes} {e : Entry} {es es' : List Entry}

/-! ### Requests make journals -/

theorem Step.leads (h : Step p e q) : Leads p [e] q := .concat .nil h

theorem Leads.append (h : Leads p es q) (h' : Leads q es' r) : Leads p (es ++ es') r := by
  induction h' with
  | nil => rwa [List.append_nil]
  | concat h' hs ih =>
    rw [← List.append_assoc]
    exact .concat ih hs

/-- The last entry of a journal. -/
theorem Leads.last (h : Leads p (es ++ [e]) r) : ∃ q, Leads p es q ∧ Step q e r := by
  generalize hl : es ++ [e] = l at h
  cases h with
  | nil => simp at hl
  | concat h hs =>
    obtain ⟨rfl, he⟩ := List.append_inj' hl rfl
    obtain rfl := List.singleton_inj.1 he
    exact ⟨_, h, hs⟩

/-- **A journal can be cut** anywhere. -/
theorem Leads.cut (h : Leads p (es ++ es') r) : ∃ q, Leads p es q ∧ Leads q es' r := by
  -- from its end, where a journal grows
  induction es' using List.reverseRecOn generalizing r with
  | nil => exact ⟨r, by rwa [List.append_nil] at h, .nil⟩
  | append_singleton es' e ih =>
    rw [← List.append_assoc] at h
    obtain ⟨r', h, hs⟩ := h.last
    obtain ⟨q, hq, hr⟩ := ih h
    exact ⟨q, hq, .concat hr hs⟩

theorem leads_of_passes {pending : Bytes} {log : List PortCall}
    (h : device.Passes p data log q pending) :
    Leads p (log.map .called) q := by
  induction h with
  | start => exact .nil
  | @turn p q data pending log hne hp h ih => exact (Step.offered p data).leads.append ih

theorem leads_of_finishes {log : List PortCall} {out : Outcome}
    (h : device.Finishes p data log out q) :
    Leads p (log.map .called) q := by
  cases h with
  | all h => exact leads_of_passes h
  | @last q pending log h hne hp =>
    rw [List.map_append]
    exact (leads_of_passes h).append (Step.offered q pending).leads

theorem leads_perform (p : SimPort) (r : Request) : Leads p (p.perform r).2 (p.perform r).1 := by
  cases r with
  | offer data => exact (Step.offered p data).leads
  | write data => exact leads_of_finishes (patience.finishes p data)
  | flush => exact (Step.flushed p).leads
  | adjust a => exact (Step.adjusted p a).leads

/-- **Requests make a journal.** -/
theorem leads_serve (p : SimPort) (rs : List Request) : Leads p (p.serve rs).2 (p.serve rs).1 := by
  induction rs generalizing p with
  | nil => exact .nil
  | cons r later ih => exact (leads_perform p r).append (ih _)

/-! ### What an entry does -/

/-- **What an offer does.** It fails and disarms at most a timeout, or it is answered in order: then
the port is not unplugged, the budget is not spent and one of it is used up, and what is taken goes
to the log. -/
theorem offer_cases (p : SimPort) (data : Bytes) :
    (∃ f armed, p.offer data = (.failed f, { p with timeoutArmed := armed })) ∨
      p.disconnected = false ∧ p.budget ≠ some 0 ∧ ∃ n ≤ data.length, p.offer data = (.took n,
        { p with
          log := p.log ++ (Entry.called (.offered data (.took n))).piece?.toList
          budget := p.budget.map (· - 1) }) := by
  -- an offer fails for the first of three reasons, and otherwise it is answered in order
  by_cases hd : p.disconnected = true
  · exact .inl ⟨.notOpen, p.timeoutArmed, by rw [offer, if_pos hd]⟩
  rw [Bool.not_eq_true] at hd
  by_cases ht : p.timeoutArmed = true
  · exact .inl ⟨.timeout timeoutSpan, false, by simp [offer, hd, ht]⟩
  rw [Bool.not_eq_true] at ht
  by_cases hb : p.budget = some 0
  · have ho : p.offer data = (.failed spent, p) := by simp [offer, hd, ht, hb]
    exact .inl ⟨spent, p.timeoutArmed, ho⟩
  refine .inr ⟨hd, hb, p.chunkSize data, Nat.min_le_right _ _, ?_⟩
  have hsize : (p.maxChunk.getD data.length).min data.length = p.chunkSize data := rfl
  rw [offer_of_ready hd ht hb, accept]
  simp only [hsize]
  cases p.chunkSize data <;> simp [Entry.piece?]

/-- What a flush does. -/
theorem flush_cases (p : SimPort) :
    (∃ f, p.flush = (.failed f, p)) ∨
      p.disconnected = false ∧ p.flush = (.done, { p with flushes := p.flushes + 1 }) := by
  unfold flush
  cases hd : p.disconnected with
  | true => exact .inl ⟨.notOpen, by rw [if_pos rfl]⟩
  | false =>
    cases hu : p.flushUnsupported with
    | true => exact .inl ⟨_, rfl⟩
    | false => exact .inr ⟨rfl, rfl⟩

/-- **The log** gets what is taken, and is cleared. -/
theorem Step.log (h : Step p e q) :
    q.log = if e = .adjusted .clear then [] else p.log ++ e.piece?.toList := by
  cases h with
  | offered data =>
    rcases offer_cases p data with ⟨f, armed, ho⟩ | ⟨-, -, n, -, ho⟩
    · simp [ho, Entry.piece?]
    · simp [ho]
  | flushed =>
    rcases flush_cases p with ⟨f, hf⟩ | ⟨-, hf⟩ <;> simp [hf, Entry.piece?]
  | adjusted a => cases a <;> simp [adjust, clear, Entry.piece?]

/-- What goes to the log is not empty. -/
theorem Step.piece_ne_nil (h : Step p e q) {piece : Bytes} (hp : e.piece? = some piece) :
    piece ≠ [] := by
  cases h with
  | offered data =>
    rcases offer_cases p data with ⟨f, armed, ho⟩ | ⟨-, -, n, hn, ho⟩
    · rw [ho] at hp
      cases hp
    · rw [ho] at hp
      cases n with
      | zero => cases hp
      | succ n =>
        obtain rfl := Option.some.inj hp
        rw [← List.length_pos_iff, List.length_take]
        omega
  | flushed => cases hp
  | adjusted a => cases hp

/-- **The flushes** that succeed are counted. -/
theorem Step.flushes (h : Step p e q) : q.flushes = p.flushes + if e.isFlushed then 1 else 0 := by
  cases h with
  | offered data =>
    rcases offer_cases p data with ⟨f, armed, ho⟩ | ⟨-, -, n, -, ho⟩ <;> simp [ho, Entry.isFlushed]
  | flushed =>
    rcases flush_cases p with ⟨f, hf⟩ | ⟨-, hf⟩ <;> simp [hf, Entry.isFlushed]
  | adjusted a => cases a <;> rfl

/-- **A limit** loses one with each answer in order, and nothing else but a new limit changes it. -/
theorem Step.budget (h : Step p e q) (he : e.isLimit = false) {left : ℕ}
    (hb : p.budget = some left) :
    ∃ left', q.budget = some left' ∧ left' + (if e.isTaken then 1 else 0) = left := by
  cases h with
  | offered data =>
    rcases offer_cases p data with ⟨f, armed, ho⟩ | ⟨-, hspent, n, -, ho⟩
    · exact ⟨left, by simp [ho, hb], by simp [ho, Entry.isTaken]⟩
    · have hpos : left ≠ 0 := fun h0 => hspent (h0 ▸ hb)
      refine ⟨left - 1, by simp [ho, hb], ?_⟩
      simp only [ho, Entry.isTaken, if_true]
      omega
  | flushed =>
    refine ⟨left, ?_, rfl⟩
    rcases flush_cases p with ⟨f, hf⟩ | ⟨-, hf⟩ <;> simp [hf, hb]
  | adjusted a =>
    cases a with
    | limit n => cases he
    | _ => exact ⟨left, hb, rfl⟩

/-- A port stays unplugged. -/
theorem Step.disconnected (h : Step p e q) :
    q.disconnected = true ↔ p.disconnected = true ∨ e = .adjusted .unplug := by
  cases h with
  | offered data =>
    rcases offer_cases p data with ⟨f, armed, ho⟩ | ⟨-, -, n, -, ho⟩ <;> simp [ho]
  | flushed =>
    rcases flush_cases p with ⟨f, hf⟩ | ⟨-, hf⟩ <;> simp [hf]
  | adjusted a => cases a <;> simp [adjust, clear]

/-- **An unplugged port** takes nothing and counts nothing. -/
theorem Step.of_disconnected (h : Step p e q) (hd : p.disconnected = true) :
    e.piece? = none ∧ e.isFlushed = false := by
  cases h with
  | offered data =>
    rcases offer_cases p data with ⟨f, armed, ho⟩ | ⟨hd', -⟩
    · rw [ho]
      exact ⟨rfl, rfl⟩
    · cases hd.symm.trans hd'
  | flushed =>
    rcases flush_cases p with ⟨f, hf⟩ | ⟨hd', -⟩
    · rw [hf]
      exact ⟨rfl, rfl⟩
    · cases hd.symm.trans hd'
  | adjusted a => exact ⟨rfl, rfl⟩

/-! ### What a journal says -/

theorem sinceClear_concat (es : List Entry) (e : Entry) :
    sinceClear (es ++ [e]) = if e = .adjusted .clear then [] else sinceClear es ++ [e] := by
  rw [sinceClear, List.rtakeWhile_concat]
  by_cases he : e = .adjusted .clear <;> simp [he, sinceClear]

/-- **The log is what was taken since it was cleared last.** -/
theorem Leads.log (h : Leads {} es q) : q.log = (sinceClear es).filterMap Entry.piece? := by
  induction h with
  | nil => rfl
  | @concat q r es e h hs ih =>
    rw [hs.log, sinceClear_concat, ih]
    split
    · rfl
    · rw [List.filterMap_append]
      cases hp : e.piece? <;> simp [hp]

theorem Leads.piece_ne_nil (h : Leads {} es q) : ∀ piece ∈ q.log, piece ≠ [] := by
  induction h with
  | nil => nofun
  | @concat q r es e h hs ih =>
    rw [hs.log]
    split
    · nofun
    · intro piece hmem
      rcases List.mem_append.1 hmem with hmem | hmem
      · exact ih piece hmem
      · exact hs.piece_ne_nil (Option.mem_toList.1 hmem)

/-- **The flushes that succeeded are counted.** -/
theorem Leads.flushes (h : Leads p es q) : q.flushes = p.flushes + es.countP Entry.isFlushed := by
  induction h with
  | nil => rfl
  | concat h hs ih => rw [hs.flushes, ih, List.countP_append, List.countP_singleton, Nat.add_assoc]

theorem Leads.disconnected (h : Leads p es q) :
    q.disconnected = true ↔ p.disconnected = true ∨ .adjusted .unplug ∈ es := by
  induction h with
  | nil => simp
  | @concat q r es e h hs ih =>
    rw [hs.disconnected, ih, List.mem_append, List.mem_singleton, or_assoc, eq_comm (a := e)]

/-- **The books of an unplugged port do not grow.** -/
theorem Leads.of_disconnected (h : Leads p es q) (hd : p.disconnected = true) :
    q.log <+: p.log ∧ q.flushes = p.flushes := by
  induction h with
  | nil => exact ⟨List.prefix_rfl, rfl⟩
  | @concat q r es e h hs ih =>
    obtain ⟨hlog, hflushes⟩ := ih
    obtain ⟨hpiece, hflushed⟩ := hs.of_disconnected (h.disconnected.2 (.inl hd))
    rw [hs.log, hs.flushes, hpiece, hflushed, hflushes]
    refine ⟨?_, rfl⟩
    split
    · exact List.nil_prefix
    · simpa using hlog

/-- **What is left of a limit** is what the answers in order leave of it, as long as no other is
set. -/
theorem Leads.budget (h : Leads p es q) (hes : ∀ e ∈ es, e.isLimit = false) {left : ℕ}
    (hb : p.budget = some left) :
    ∃ left', q.budget = some left' ∧ left' + es.countP Entry.isTaken = left := by
  induction h with
  | nil => exact ⟨left, hb, rfl⟩
  | @concat q r es e h hs ih =>
    obtain ⟨left', hleft', hsum⟩ := ih fun e he => hes e (List.mem_append_left _ he)
    obtain ⟨left'', hleft'', hsum'⟩ := hs.budget (hes e (by simp)) hleft'
    refine ⟨left'', hleft'', ?_⟩
    rw [List.countP_append, List.countP_singleton]
    omega

/-- What is left of the last limit in a journal. -/
theorem Leads.limited {n : ℕ} (h : Leads p (es ++ .adjusted (.limit n) :: es') r)
    (hes' : ∀ e ∈ es', e.isLimit = false) :
    ∃ left, r.budget = some left ∧ left + es'.countP Entry.isTaken = n := by
  rw [List.append_cons] at h
  obtain ⟨q, hq, hr⟩ := h.cut
  obtain ⟨q₀, -, hset⟩ := hq.last
  have hlimit : q.budget = some n := by
    cases hset
    rfl
  exact hr.budget hes' hlimit

/-! ### Clones -/

/-- **Requests through handles** on some ports. All handles of one number are clones; there is
nothing to ask beyond the ports. -/
def serveAll (ports : List SimPort) (requests : List (Handle × Request)) : List SimPort :=
  requests.foldl (fun ports r => ports.modify r.1.device fun p => (p.perform r.2).1) ports

/-- The requests for one port, whichever clone they come through. -/
def requestsFor (k : ℕ) (requests : List (Handle × Request)) : List Request :=
  (requests.filter (·.1.device = k)).map Prod.snd

/-- **Requests through handles are for each port those to it alone**, in their order. -/
theorem getElem?_serveAll (ports : List SimPort) (requests : List (Handle × Request)) (k : ℕ) :
    (serveAll ports requests)[k]? = ports[k]?.map fun p =>
      (p.serve (requestsFor k requests)).1 := by
  induction requests generalizing ports with
  | nil => simp [serveAll, requestsFor, serve]
  | cons r later ih =>
    rw [serveAll, List.foldl_cons]
    refine (ih _).trans ?_
    rw [List.getElem?_modify]
    by_cases hk : r.1.device = k
    · simp [hk, requestsFor, serve, Function.comp_def]
    · simp [hk, requestsFor]

/-- **A simulated port keeps its books**, whatever is asked of it and through whichever clones.
Nothing in its log is empty; the log is what the offers since it was last cleared have left there,
so there is an entry for each of these that took something, and what is transmitted is all of it;
the flushes that succeeded are counted. Once the port is unplugged its log is at most cleared, and
no flush is counted. From a limit to the next one no more offers are answered in order than it says,
and what is left of the last one is what they leave of it, so no other offer uses it up. -/
theorem serveAll_keeps_books {ports : List SimPort} {k : ℕ} (hk : ports[k]? = some {})
    (requests : List (Handle × Request)) :
    ∃ q es, (serveAll ports requests)[k]? = some q ∧ serve {} (requestsFor k requests) = (q, es) ∧
      (∀ piece ∈ q.log, piece ≠ []) ∧ q.log = (sinceClear es).filterMap Entry.piece? ∧
      q.log.length = (sinceClear es).countP (·.piece?.isSome) ∧
      q.transmitted = ((sinceClear es).filterMap Entry.piece?).flatten ∧
      q.flushes = es.countP Entry.isFlushed ∧
      (.adjusted .unplug ∈ es → ∀ later r, (serveAll ports (requests ++ later))[k]? = some r →
        r.log <+: q.log ∧ r.flushes = q.flushes) ∧
      ∀ front n back rest, es = front ++ .adjusted (.limit n) :: (back ++ rest) →
        (∀ e ∈ back, e.isLimit = false) → back.countP Entry.isTaken ≤ n ∧
          (rest = [] → ∃ left, q.budget = some left ∧ left + back.countP Entry.isTaken = n) := by
  have hlead := leads_serve {} (requestsFor k requests)
  have hport : (serveAll ports requests)[k]? = some (serve {} (requestsFor k requests)).1 := by
    rw [getElem?_serveAll, hk, Option.map_some]
  refine ⟨_, _, hport, rfl, hlead.piece_ne_nil, hlead.log, ?_, congrArg List.flatten hlead.log, ?_,
    fun hunplug later r hr => ?_, fun front n back rest hes hback => ?_⟩
  · rw [hlead.log, List.length_filterMap_eq_countP]
  · rw [hlead.flushes, Nat.zero_add]
  · rw [serveAll, List.foldl_append, ← serveAll, ← serveAll, getElem?_serveAll, hport,
      Option.map_some] at hr
    obtain rfl := Option.some.inj hr
    exact (leads_serve _ _).of_disconnected (hlead.disconnected.2 (.inr hunplug))
  · rw [hes] at hlead
    constructor
    · rw [← List.cons_append, ← List.append_assoc] at hlead
      obtain ⟨m, hm, -⟩ := hlead.cut
      obtain ⟨left, -, hsum⟩ := hm.limited hback
      omega
    · rintro rfl
      rw [List.append_nil] at hlead
      exact hlead.limited hback

/-- Requests through clones of one port, and one through a handle of another. -/
def busy : List (Handle × Request) :=
  let a : Handle := ⟨0, "A"⟩
  let clone : Handle := ⟨0, "A"⟩
  let b : Handle := ⟨1, "B"⟩
  [(a, .write [7]), (clone, .adjust .clear), (a, .adjust (.limit 3)),
    (clone, .adjust (.timeout true)), (a, .offer [8]), (b, .write [9]),
    (clone, .adjust (.chunk (some 2))), (a, .write [1, 2, 3]), (clone, .flush), (a, .offer []),
    (clone, .offer [4]), (a, .adjust .unplug), (clone, .flush)]

theorem serveAll_keeps_books_busy :
    ([{}, {}] : List SimPort)[0]? = some ({} : SimPort) ∧
      ∃ q es, (serveAll [{}, {}] busy)[0]? = some q ∧
      serve {} (requestsFor 0 busy) = (q, es) ∧ q.log = [[1, 2], [3]] ∧
      q.log = (sinceClear es).filterMap Entry.piece? ∧ q.flushes = es.countP Entry.isFlushed ∧
      .adjusted .unplug ∈ es ∧
      (∀ r, (serveAll [{}, {}] (busy ++ [(⟨0, "A"⟩, .write [5])]))[0]? = some r → r.log <+: q.log) ∧
      ∃ front back, es = front ++ .adjusted (.limit 3) :: (back ++ []) ∧
        (∀ e ∈ back, e.isLimit = false) ∧
        back.countP Entry.isTaken = 3 ∧ ∃ left, q.budget = some left ∧ left + 3 = 3 := by
  have hfresh : ([{}, {}] : List SimPort)[0]? = some ({} : SimPort) := rfl
  obtain ⟨q, es, hq, hes, -, hlog, -, -, hflushes, hunplug, hlimit⟩ :=
    serveAll_keeps_books hfresh busy
  have hport : q = (serve {} (requestsFor 0 busy)).1 := by rw [hes]
  have hjournal : es = (serve {} (requestsFor 0 busy)).2 := by rw [hes]
  have hmem : Entry.adjusted .unplug ∈ es := by rw [hjournal]; decide +kernel
  have hsplit : es = es.take 2 ++ .adjusted (.limit 3) :: (es.drop 3 ++ []) := by
    rw [hjournal]; decide +kernel
  have hback : ∀ e ∈ es.drop 3, e.isLimit = false := by rw [hjournal]; decide +kernel
  have hthree : (es.drop 3).countP Entry.isTaken = 3 := by rw [hjournal]; decide +kernel
  obtain ⟨-, hleft⟩ := hlimit _ _ _ _ hsplit hback
  rw [hthree] at hleft
  refine ⟨hfresh, q, es, hq, hes, ?_, hlog, hflushes, hmem, fun r hr => (hunplug hmem _ r hr).1, _,
    _, hsplit, hback, hthree, hleft rfl⟩
  rw [hport]
  decide +kernel

end SimPort

end SerialRelay

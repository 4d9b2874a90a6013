import Mathlib.Data.List.DropRight
import Mathlib.Tactic.Common
import SerialRelay.Proofs.Writer.Rounds
import SerialRelay.Proofs.Writer.Routing

/-!
# Handles that overtake buffers

A round takes a ready handle before a ready buffer, but no more than `maxPortsInRow` handles in a
row. Here the writer stands alone: in each round its sources may show anything, and its writes may
end in any way. So a source that always has another handle is covered as well as one that never has.

* `Writer.Runs`: the runs of such a writer, with the events that it has taken.
* `sinceBuffer`: the events behind the last buffer; the writer counts the handles among them.
* `Writer.looks`: the rounds that a writer makes until it starts a write or ends.
* `Writer.overtaking_bounded`: between two buffers at most `maxPortsInRow` handles are taken, and a
  buffer that stays ready is the next one behind so many handles, unless the output ends before.
-/

namespace SerialRelay

/-- What a round sees of the signal to stop and of the two sources. -/
structure View where
  stop : Bool := false
  ports : Poll Handle
  buffers : Poll Bytes
  deriving DecidableEq, Repr

theorem handlesOf_append (es later : List Event) :
    handlesOf (es ++ later) = handlesOf es ++ handlesOf later :=
  List.filterMap_append

theorem buffersOf_append (es later : List Event) :
    buffersOf (es ++ later) = buffersOf es ++ buffersOf later :=
  List.filterMap_append

def Event.isBuffer : Event → Bool
  | .buffer _ => true
  | _ => false

/-- The events behind the last buffer. -/
def sinceBuffer (es : List Event) : List Event := es.rtakeWhile fun e => !e.isBuffer

theorem sinceBuffer_concat (es : List Event) (e : Event) :
    sinceBuffer (es ++ [e]) = if e.isBuffer then [] else sinceBuffer es ++ [e] := by
  unfold sinceBuffer
  rw [List.rtakeWhile_concat]
  cases e.isBuffer <;> rfl

/-- The events behind the last buffer are the last ones, and nothing but buffers ends them. -/
theorem sinceBuffer_append {row : List Event} (es : List Event) (h : buffersOf row = []) :
    sinceBuffer (es ++ row) = sinceBuffer es ++ row := by
  induction row using List.reverseRecOn with
  | nil => rw [List.append_nil, List.append_nil]
  | append_singleton row e ih =>
    rw [buffersOf_concat, List.append_eq_nil_iff] at h
    have he : e.isBuffer = false := by
      have := h.2
      cases e <;> simp_all [buffersOf, Event.isBuffer]
    rw [← List.append_assoc, sinceBuffer_concat, he, ih h.1, List.append_assoc]
    rfl

namespace Writer

/-- The event of a round that sees this. -/
def selectFrom (w : Writer) (v : View) : Option Event := w.select v.stop v.ports v.buffers

/-- **The runs of a writer**, with the events taken. -/
inductive Runs : List Event → Writer → Prop
  | start : Runs [] {}
  | took {es : List Event} {w : Writer} {v : View} {e : Event} (hr : Runs es w)
      (hp : w.phase = .selecting)
      (he : w.selectFrom v = some e) : Runs (es ++ [e]) (w.react e).1
  | landed {es : List Event} {w : Writer} {h : Handle} {b : Bytes} (hr : Runs es w)
      (hp : w.phase = .writing h b) (x : Except PortError Unit) : Runs es (w.settle h b x).1
  | left {es : List Event} {w : Writer} (hr : Runs es w) (hp : w.phase = .failed) : Runs es w.finish

/-- **What a writer knows of its events**: the handles behind the last buffer, whether the port
source has ended, and whether there has been a handle. -/
structure Knows (w : Writer) (es : List Event) : Prop where
  inRow : w.phase ≠ .ended → w.portsInRow = (handlesOf (sinceBuffer es)).length
  bounded : (handlesOf (sinceBuffer es)).length ≤ maxPortsInRow
  portsOpen : w.portsOpen = true ↔ .portsEnded ∉ es
  fresh : w.current = none → handlesOf es = []

variable {es : List Event} {w : Writer}

theorem portsInRow_react (w : Writer) (e : Event) :
    (w.react e).1.portsInRow =
      match e with
      | .port _ => w.portsInRow + 1
      | .buffer _ | .buffersEnded => 0
      | .shutdown | .portsEnded => w.portsInRow := by
  cases e with
  | buffer b => cases hc : w.current <;> simp [react, hc]
  | portsEnded => cases hc : w.current <;> simp [react, hc]
  | shutdown | port | buffersEnded => rfl

theorem portsOpen_react (w : Writer) (e : Event) :
    (w.react e).1.portsOpen = if e = .portsEnded then false else w.portsOpen := by
  cases e with
  | buffer b => cases hc : w.current <;> simp [react, hc]
  | portsEnded => cases hc : w.current <;> simp [react, hc]
  | shutdown | port | buffersEnded => rfl

/-- A writer without a handle had none before, and has taken none. -/
theorem current_of_react {e : Event} (h : (w.react e).1.current = none) :
    w.current = none ∧ handlesOf [e] = [] := by
  cases e with
  | port hd => cases h
  | buffer b => cases hc : w.current <;> simp_all [react, handlesOf]
  | portsEnded => cases hc : w.current <;> simp_all [react, handlesOf]
  | shutdown | buffersEnded => exact ⟨h, rfl⟩

/-- The handles behind the last buffer, with one event more. -/
theorem handlesOf_sinceBuffer_concat (es : List Event) (e : Event) :
    handlesOf (sinceBuffer (es ++ [e])) =
      if e.isBuffer then [] else handlesOf (sinceBuffer es) ++ handlesOf [e] := by
  rw [sinceBuffer_concat]
  cases he : e.isBuffer with
  | true => rfl
  | false => exact handlesOf_concat _ _

theorem Knows.took {v : View} {e : Event} (hk : w.Knows es) (hp : w.phase = .selecting)
    (he : w.selectFrom v = some e) : (w.react e).1.Knows (es ++ [e]) := by
  have hrow : w.portsInRow = (handlesOf (sinceBuffer es)).length := hk.inRow (by simp [hp])
  have hsel := select_eq_some_iff.1 he
  refine ⟨?_, ?_, ?_, ?_⟩
  · intro hne
    rw [portsInRow_react, handlesOf_sinceBuffer_concat]
    cases e with
    | port h => simp [Event.isBuffer, handlesOf, hrow]
    | buffer b => simp [Event.isBuffer]
    | portsEnded => simp [Event.isBuffer, handlesOf, hrow]
    | shutdown => exact absurd rfl hne
    | buffersEnded => exact absurd rfl hne
  · -- a handle is taken only below the limit, and no other event makes the row longer
    rw [handlesOf_sinceBuffer_concat]
    have hbound := hk.bounded
    cases hsel with
    | port hs ht hq =>
      have hlt := (takesPorts_iff.1 ht).2
      simp only [Event.isBuffer, Bool.false_eq_true, if_false, List.length_append]
      have hone : ∀ h : Handle, (handlesOf [.port h]).length = 1 := fun _ => rfl
      rw [hone]
      omega
    | shutdown | portsEnded | buffersEnded => simpa [Event.isBuffer, handlesOf] using hbound
    | buffer => simp [Event.isBuffer]
  · rw [portsOpen_react, List.mem_append, List.mem_singleton, not_or]
    by_cases hended : e = .portsEnded
    · simp [hended]
    · rw [if_neg hended, hk.portsOpen]
      simp [Ne.symm hended]
  · intro hc
    obtain ⟨hbefore, hnone⟩ := current_of_react hc
    rw [handlesOf_concat, hk.fresh hbefore, hnone, List.append_nil]

/-- The end of a write leaves what a writer knows. -/
theorem Knows.landed {h : Handle} {b : Bytes} (hk : w.Knows es) (hp : w.phase = .writing h b)
    (x : Except PortError Unit) : (w.settle h b x).1.Knows es := by
  have hrow : w.portsInRow = (handlesOf (sinceBuffer es)).length := hk.inRow (by simp [hp])
  cases x with
  | ok => exact ⟨fun _ => hrow, hk.bounded, hk.portsOpen, hk.fresh⟩
  | error => exact ⟨fun _ => hrow, hk.bounded, hk.portsOpen, hk.fresh⟩

/-- **In every run the writer knows its events.** -/
theorem knows_of_runs (hr : Runs es w) : w.Knows es := by
  induction hr with
  | start => exact ⟨fun _ => rfl, Nat.zero_le _, by simp, fun _ => rfl⟩
  | took _ hp he ih => exact ih.took hp he
  | landed _ hp x ih => exact ih.landed hp x
  | left _ hp ih => exact ⟨fun h => absurd rfl h, ih.bounded, ih.portsOpen, ih.fresh⟩

/-- The first events of a run are the events of a run. -/
theorem exists_runs_of_prefix {later : List Event} (hr : Runs (es ++ later) w) :
    ∃ w', Runs es w' := by
  generalize hes : es ++ later = all at hr
  induction hr generalizing later with
  | start => exact ⟨{}, by rw [(List.append_eq_nil_iff.1 hes).1]; exact .start⟩
  | @took init w v e hr hp he ih =>
    rcases List.eq_nil_or_concat later with rfl | ⟨later, x, rfl⟩
    · rw [List.append_nil] at hes
      rw [hes]
      exact ⟨_, .took hr hp he⟩
    · rw [List.concat_eq_append, ← List.append_assoc] at hes
      exact ih (List.append_inj_left' hes rfl)
  | landed _ _ _ ih => exact ih hes
  | left _ _ ih => exact ih hes

/-- **The events of the rounds that see these views**, up to the first that starts a write or ends
the output. -/
def looks (w : Writer) : List View → List Event
  | [] => []
  | v :: vs =>
    if w.phase = .selecting then
      match w.selectFrom v with
      | none => w.looks vs
      | some e => e :: (w.react e).1.looks vs
    else []

theorem looks_cons {v : View} {e : Event} (hp : w.phase = .selecting) (he : w.selectFrom v = some e)
    (vs : List View) : w.looks (v :: vs) = e :: (w.react e).1.looks vs := by
  rw [looks, if_pos hp, he]

theorem looks_of_ended (hp : w.phase = .ended) (vs : List View) : w.looks vs = [] := by
  cases vs with
  | nil => rfl
  | cons v vs => rw [looks, if_neg (by simp [hp])]

/-- The next buffer behind no more handles than these, or the event that ends the output before
it. -/
structure TakesWithin (w : Writer) (limit : ℕ) (b : Bytes) (row : List Event) (e : Event)
    (rest : List Event) : Prop where
  noBuffer : buffersOf row = []
  handles : (handlesOf row).length ≤ limit
  last : e = .buffer b ∨
    rest = [] ∧ (e = .shutdown ∨ e = .portsEnded ∧ w.current = none ∧ handlesOf row = [])

/-- A round that takes neither this buffer nor the end leaves less to wait for. -/
theorem TakesWithin.cons {w' : Writer} {m n : ℕ} {b : Bytes} {row rest : List Event} {e e' : Event}
    (ht : w'.TakesWithin m b row e' rest) (hcur : w'.current ≠ none) (he : e.isBuffer = false)
    (hle : m + (handlesOf [e]).length ≤ n) : w.TakesWithin n b (e :: row) e' rest := by
  have hnone : buffersOf [e] = [] := by cases e <;> simp_all [buffersOf, Event.isBuffer]
  have hhandles := ht.handles
  rw [← List.singleton_append]
  refine ⟨?_, ?_, ?_⟩
  · rw [buffersOf_append, hnone, ht.noBuffer, List.append_nil]
  · rw [handlesOf_append, List.length_append]
    omega
  · rcases ht.last with hb | ⟨hrest, hs | ⟨-, hc, -⟩⟩
    · exact .inl hb
    · exact .inr ⟨hrest, .inl hs⟩
    · exact absurd hc hcur

/-- **A buffer that stays ready is taken**: each round takes a handle that the limit still allows,
learns once that the handles have ended, or takes the buffer. -/
theorem exists_takesWithin {b : Bytes} {vs : List View} (hp : w.phase = .selecting)
    (hready : ∀ v ∈ vs, v.buffers = .ready b)
    (hlen : maxPortsInRow - w.portsInRow + (if w.portsOpen then 1 else 0) < vs.length) :
    ∃ row e rest, w.looks vs = row ++ e :: rest ∧
      w.TakesWithin (maxPortsInRow - w.portsInRow) b row e rest := by
  -- induction on the rounds; what is left of the limit, and the end of the handles, pay for each of
  -- them
  induction vs generalizing w with
  | nil => exact absurd hlen (Nat.not_lt_zero _)
  | cons v vs ih =>
    have hv := hready v List.mem_cons_self
    have hvs : ∀ v ∈ vs, v.buffers = .ready b := fun v hm => hready v (List.mem_cons_of_mem _ hm)
    rw [List.length_cons] at hlen
    obtain ⟨e, he⟩ : ∃ e, w.selectFrom v = some e := by
      rw [← Option.ne_none_iff_exists']
      intro hnone
      have hpending := (select_eq_none hnone).2.2
      rw [hv] at hpending
      cases hpending
    have hlook := looks_cons hp he vs
    have hsel := select_eq_some_iff.1 he
    cases hsel with
    | shutdown hs =>
      have hrest := looks_of_ended (w := (w.react .shutdown).1) rfl vs
      exact ⟨[], .shutdown, _, hlook, rfl, Nat.zero_le _, .inr ⟨hrest, .inl rfl⟩⟩
    | buffersEnded hs hq hb =>
      rw [hv] at hb
      cases hb
    | @buffer b' hs hq hb =>
      rw [hv] at hb
      cases hb
      exact ⟨[], .buffer b, _, hlook, rfl, Nat.zero_le _, .inl rfl⟩
    | @port h hs ht hq =>
      obtain ⟨hopen, hlt⟩ := takesPorts_iff.1 ht
      have hlen' : maxPortsInRow - (w.react (.port h)).1.portsInRow +
          (if (w.react (.port h)).1.portsOpen then 1 else 0) < vs.length := by
        simp only [react, hopen, if_true] at hlen ⊢
        omega
      obtain ⟨row, e', rest, hrow, htakes⟩ := ih (w := (w.react (.port h)).1) hp hvs hlen'
      refine ⟨.port h :: row, e', rest, ?_, htakes.cons (Option.some_ne_none h) rfl ?_⟩
      · rw [hlook, hrow]
        rfl
      · have hone : (handlesOf [.port h]).length = 1 := rfl
        have hnext : (w.react (.port h)).1.portsInRow = w.portsInRow + 1 := rfl
        rw [hone, hnext]
        omega
    | portsEnded hs ht hq =>
      have hopen := (takesPorts_iff.1 ht).1
      cases hc : w.current with
      | none =>
        have hended : (w.react .portsEnded).1.phase = .ended := by simp [react, hc]
        exact ⟨[], .portsEnded, _, hlook, rfl, Nat.zero_le _,
          .inr ⟨looks_of_ended hended vs, .inr ⟨rfl, hc, rfl⟩⟩⟩
      | some h =>
        have hafter : (w.react .portsEnded).1 = { w with portsOpen := false } := by simp [react, hc]
        rw [hafter] at hlook
        have hlen' : maxPortsInRow - ({ w with portsOpen := false } : Writer).portsInRow +
            (if ({ w with portsOpen := false } : Writer).portsOpen then 1 else 0) < vs.length := by
          simp only [hopen, if_true] at hlen
          simp only [Bool.false_eq_true, if_false]
          omega
        obtain ⟨row, e', rest, hrow, htakes⟩ := ih (w := { w with portsOpen := false }) hp hvs hlen'
        refine ⟨.portsEnded :: row, e', rest, ?_, htakes.cons (by simp [hc]) rfl (Nat.le_refl _)⟩
        rw [hlook, hrow]
        rfl

/-- **At most `maxPortsInRow` handles overtake a buffer.** In every run, no more of them are taken
between two buffers, before the first or behind the last. A buffer that is ready and stays so is the
next one taken behind no more of them, unless the output ends before: by a shutdown, or because the
port source ends and has never had a handle. While fewer handles have been taken since the last
buffer, a round takes a buffer only if no handle is ready. -/
theorem overtaking_bounded (hr : Runs es w) :
    (∀ before row after, es = before ++ row ++ after → buffersOf row = [] →
      (handlesOf row).length ≤ maxPortsInRow) ∧
    (∀ b vs, w.phase = .selecting → (∀ v ∈ vs, v.buffers = .ready b) →
      maxPortsInRow + 2 ≤ vs.length →
      ∃ row e rest, w.looks vs = row ++ e :: rest ∧ buffersOf row = [] ∧
        (handlesOf row).length ≤ maxPortsInRow ∧
        (e = .buffer b ∨
          rest = [] ∧ (e = .shutdown ∨ e = .portsEnded ∧ handlesOf (es ++ row) = []))) ∧
    ∀ v b, w.phase = .selecting → w.selectFrom v = some (.buffer b) →
      (handlesOf (sinceBuffer es)).length < maxPortsInRow → .portsEnded ∉ es →
        ∀ h, v.ports ≠ .ready h := by
  have hk := knows_of_runs hr
  refine ⟨?_, ?_, ?_⟩
  · intro before row after hes hrow
    subst hes
    obtain ⟨w', hr'⟩ := exists_runs_of_prefix hr
    have hbound := (knows_of_runs hr').bounded
    rw [sinceBuffer_append before hrow, handlesOf_append, List.length_append] at hbound
    omega
  · intro b vs hp hready hlen
    have hopen : (if w.portsOpen then 1 else 0) ≤ 1 := by split <;> omega
    obtain ⟨row, e, rest, hlook, htakes⟩ := exists_takesWithin hp hready (by omega)
    refine ⟨row, e, rest, hlook, htakes.noBuffer, htakes.handles.trans (Nat.sub_le _ _), ?_⟩
    rcases htakes.last with hb | ⟨hrest, hs | ⟨he, hc, hnone⟩⟩
    · exact .inl hb
    · exact .inr ⟨hrest, .inl hs⟩
    · -- a writer without a handle has never taken one
      refine .inr ⟨hrest, .inr ⟨he, ?_⟩⟩
      rw [handlesOf_append, hk.fresh hc, hnone, List.append_nil]
  · intro v b hp he hlt hopen h hready
    have hrow : w.portsInRow = (handlesOf (sinceBuffer es)).length := hk.inRow (by simp [hp])
    have ht : w.takesPorts = true := takesPorts_iff.2 ⟨hk.portsOpen.2 hopen, by omega⟩
    cases select_eq_some_iff.1 he with
    | buffer hs hq hb =>
      rw [hq ht] at hready
      cases hready

/-- A source that always has a handle, and a buffer that waits. -/
def endless : View := { ports := .ready ⟨0, "A"⟩, buffers := .ready [120] }

/-- Sixteen handles of an endless source, then the buffer. -/
theorem overtaking_bounded_endless :
    (Runs [] {} ∧ ({} : Writer).phase = .selecting ∧
      (∀ v ∈ List.replicate 18 endless, v.buffers = .ready [120]) ∧
      maxPortsInRow + 2 ≤ (List.replicate 18 endless).length) ∧
    ({} : Writer).looks (List.replicate 18 endless) =
      List.replicate 16 (.port ⟨0, "A"⟩) ++ [.buffer [120]] ∧
    ∃ row e rest, ({} : Writer).looks (List.replicate 18 endless) = row ++ e :: rest ∧
      (handlesOf row).length ≤ maxPortsInRow ∧ e = .buffer [120] := by
  have hready : ∀ v ∈ List.replicate 18 endless, v.buffers = .ready [120] := by
    intro v hv
    rw [List.eq_of_mem_replicate hv]
    rfl
  have hlooks : ({} : Writer).looks (List.replicate 18 endless) =
      List.replicate 16 (.port ⟨0, "A"⟩) ++ [.buffer [120]] := by decide
  obtain ⟨row, e, rest, hsplit, -, hle, hlast⟩ :=
    (overtaking_bounded Runs.start).2.1 [120] (List.replicate 18 endless) rfl hready (by decide)
  refine ⟨⟨.start, rfl, hready, by decide⟩, hlooks, row, e, rest, hsplit, hle, ?_⟩
  -- neither a shutdown nor the end of the handles is among the events
  have he : e ∈ List.replicate 16 (Event.port ⟨0, "A"⟩) ++ [.buffer [120]] := by
    rw [← hlooks, hsplit]
    simp
  rcases hlast with hb | ⟨-, rfl | ⟨rfl, -⟩⟩
  · exact hb
  · exact absurd he (by decide)
  · exact absurd he (by decide)

/-- Where the port source has ended without a handle, a buffer that is ready in every round is never
taken. -/
theorem ready_buffer_not_taken_without_handle :
    Runs [] {} ∧ ({} : Writer).phase = .selecting ∧
      ∀ n,
        buffersOf (({} : Writer).looks
          (List.replicate n { ports := .ended, buffers := .ready [120, 10] })) = [] ∧
        .shutdown ∉ ({} : Writer).looks
          (List.replicate n { ports := .ended, buffers := .ready [120, 10] }) := by
  refine ⟨.start, rfl, fun n => ?_⟩
  cases n with
  | zero => exact ⟨rfl, List.not_mem_nil⟩
  | succ n =>
    have hlooks :=
      looks_cons (w := {}) (v := { ports := .ended, buffers := .ready [120, 10] }) rfl rfl
        (List.replicate n { ports := .ended, buffers := .ready [120, 10] })
    rw [looks_of_ended (w := (({} : Writer).react .portsEnded).1) rfl] at hlooks
    rw [List.replicate_succ, hlooks]
    exact ⟨rfl, by decide⟩

end Writer

end SerialRelay

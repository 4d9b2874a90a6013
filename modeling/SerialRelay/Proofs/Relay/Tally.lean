import Mathlib.Algebra.GroupWithZero.Nat
import Mathlib.Data.List.Induction
import SerialRelay.Proofs.Relay.Failure

/-!
# The counters of a writer

The counters say what the events taken and the items emitted come to, in every state that a run
reaches.

* `tally`: what events and items come to.
* `stats_react`, `stats_settle`: an event and the end of a write are counted as the tally has it.
* `Attachment.stats_eq_tally`: the counters are that tally.
* `Attachment.length_buffersOf`: between two writes every buffer taken was forwarded, dropped or has
  failed.
-/

namespace SerialRelay

/-- The buffers among items. -/
def forwardedOf (items : List Item) : List Bytes :=
  items.filterMap fun
    | .forwarded b => some b
    | .failed _ => none

/-- The events before the first handle. -/
def beforeHandles (es : List Event) : List Event :=
  es.takeWhile fun
    | .port _ => false
    | _ => true

/-- **What events and items come to.** -/
def tally (es : List Event) (items : List Item) : Stats where
  forwarded := (forwardedOf items).length
  bytes := ((forwardedOf items).map List.length).sum
  dropped := (buffersOf (beforeHandles es)).length
  attached := (handlesOf es).length
  current := (handlesOf es).getLast?.map Handle.name

theorem handlesOf_cons_eq_nil {e : Event} {es : List Event} :
    handlesOf (e :: es) = [] ↔ handlesOf [e] = [] ∧ handlesOf es = [] := by
  have hcons : handlesOf (e :: es) = handlesOf [e] ++ handlesOf es :=
    List.filterMap_append (l := [e])
  rw [hcons, List.append_eq_nil_iff]

theorem beforeHandles_cons (e : Event) (es : List Event) :
    beforeHandles (e :: es) = if handlesOf [e] = [] then e :: beforeHandles es else [] := by
  cases e <;> rfl

theorem beforeHandles_of_no_handle {es : List Event} (h : handlesOf es = []) :
    beforeHandles es = es := by
  induction es with
  | nil => rfl
  | cons e es ih =>
    obtain ⟨he, hes⟩ := handlesOf_cons_eq_nil.1 h
    rw [beforeHandles_cons, if_pos he, ih hes]

/-- As long as there is no handle, all events come before the first one. -/
theorem beforeHandles_concat (es : List Event) (e : Event) :
    beforeHandles (es ++ [e]) =
      if handlesOf es = [] then es ++ beforeHandles [e] else beforeHandles es := by
  induction es with
  | nil => rfl
  | cons e' es ih =>
    have hself := beforeHandles_cons e' es
    rw [List.cons_append, beforeHandles_cons e', ih]
    by_cases h' : handlesOf [e'] = []
    · rw [if_pos h'] at hself ⊢
      by_cases h : handlesOf es = []
      · rw [if_pos h, if_pos (handlesOf_cons_eq_nil.2 ⟨h', h⟩)]
        rfl
      · rw [if_neg h, if_neg fun hboth => h (handlesOf_cons_eq_nil.1 hboth).2, hself]
    · rw [if_neg h'] at hself ⊢
      rw [if_neg fun hboth => h' (handlesOf_cons_eq_nil.1 hboth).1, hself]

/-- The current handle of a routing is the last one taken. -/
theorem current_route (es : List Event) : (route es).current = (handlesOf es).getLast? := by
  induction es using List.reverseRecOn with
  | nil => rfl
  | append_singleton es e ih =>
    rw [route_concat, handlesOf_concat]
    cases e with
    | port h =>
      have hone : handlesOf [.port h] = [h] := rfl
      rw [hone, List.getLast?_concat]
      rfl
    | buffer b =>
      have hone : handlesOf [.buffer b] = [] := rfl
      rw [hone, List.append_nil, ← ih]
      cases hc : (route es).current <;> simp [Routing.take, hc]
    | shutdown | portsEnded | buffersEnded =>
      exact ih.trans (congrArg List.getLast? (List.append_nil (handlesOf es)).symm)

/-- The buffers dropped are those before the first handle. -/
theorem dropped_route (es : List Event) : (route es).dropped = buffersOf (beforeHandles es) := by
  induction es using List.reverseRecOn with
  | nil => rfl
  | append_singleton es e ih =>
    rw [route_concat, beforeHandles_concat]
    by_cases h : handlesOf es = []
    · have hc : (route es).current = none := by rw [current_route, h]; rfl
      rw [beforeHandles_of_no_handle h] at ih
      rw [if_pos h]
      cases e <;> simp [Routing.take, hc, ih, beforeHandles, buffersOf]
    · have hc : (route es).current ≠ none := by
        rw [current_route]
        simpa using h
      rw [if_neg h, ← ih]
      cases e with
      | buffer b =>
        cases hcur : (route es).current with
        | none => exact absurd hcur hc
        | some hd => simp [Routing.take, hcur]
      | port hd => rfl
      | shutdown => rfl
      | portsEnded => rfl
      | buffersEnded => rfl

theorem tally_eq_route (es : List Event) (items : List Item) :
    tally es items =
      { forwarded := (forwardedOf items).length
        bytes := ((forwardedOf items).map List.length).sum
        dropped := (route es).dropped.length
        attached := (handlesOf es).length
        current := (route es).current.map Handle.name } := by
  rw [dropped_route, current_route]
  rfl

/-- **A reaction counts its event.** -/
theorem stats_react {w : Writer} {es : List Event} {items : List Item}
    (hc : (route es).current = w.current) (hs : w.stats = tally es items) (e : Event) :
    (w.react e).1.stats = tally (es ++ [e]) items := by
  rw [tally_eq_route, hc] at hs
  rw [tally_eq_route, route_concat, handlesOf_concat]
  cases e with
  | port h => simp [Writer.react, hs, Stats.recordPort, Routing.take, handlesOf]
  | buffer b =>
    cases hcur : w.current <;>
      simp [Writer.react, hcur, hs, hc, Stats.recordDropped, Routing.take, handlesOf]
  | portsEnded => cases hcur : w.current <;>
    simp [Writer.react, hcur, hs, hc, Routing.take, handlesOf]
  | shutdown => simp [Writer.react, hs, hc, Routing.take, handlesOf]
  | buffersEnded => simp [Writer.react, hs, hc, Routing.take, handlesOf]

/-- **The end of a write counts its item.** -/
theorem stats_settle {w : Writer} {es : List Event} {items : List Item}
    (hs : w.stats = tally es items) (h : Handle) (b : Bytes) (x : Except PortError Unit) :
    (w.settle h b x).1.stats = tally es (items ++ [(w.settle h b x).2.1]) := by
  cases x with
  | ok => simp [Writer.settle, hs, Stats.recordForwarded, tally, forwardedOf]
  | error e => simp [Writer.settle, hs, tally, forwardedOf]

/-- A write call that has failed. -/
def Call.isFailed (c : Call) : Bool :=
  match c.result with
  | .ok () => false
  | .error _ => true

/-- A call that has failed forwards nothing, any other its buffer. -/
theorem forwardedOf_cons_item (c : Call) (items : List Item) :
    forwardedOf (c.item :: items) =
      if c.isFailed = true then forwardedOf items else c.buffer :: forwardedOf items := by
  rcases c with ⟨_, _, e | u⟩ <;> rfl

/-- Each call is forwarded or has failed. -/
theorem length_forwardedOf_calls (cs : List Call) :
    (forwardedOf (cs.map Call.item)).length + (cs.filter Call.isFailed).length = cs.length := by
  induction cs with
  | nil => rfl
  | cons c cs ih =>
    rw [List.map_cons, forwardedOf_cons_item, List.filter_cons]
    by_cases hc : c.isFailed = true
    · rw [if_pos hc, if_pos hc, List.length_cons, List.length_cons]
      omega
    · rw [if_neg hc, if_neg hc, List.length_cons, List.length_cons]
      omega

/-- At most one call has failed, if only the last item is a failure. -/
theorem length_filter_isFailed {cs : List Call} (h : OnlyLastFails (cs.map Call.item)) :
    (cs.filter Call.isFailed).length = if cs.any Call.isFailed then 1 else 0 := by
  rcases List.eq_nil_or_concat cs with rfl | ⟨init, c, rfl⟩
  · rfl
  · have hinit : init.filter Call.isFailed = [] := by
      rw [List.filter_eq_nil_iff]
      intro d hd hfailed
      obtain ⟨b, hb⟩ := h d.item (by
        rw [List.concat_eq_append, List.map_append, List.map_singleton, List.dropLast_concat]
        exact List.mem_map_of_mem hd)
      rcases d with ⟨_, _, e | u⟩
      · cases hb
      · cases hfailed
    have hany : init.any Call.isFailed = false := by
      rw [List.any_eq_false]
      exact fun d hd => List.filter_eq_nil_iff.1 hinit d hd
    rw [List.concat_eq_append, List.filter_append, hinit, List.any_append, hany]
    cases hc : c.isFailed <;> simp [hc]

namespace Attachment

variable {W : Type} {site : Site W} {a a' : Attachment W}

theorem stats_eq_tally_step {m : Move} (hf : a.Faithful)
    (hs : a.relay.writer.stats = tally a.events a.relay.output) (h : a.step site m = some a') :
    a'.relay.writer.stats = tally a'.events a'.relay.output := by
  by_cases hm : m = .writer
  · subst hm
    cases writerMoves_of_step h with
    | took hp he => exact stats_react hf.current hs _
    | landed hp => exact stats_settle hs _ _ _
    | left hp => exact hs
  · obtain ⟨hrest, hw⟩ := rests_of_arrival hm h
    rw [hw, hrest.events, hrest.output]
    exact hs

/-- **The counters are the tally** of the events taken and of the items emitted. -/
theorem stats_eq_tally {world : W} {ms : List Move} (h : (start world).follow site ms = some a) :
    a.relay.writer.stats = tally a.events a.relay.output := by
  refine (foldlM_keeps
    (P := fun q => q.Faithful ∧ q.relay.writer.stats = tally q.events q.relay.output) ?_
    ⟨start_faithful world, rfl⟩ h).2
  rintro m - q q' ⟨hf, hs⟩ hstep
  exact ⟨hf.step hstep, stats_eq_tally_step hf hs hstep⟩

/-- **Between two writes every buffer taken was forwarded, dropped or has failed.** -/
theorem length_buffersOf (hf : a.Faithful) (ho : OnlyLastFails a.relay.output)
    (hs : a.relay.writer.stats = tally a.events a.relay.output)
    (hidle : a.relay.writer.underWay = []) :
    (buffersOf a.events).length = a.relay.writer.stats.forwarded + a.relay.writer.stats.dropped +
      if a.calls.any Call.isFailed then 1 else 0 := by
  have hsent : (route a.events).sent = a.calls.map Call.target := by
    rw [hf.sent, hidle, List.append_nil]
  have hcalls := length_forwardedOf_calls a.calls
  rw [hf.output] at ho
  rw [length_filter_isFailed ho, ← hf.output] at hcalls
  have htaken := congrArg List.length (buffers_route a.events)
  rw [hsent, List.length_append, List.length_map, List.length_map] at htaken
  rw [tally_eq_route] at hs
  rw [htaken, hs, ← hcalls]
  simp only
  omega

end Attachment

end SerialRelay

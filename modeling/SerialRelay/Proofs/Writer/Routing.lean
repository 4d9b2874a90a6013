import SerialRelay.Writer.Basic

/-!
# Routing events

The events that a writer takes say where each buffer goes: to the handle taken most recently before
it, or nowhere if there was none. This is a fold over the events and says nothing about sources or
writes.

* `route`: that fold.
* `buffers_route`: every buffer is sent or dropped, and those that are dropped come first.
* `sent_route_append`: a handle that another one has followed is not sent to again.
-/

namespace SerialRelay

/-- Where buffers went. -/
structure Routing where
  /-- The handle taken last. -/
  current : Option Handle := none
  sent : List (Handle × Bytes) := []
  dropped : List Bytes := []
  deriving DecidableEq, Repr

/-- A buffer goes to the handle taken last, if there is one. -/
def Routing.take (s : Routing) : Event → Routing
  | .port h => { s with current := some h }
  | .buffer b =>
    match s.current with
    | some h => { s with sent := s.sent ++ [(h, b)] }
    | none => { s with dropped := s.dropped ++ [b] }
  | .shutdown => s
  | .portsEnded => s
  | .buffersEnded => s

/-- **Where the events send their buffers**. -/
def route (es : List Event) : Routing := es.foldl Routing.take {}

/-- The handles among events. -/
def handlesOf (es : List Event) : List Handle :=
  es.filterMap fun
    | .port h => some h
    | _ => none

/-- The buffers among events. -/
def buffersOf (es : List Event) : List Bytes :=
  es.filterMap fun
    | .buffer b => some b
    | _ => none

/-- The write that is under way. -/
def Writer.underWay (w : Writer) : List (Handle × Bytes) :=
  match w.phase with
  | .writing h b => [(h, b)]
  | .selecting => []
  | .failed => []
  | .ended => []

theorem route_concat (es : List Event) (e : Event) : route (es ++ [e]) = (route es).take e := by
  rw [route, List.foldl_append]
  rfl

theorem handlesOf_concat (es : List Event) (e : Event) :
    handlesOf (es ++ [e]) = handlesOf es ++ handlesOf [e] :=
  List.filterMap_append

theorem buffersOf_concat (es : List Event) (e : Event) :
    buffersOf (es ++ [e]) = buffersOf es ++ buffersOf [e] :=
  List.filterMap_append

namespace Routing

variable {s : Routing}

/-- A routing without a handle has sent nothing yet. -/
def IsFresh (s : Routing) : Prop := s.current = none → s.sent = []

theorem IsFresh.take (hs : s.IsFresh) (e : Event) : (s.take e).IsFresh := by
  intro hc
  cases e with
  | port h => cases hc
  | buffer b =>
    cases hcur : s.current with
    | none => simpa [Routing.take, hcur] using hs hcur
    | some h => simp [Routing.take, hcur] at hc
  | shutdown => exact hs hc
  | portsEnded => exact hs hc
  | buffersEnded => exact hs hc

/-- The reaction of a writer to an event has the handle of the routing. -/
theorem current_take {w : Writer} (h : s.current = w.current) (e : Event) :
    (s.take e).current = (w.react e).1.current := by
  cases e with
  | port h => rfl
  | buffer b => cases hc : w.current <;> simp [Routing.take, Writer.react, h, hc]
  | portsEnded => cases hc : w.current <;> simp [Routing.take, Writer.react, h, hc]
  | shutdown => exact h
  | buffersEnded => exact h

/-- **A reaction starts the write of the routing**, if the writer is between two writes. -/
theorem sent_take {w : Writer} (h : s.current = w.current) (hp : w.phase = .selecting) (e : Event) :
    (s.take e).sent = s.sent ++ (w.react e).1.underWay := by
  cases e with
  | buffer b => cases hc : w.current <;>
    simp [Routing.take, Writer.react, Writer.underWay, h, hc, hp]
  | portsEnded => cases hc : w.current <;>
    simp [Routing.take, Writer.react, Writer.underWay, hc, hp]
  | port h => simp [Routing.take, Writer.react, Writer.underWay, hp]
  | shutdown => simp [Routing.take, Writer.react, Writer.underWay]
  | buffersEnded => simp [Routing.take, Writer.react, Writer.underWay]

/-- One event more, one buffer more if it is one. -/
theorem buffers_take (hs : s.IsFresh) (e : Event) :
    (s.take e).dropped ++ (s.take e).sent.map Prod.snd =
      s.dropped ++ s.sent.map Prod.snd ++ buffersOf [e] := by
  cases e with
  | buffer b =>
    cases hc : s.current with
    | none => simp [Routing.take, hc, hs hc, buffersOf]
    | some h => simp [Routing.take, hc, buffersOf]
  | port h => simp [Routing.take, buffersOf]
  | shutdown => simp [Routing.take, buffersOf]
  | portsEnded => simp [Routing.take, buffersOf]
  | buffersEnded => simp [Routing.take, buffersOf]

theorem buffers_foldl (hs : s.IsFresh) (es : List Event) :
    (es.foldl Routing.take s).dropped ++ (es.foldl Routing.take s).sent.map Prod.snd =
      s.dropped ++ s.sent.map Prod.snd ++ buffersOf es := by
  induction es generalizing s with
  | nil => simp [buffersOf]
  | cons e es ih =>
    have hcons : buffersOf (e :: es) = buffersOf [e] ++ buffersOf es :=
      List.filterMap_append (l := [e])
    rw [List.foldl_cons, ih (hs.take e), buffers_take hs, hcons, List.append_assoc]

/-- What is sent from now on goes to the current handle or to one that is taken from now on. -/
theorem sent_foldl (es : List Event) (s : Routing) :
    ∃ later, (es.foldl Routing.take s).sent = s.sent ++ later ∧
      ∀ c ∈ later, s.current = some c.1 ∨ c.1 ∈ handlesOf es := by
  induction es generalizing s with
  | nil => exact ⟨[], by simp, nofun⟩
  | cons e es ih =>
    obtain ⟨later, hsent, hlater⟩ := ih (s.take e)
    rw [List.foldl_cons, hsent]
    cases e with
    | port h =>
      refine ⟨later, rfl, fun c hc => ?_⟩
      rcases hlater c hc with hcur | hmem
      · have heq : h = c.1 := Option.some.inj hcur
        exact .inr (by simp [handlesOf, heq])
      · exact .inr (List.mem_cons_of_mem _ hmem)
    | buffer b =>
      cases hc : s.current with
      | none =>
        have htake : s.take (.buffer b) = { s with dropped := s.dropped ++ [b] } := by
          simp [Routing.take, hc]
        rw [htake] at hlater ⊢
        rw [← hc]
        exact ⟨later, rfl, hlater⟩
      | some h =>
        have htake : s.take (.buffer b) = { s with sent := s.sent ++ [(h, b)] } := by
          simp [Routing.take, hc]
        rw [htake] at hlater ⊢
        refine ⟨(h, b) :: later, by simp, fun c hmem => ?_⟩
        rcases List.mem_cons.1 hmem with rfl | hmem
        · exact .inl rfl
        · rw [← hc]; exact hlater c hmem
    | shutdown => exact ⟨later, rfl, hlater⟩
    | portsEnded => exact ⟨later, rfl, hlater⟩
    | buffersEnded => exact ⟨later, rfl, hlater⟩

end Routing

/-- **Every buffer is sent or dropped**, and those that are dropped come first. -/
theorem buffers_route (es : List Event) :
    buffersOf es = (route es).dropped ++ (route es).sent.map Prod.snd := by
  have h := Routing.buffers_foldl (s := {}) (fun _ => rfl) es
  rw [← route] at h
  simpa using h.symm

/-- **A handle that another one has followed is not sent to again**, unless it is taken again. -/
theorem sent_route_append (es : List Event) (h : Handle) (later : List Event) :
    ∃ calls, (route (es ++ .port h :: later)).sent = (route es).sent ++ calls ∧
      ∀ c ∈ calls, c.1 = h ∨ c.1 ∈ handlesOf later := by
  obtain ⟨calls, hsent, hcalls⟩ := Routing.sent_foldl later ((route es).take (.port h))
  refine ⟨calls, ?_, fun c hc => ?_⟩
  · rw [route, List.foldl_append, List.foldl_cons, ← route, hsent]
    rfl
  · rcases hcalls c hc with hcur | hmem
    · exact .inl (Option.some.inj hcur).symm
    · exact .inr hmem

end SerialRelay

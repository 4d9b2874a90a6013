import SerialRelay.Relay
import SerialRelay.Proofs.Pump.Deliveries

/-!
# The course of a relay

What a writer makes of deliveries, one after the other and without any schedule: a handle is put
behind those that wait; before a buffer is taken, the writer takes the handles that wait, so many as
it may take in a row; the buffer is then written to the current handle, or dropped if there is none.

* `course`: the world, the output and the counters at the end.
* `course_attach`: a waiting handle may as well be taken at once.
* `course_of_no_handle`: without any handle nothing is written.
-/

namespace SerialRelay

variable {W : Type}

/-- What a relay comes to. -/
structure Upshot (W : Type) where
  world : W
  output : List Item
  stats : Stats

/-- A writer between two writes, with its ports and its output. -/
structure Standing (W : Type) where
  current : Option Handle := none
  /-- Handles taken since the last buffer. -/
  inRow : Nat := 0
  stats : Stats := {}
  /-- The handles that are ready. -/
  waiting : List Handle
  world : W
  output : List Item := []

namespace Standing

def upshot (s : Standing W) : Upshot W := ⟨s.world, s.output, s.stats⟩

/-- Another handle is ready. -/
def push (s : Standing W) (h : Handle) : Standing W := { s with waiting := s.waiting ++ [h] }

/-- The writer takes a handle; these are then left. -/
def attach (s : Standing W) (h : Handle) (rest : List Handle) : Standing W :=
  { s with
    current := some h, inRow := s.inRow + 1, stats := s.stats.recordPort h.name, waiting := rest }

/-- Takes handles while it may take another one in a row. -/
def takeFrom (s : Standing W) : List Handle → Standing W
  | [] => { s with waiting := [] }
  | h :: hs =>
    if s.inRow < Writer.maxPortsInRow then (s.attach h hs).takeFrom hs
    else { s with waiting := h :: hs }

/-- **The writer after the handles that it takes before a buffer.** -/
def catchUp (s : Standing W) : Standing W := s.takeFrom s.waiting

/-- A buffer is taken while there is no handle. -/
def drop (s : Standing W) : Standing W := { s with inRow := 0, stats := s.stats.recordDropped }

/-- A buffer is taken while there is one. -/
def begin (s : Standing W) : Standing W := { s with inRow := 0 }

/-- A write, and what comes after it unless it fails. -/
def land (write : W → Handle → Bytes → Except PortError Unit × W) (s : Standing W) (h : Handle)
    (b : Bytes) (next : Standing W → Upshot W) : Upshot W :=
  match write s.world h b with
  | (.ok (), w) =>
    next { s with
      world := w
      output := s.output ++ [.forwarded b]
      stats := s.stats.recordForwarded b.length }
  | (.error e, w) => ⟨w, s.output ++ [.failed ⟨h.name, e⟩], s.stats⟩

end Standing

/-- **What deliveries come to**, one after the other. -/
def course (write : W → Handle → Bytes → Except PortError Unit × W) :
    Standing W → List Delivery → Upshot W
  | s, [] => s.catchUp.upshot
  | s, .handle h :: ds => course write (s.push h) ds
  | s, .buffer b :: ds =>
    match s.catchUp.current with
    | none => course write s.catchUp.drop ds
    | some h => s.catchUp.begin.land write h b fun t => course write t ds

namespace Standing

variable {s : Standing W} {h : Handle} {hs : List Handle}

theorem catchUp_of_waiting_nil (hw : s.waiting = []) : s.catchUp = s := by
  cases s
  simp only at hw
  simp [catchUp, hw, takeFrom]

theorem catchUp_of_inRow (hr : Writer.maxPortsInRow ≤ s.inRow) : s.catchUp = s := by
  cases s with
  | mk c n st w wd o =>
    cases w with
    | nil => rfl
    | cons h hs => exact if_neg (Nat.not_lt.2 hr)

theorem catchUp_attach (hw : s.waiting = h :: hs) (hr : s.inRow < Writer.maxPortsInRow) :
    s.catchUp = (s.attach h hs).catchUp := by
  unfold catchUp
  rw [hw, takeFrom, if_pos hr]
  rfl

theorem push_attach (h' : Handle) : (s.attach h hs).push h' = (s.push h').attach h (hs ++ [h']) :=
  rfl

/-- Taking handles changes neither the world nor the output. -/
theorem takeFrom_world_output :
    (s.takeFrom hs).world = s.world ∧ (s.takeFrom hs).output = s.output := by
  induction hs generalizing s with
  | nil => exact ⟨rfl, rfl⟩
  | cons h hs ih =>
    unfold takeFrom
    split
    · exact ih
    · exact ⟨rfl, rfl⟩

theorem catchUp_world_output : s.catchUp.world = s.world ∧ s.catchUp.output = s.output :=
  takeFrom_world_output

end Standing

variable {write : W → Handle → Bytes → Except PortError Unit × W}

/-- **A waiting handle may as well be taken at once**, as far as one may be taken at all. -/
theorem course_attach {s : Standing W} {h : Handle} {hs : List Handle} (hw : s.waiting = h :: hs)
    (hr : s.inRow < Writer.maxPortsInRow) (ds : List Delivery) :
    course write s ds = course write (s.attach h hs) ds := by
  -- more handles come behind `h`, so it stays the first that waits until the next buffer
  induction ds generalizing s hs with
  | nil => rw [course, course, Standing.catchUp_attach hw hr]
  | cons d ds ih =>
    cases d with
    | handle h' =>
      rw [course, course, Standing.push_attach]
      exact ih (by simp [Standing.push, hw]) hr
    | buffer b => rw [course, course, Standing.catchUp_attach hw hr]

/-- **Without any handle nothing is written.** -/
theorem course_of_no_handle {s : Standing W} (hc : s.current = none) (hw : s.waiting = [])
    (bs : List Bytes) :
    (course write s (bs.map .buffer)).world = s.world ∧
      (course write s (bs.map .buffer)).output = s.output := by
  induction bs generalizing s with
  | nil =>
    rw [List.map_nil, course, Standing.catchUp_of_waiting_nil hw]
    exact ⟨rfl, rfl⟩
  | cons b bs ih =>
    rw [List.map_cons, course, Standing.catchUp_of_waiting_nil hw, hc]
    exact ih (s := s.drop) hc hw

end SerialRelay

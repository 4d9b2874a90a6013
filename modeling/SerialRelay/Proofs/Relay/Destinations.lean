import SerialRelay.Proofs.Relay.Confluence

/-!
# Where the buffers of a relay go

A command opens a port for the lines below it. The writer takes a handle before any buffer that was
sent after it, but only `Writer.maxPortsInRow` of them between two buffers. Handles beyond these
stay behind, and then a buffer goes to the handle that was opened so many openings before the
nearest one.

* `destinations`: the handle of each buffer, by how many handles the writer is behind.
* `intended`: the handle that was opened last.
* `isPunctual`: no more handles than that are opened between two buffers.
* `destinations_eq_intended`: a punctual input goes where it is intended; another one does not, if
  no two openings give one handle.
* `Standing.IsBehind`: the writer of a course stands where the destinations say.
-/

namespace SerialRelay

open Writer (maxPortsInRow)

variable {W : Type}

/-- **The handle of each buffer**, when the writer has not yet taken the last `behind` of the
handles opened so far. A buffer without a handle is not written. -/
def destinations :
    (opened : List Handle) → (behind : ℕ) → List Delivery → List (Option Handle × Bytes)
  | _, _, [] => []
  | opened, behind, .handle h :: ds => destinations (opened ++ [h]) (behind + 1) ds
  | opened, behind, .buffer b :: ds =>
    ((opened.take (opened.length - (behind - maxPortsInRow))).getLast?, b) ::
      destinations opened (behind - maxPortsInRow) ds

/-- **The handle that was opened last** before each buffer. -/
def intended : (last : Option Handle) → List Delivery → List (Option Handle × Bytes)
  | _, [] => []
  | _, .handle h :: ds => intended (some h) ds
  | last, .buffer b :: ds => (last, b) :: intended last ds

/-- The write calls for those destinations. -/
def sent (ds : List (Option Handle × Bytes)) : List (Handle × Bytes) :=
  ds.filterMap fun d => d.1.map (·, d.2)

/-- Whether the writer catches up before every buffer: it is never too many handles behind. -/
def isPunctual : (behind : ℕ) → List Delivery → Bool
  | _, [] => true
  | behind, .handle _ :: ds => isPunctual (behind + 1) ds
  | behind, .buffer _ :: ds => behind ≤ maxPortsInRow && isPunctual 0 ds

/-- The handles among deliveries. -/
def opened (ds : List Delivery) : List Handle :=
  ds.filterMap fun
    | .handle h => some h
    | .buffer _ => none

theorem destinations_of_isPunctual {ds : List Delivery} {hs : List Handle} {n : ℕ}
    (hp : isPunctual n ds = true) : destinations hs n ds = intended hs.getLast? ds := by
  induction ds generalizing hs n with
  | nil => rfl
  | cons d ds ih =>
    cases d with
    | handle h => rw [destinations, intended, ih hp, List.getLast?_concat]
    | buffer b =>
      simp only [isPunctual, Bool.and_eq_true, decide_eq_true_eq] at hp
      have h0 : n - maxPortsInRow = 0 := by omega
      rw [destinations, intended, h0, Nat.sub_zero, List.take_length, ih hp.2]

/-- The last of some handles is not the last of fewer of them, if no two are the same. -/
theorem getLast?_take_ne {hs : List Handle} {n : ℕ} (hd : hs.Nodup) (hn : 0 < n)
    (hle : n ≤ hs.length) :
    (hs.take (hs.length - n)).getLast? ≠ hs.getLast? := by
  intro h
  have hne : hs ≠ [] := by intro hz; simp [hz] at hle; omega
  have hmem : hs.getLast hne ∈ hs.take (hs.length - n) := by
    rw [List.getLast?_eq_some_getLast hne] at h
    exact List.mem_of_getLast? h
  have hsplit : hs = hs.take (hs.length - n) ++ hs.drop (hs.length - n) :=
    (List.take_append_drop _ _).symm
  have hdrop : hs.drop (hs.length - n) ≠ [] := by
    intro hz; have := congrArg List.length hz; simp at this; omega
  have hlast : hs.getLast hne ∈ hs.drop (hs.length - n) := by
    rw [← List.getLast_drop hdrop]; exact List.getLast_mem hdrop
  rw [hsplit] at hd
  exact (List.nodup_append.1 hd).2.2 _ hmem _ hlast rfl

theorem isPunctual_of_destinations {ds : List Delivery} {hs : List Handle} {n : ℕ}
    (hn : n ≤ hs.length) (hd : (hs ++ opened ds).Nodup)
    (h : destinations hs n ds = intended hs.getLast? ds) :
    isPunctual n ds = true := by
  induction ds generalizing hs n with
  | nil => rfl
  | cons d ds ih =>
    cases d with
    | handle h' =>
      have hd' : (hs ++ [h'] ++ opened ds).Nodup := by simpa [opened] using hd
      refine ih (by simpa using hn) hd' ?_
      rw [destinations, intended] at h
      rw [h, List.getLast?_concat]
    | buffer b =>
      rw [destinations, intended, List.cons.injEq, Prod.mk.injEq] at h
      -- otherwise the handle would be one of those before the last
      have h0 : n ≤ maxPortsInRow := by
        by_contra hc
        have hnd : hs.Nodup := (List.nodup_append.1 hd).1
        exact getLast?_take_ne hnd (by omega) (by omega) h.1.1
      have hz : n - maxPortsInRow = 0 := by omega
      rw [hz] at h
      have hd' : (hs ++ opened ds).Nodup := by simpa [opened] using hd
      simp [isPunctual, h0, ih (Nat.zero_le _) hd' h.2]

/-- **A punctual input goes where it is intended**, and another one does not, if no two openings
give one handle. -/
theorem destinations_eq_intended {ds : List Delivery} {hs : List Handle}
    (hd : (hs ++ opened ds).Nodup) :
    destinations hs hs.length ds = intended hs.getLast? ds ↔ isPunctual hs.length ds = true :=
  ⟨isPunctual_of_destinations (Nat.le_refl _) hd, destinations_of_isPunctual⟩

/-- In any case the same buffers are written: those behind an opening. -/
theorem isSome_destinations {ds : List Delivery} {hs : List Handle} {n : ℕ} (hn : n ≤ hs.length) :
    (destinations hs n ds).map (fun d => (d.1.isSome, d.2)) =
      (intended hs.getLast? ds).map (fun d => (d.1.isSome, d.2)) := by
  induction ds generalizing hs n with
  | nil => rfl
  | cons d ds ih =>
    cases d with
    | handle h =>
      rw [destinations, intended, ih (by simpa using hn), List.getLast?_concat]
    | buffer b =>
      have hle : n - maxPortsInRow ≤ hs.length := by omega
      have hsome : (hs.take (hs.length - (n - maxPortsInRow))).getLast?.isSome =
          hs.getLast?.isSome := by
        rw [Bool.eq_iff_iff, List.getLast?_isSome, List.getLast?_isSome, ne_eq, ne_eq,
          List.take_eq_nil_iff, not_or, and_iff_right_iff_imp]
        intro hne
        have hpos : 0 < hs.length := List.length_pos_iff.2 hne
        have : 0 < maxPortsInRow := by decide
        omega
      rw [destinations, intended, List.map_cons, List.map_cons, hsome, ih hle]

/-- Where the same buffers have a handle, the calls tell the destinations. -/
theorem eq_of_sent_eq {ds es : List (Option Handle × Bytes)}
    (hp : ds.map (fun d => (d.1.isSome, d.2)) = es.map (fun d => (d.1.isSome, d.2)))
    (h : sent ds = sent es) :
    ds = es := by
  induction ds generalizing es with
  | nil => exact (List.map_eq_nil_iff.1 hp.symm).symm
  | cons d ds ih =>
    cases es with
    | nil => cases hp
    | cons e es =>
      obtain ⟨hhead, htail⟩ := List.cons.inj hp
      obtain ⟨hsome, hbytes⟩ := Prod.mk.inj hhead
      obtain ⟨d₁, d₂⟩ := d
      obtain ⟨e₁, e₂⟩ := e
      cases hbytes
      cases d₁ with
      | none =>
        cases e₁ with
        | none => rw [ih htail h]
        | some _ => cases hsome
      | some h₁ =>
        cases e₁ with
        | none => cases hsome
        | some h₂ =>
          obtain ⟨hcall, hcalls⟩ := List.cons.inj h
          rw [ih htail hcalls, (Prod.mk.inj hcall).1]

/-- **The calls are the intended ones just for a punctual input**, if no two openings give one
handle. -/
theorem sent_destinations_iff {ds : List Delivery} {hs : List Handle}
    (hd : (hs ++ opened ds).Nodup) :
    sent (destinations hs hs.length ds) = sent (intended hs.getLast? ds) ↔
      isPunctual hs.length ds = true := by
  rw [← destinations_eq_intended hd]
  exact ⟨eq_of_sent_eq (isSome_destinations (Nat.le_refl _)), congrArg sent⟩

namespace Standing

variable {s : Standing W}

/-- **What the writer takes in a row**: as many handles as there is room for, the last of which is
current. -/
theorem takeFrom_eq (hs : List Handle) (hr : s.inRow ≤ maxPortsInRow) :
    (s.takeFrom hs).current = (hs.take (maxPortsInRow - s.inRow)).getLast?.or s.current ∧
      (s.takeFrom hs).waiting = hs.drop (maxPortsInRow - s.inRow) := by
  induction hs generalizing s with
  | nil => simp [takeFrom]
  | cons h hs ih =>
    unfold takeFrom
    split
    · next hlt =>
      obtain ⟨hc, hw⟩ := ih (s := s.attach h hs) hlt
      -- one place fewer behind this handle
      have hsub : maxPortsInRow - s.inRow = maxPortsInRow - (s.attach h hs).inRow + 1 := by
        simp only [attach]; omega
      rw [hc, hw, hsub, List.take_succ_cons, List.drop_succ_cons]
      refine ⟨?_, rfl⟩
      rw [List.getLast?_cons]
      cases (hs.take (maxPortsInRow - (s.attach h hs).inRow)).getLast? <;> rfl
    · next hge =>
      have h0 : maxPortsInRow - s.inRow = 0 := by omega
      rw [h0]
      exact ⟨rfl, rfl⟩

/-- **A writer is `behind` handles behind**: of those opened so far it waits for the last ones, and
the one before them is current. -/
structure IsBehind (s : Standing W) (opened : List Handle) (behind : ℕ) : Prop where
  le : behind ≤ opened.length
  inRow : s.inRow = 0
  current : s.current = (opened.take (opened.length - behind)).getLast?
  waiting : s.waiting = opened.drop (opened.length - behind)

variable {os : List Handle} {n : ℕ}

theorem IsBehind.push (hb : s.IsBehind os n) (h : Handle) :
    (s.push h).IsBehind (os ++ [h]) (n + 1) := by
  have hsub : (os ++ [h]).length - (n + 1) = os.length - n := by simp
  refine ⟨by simpa using hb.le, hb.inRow, ?_, ?_⟩
  · rw [hsub, List.take_append_of_le_length (Nat.sub_le _ _)]
    exact hb.current
  · rw [hsub, List.drop_append_of_le_length (Nat.sub_le _ _), ← hb.waiting]
    rfl

/-- Before a buffer the writer takes the next handles, and is then so many fewer behind. -/
theorem IsBehind.catchUp (hb : s.IsBehind os n) :
    s.catchUp.current = (os.take (os.length - (n - maxPortsInRow))).getLast? ∧
      s.catchUp.waiting = os.drop (os.length - (n - maxPortsInRow)) := by
  have hle := hb.le
  obtain ⟨hc, hw⟩ := takeFrom_eq (s := s) s.waiting (by rw [hb.inRow]; exact Nat.zero_le _)
  rw [Standing.catchUp, hc, hw, hb.inRow, hb.waiting, hb.current, Nat.sub_zero]
  -- either all that wait are taken, or just as many as may be taken in a row
  by_cases hn : n ≤ maxPortsInRow
  · have h0 : n - maxPortsInRow = 0 := by omega
    have hlen : (os.drop (os.length - n)).length ≤ maxPortsInRow := by rw [List.length_drop]; omega
    rw [h0, Nat.sub_zero, List.take_length, List.take_of_length_le hlen,
      List.drop_of_length_le hlen, List.drop_length]
    refine ⟨?_, rfl⟩
    conv_rhs => rw [← List.take_append_drop (os.length - n) os]
    rw [List.getLast?_append]
  · have hsum : os.length - (n - maxPortsInRow) = os.length - n + maxPortsInRow := by omega
    rw [hsum, List.take_add, List.getLast?_append, List.drop_drop]
    exact ⟨rfl, rfl⟩

/-- A writer that has caught up and takes a buffer is so many fewer behind. -/
theorem IsBehind.of_catchUp (hb : s.IsBehind os n) {t : Standing W} (hr : t.inRow = 0)
    (hc : t.current = s.catchUp.current) (hw : t.waiting = s.catchUp.waiting) :
    t.IsBehind os (n - maxPortsInRow) where
  le := Nat.le_trans (Nat.sub_le _ _) hb.le
  inRow := hr
  current := hc.trans hb.catchUp.1
  waiting := hw.trans hb.catchUp.2

end Standing

end SerialRelay

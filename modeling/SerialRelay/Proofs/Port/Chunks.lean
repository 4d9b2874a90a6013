import Mathlib.Algebra.Order.Floor.Div
import SerialRelay.Port.Simulated
import SerialRelay.Proofs.Port.Turns

/-!
# A complete write to a simulated port

A simulated port takes data in chunks of one size until its budget is spent, so what a write makes
of it can be said without the loop.

* `chunks`: data cut into pieces of a size; the last one may be smaller.
* `SimPort.written`: how a complete write ends, and the port behind it.
* `SimPort.written_turn`: the closed form makes the turns of the write loop.
* `SimPort.writeAll_follows_closed_form`: the write loop gives the closed form, and never calls for
  a flush.
-/

namespace SerialRelay

/-- **Data cut into pieces of a size**, the last of which may be smaller. -/
def chunks (size : ℕ) (data : Bytes) : List Bytes :=
  (List.range (data.length ⌈/⌉ size)).map fun i => (data.drop (i * size)).take size

section Chunks

variable {size : ℕ} {data : Bytes}

theorem chunks_nil (size : ℕ) : chunks size [] = [] := by simp [chunks]

theorem length_chunks (size : ℕ) (data : Bytes) :
    (chunks size data).length = data.length ⌈/⌉ size := by
  rw [chunks, List.length_map, List.length_range]

theorem ceilDiv_eq_succ {n : ℕ} (hs : 0 < size) (hn : 0 < n) :
    n ⌈/⌉ size = (n - size) ⌈/⌉ size + 1 := by
  rw [Nat.ceilDiv_eq_add_pred_div, Nat.ceilDiv_eq_add_pred_div]
  rcases Nat.le_total size n with hle | hle
  · rw [← Nat.add_div_right _ hs]
    congr 1
    omega
  · rw [Nat.sub_eq_zero_of_le hle, Nat.div_eq_of_lt (by omega : 0 + size - 1 < size)]
    exact Nat.div_eq_of_lt_le (by omega) (by omega)

/-- The first piece, and the pieces of what is left. -/
theorem chunks_eq_cons (hs : 0 < size) (hne : data ≠ []) :
    chunks size data = data.take size :: chunks size (data.drop size) := by
  have hpos : 0 < data.length := List.length_pos_iff.2 hne
  rw [chunks, ceilDiv_eq_succ hs hpos, List.range_succ_eq_map, List.map_cons, List.map_map, chunks,
    List.length_drop]
  congr 1
  · simp
  · refine List.map_congr_left fun i _ => ?_
    rw [List.drop_drop, Function.comp_apply, Nat.succ_mul, Nat.add_comm]

/-- Data that is not larger than a piece is one. -/
theorem chunks_of_length_le (hne : data ≠ []) (hle : data.length ≤ size) :
    chunks size data = [data] := by
  have hpos : 0 < data.length := List.length_pos_iff.2 hne
  rw [chunks_eq_cons (by omega) hne, List.take_of_length_le hle, List.drop_of_length_le hle,
    chunks_nil]

/-- Pieces are no larger than the data. -/
theorem chunks_min (size : ℕ) (data : Bytes) :
    chunks (min size data.length) data = chunks size data := by
  by_cases hne : data = []
  · rw [hne, chunks_nil, chunks_nil]
  · rcases Nat.le_total size data.length with hle | hle
    · rw [Nat.min_eq_left hle]
    · rw [Nat.min_eq_right hle, chunks_of_length_le hne le_rfl, chunks_of_length_le hne hle]

/-- **The pieces make up the data**, and all but the last have the full size. -/
theorem chunks_spec (hs : 0 < size) (data : Bytes) :
    (chunks size data).flatten = data ∧
      ∀ piece ∈ (chunks size data).dropLast, piece.length = size := by
  induction h : data.length using Nat.strong_induction_on generalizing data with
  | _ n ih =>
    by_cases hne : data = []
    · rw [hne, chunks_nil]
      exact ⟨rfl, nofun⟩
    · have hpos : 0 < data.length := List.length_pos_iff.2 hne
      obtain ⟨hflat, hfull⟩ := ih _ (by rw [List.length_drop]; omega) (data.drop size) rfl
      rw [chunks_eq_cons hs hne, List.flatten_cons, hflat]
      refine ⟨List.take_append_drop size data, fun piece hmem => ?_⟩
      by_cases hrest : data.drop size = []
      · rw [hrest, chunks_nil] at hmem
        cases hmem
      -- a piece with data behind it has the full size
      · have hmore : chunks size (data.drop size) ≠ [] := by
          rw [chunks_eq_cons hs hrest]
          exact List.cons_ne_nil _ _
        rw [List.dropLast_cons_of_ne_nil hmore, List.mem_cons] at hmem
        rcases hmem with rfl | hmem
        · have hlt : size < data.length := by simpa using hrest
          rw [List.length_take, Nat.min_eq_left hlt.le]
        · exact hfull piece hmem

end Chunks

namespace SimPort

/-- The most octets of some data that one offer takes. -/
def chunkSize (p : SimPort) (data : Bytes) : ℕ := min (p.maxChunk.getD data.length) data.length

/-- Takes pieces one by one, as far as the budget goes. -/
def takePieces (p : SimPort) (pieces : List Bytes) : Outcome × SimPort :=
  match p.budget with
  | none => (.done, { p with log := p.log ++ pieces })
  | some n =>
    if pieces.length ≤ n then
      (.done, { p with log := p.log ++ pieces, budget := some (n - pieces.length) })
    else (.failed spent, { p with log := p.log ++ pieces.take n, budget := some 0 })

/-- **How a complete write ends**, and the port behind it. -/
def written (p : SimPort) (data : Bytes) : Outcome × SimPort :=
  if data = [] then (.done, p)
  else if p.disconnected then (.failed .notOpen, p)
  else if p.timeoutArmed then (.failed (.timeout timeoutSpan), { p with timeoutArmed := false })
  else if p.budget = some 0 then (.failed spent, p)
  else if p.maxChunk = some 0 then
    (.failed (.writeZero data.length), { p with budget := p.budget.map (· - 1) })
  else p.takePieces (chunks (p.chunkSize data) data)

variable {p : SimPort} {data : Bytes}

/-- The port behind a piece that it has taken. -/
def afterPiece (p : SimPort) (piece : Bytes) : SimPort :=
  { p with log := p.log ++ [piece], budget := p.budget.map (· - 1) }

theorem takePieces_nil (p : SimPort) : p.takePieces [] = (.done, p) := by
  unfold takePieces
  split
  · next hb => simp
  · next n hb => simp [← hb]

/-- **Pieces are taken one after the other.** -/
theorem takePieces_cons (hb : p.budget ≠ some 0) (piece : Bytes) (pieces : List Bytes) :
    p.takePieces (piece :: pieces) = (p.afterPiece piece).takePieces pieces := by
  unfold takePieces afterPiece
  rcases hn : p.budget with _ | _ | n
  · simp
  · exact absurd hn hb
  · by_cases hle : pieces.length ≤ n
    · simp [hle]
    · simp [hle]

/-- Nothing is taken behind the end of the budget. -/
theorem takePieces_of_spent (hb : p.budget = some 0) {pieces : List Bytes} (hne : pieces ≠ []) :
    p.takePieces pieces = (.failed spent, p) := by
  have hmore : ¬ pieces.length ≤ 0 := Nat.not_le.2 (List.length_pos_iff.2 hne)
  obtain ⟨log, flushes, timeoutArmed, budget, maxChunk, disconnected, flushUnsupported⟩ := p
  obtain rfl : budget = some 0 := hb
  simp only [takePieces, if_neg hmore, List.take_zero, List.append_nil]

/-! ### One offer -/

theorem chunkSize_pos (hne : data ≠ []) (hm : p.maxChunk ≠ some 0) : 0 < p.chunkSize data := by
  have hpos : 0 < data.length := List.length_pos_iff.2 hne
  unfold chunkSize
  rcases h : p.maxChunk with _ | _ | m
  · simpa using hpos
  · exact absurd h hm
  · simp only [Option.getD_some]
    omega

theorem offer_of_ready (hd : p.disconnected = false) (ht : p.timeoutArmed = false)
    (hb : p.budget ≠ some 0) :
    p.offer data = ({ p with budget := p.budget.map (· - 1) } : SimPort).accept data := by
  obtain ⟨log, flushes, timeoutArmed, budget, maxChunk, disconnected, flushUnsupported⟩ := p
  obtain rfl : disconnected = false := hd
  obtain rfl : timeoutArmed = false := ht
  rcases budget with _ | _ | n
  · rfl
  · exact absurd rfl hb
  · rfl

/-- A port that is ready takes one chunk. -/
theorem offer_takes (hd : p.disconnected = false) (ht : p.timeoutArmed = false)
    (hb : p.budget ≠ some 0) (hne : data ≠ []) (hm : p.maxChunk ≠ some 0) :
    p.offer data = (.took (p.chunkSize data), p.afterPiece (data.take (p.chunkSize data))) := by
  have hpos := chunkSize_pos hne hm
  have hsize : (p.maxChunk.getD data.length).min data.length = p.chunkSize data := rfl
  simp [offer_of_ready hd ht hb, accept, hsize, hpos.ne', afterPiece]

/-- What is left behind a chunk is taken in chunks of the same size. -/
theorem chunks_afterPiece (piece : Bytes) (hrest : data.drop (p.chunkSize data) ≠ []) :
    chunks ((p.afterPiece piece).chunkSize (data.drop (p.chunkSize data)))
      (data.drop (p.chunkSize data)) =
      chunks (p.chunkSize data) (data.drop (p.chunkSize data)) := by
  have hlt : p.chunkSize data < data.length := by simpa using hrest
  -- some data is left, so the size is not that of the data
  obtain ⟨m, hmax⟩ : ∃ m, p.maxChunk = some m := by
    cases h : p.maxChunk with
    | none => simp [chunkSize, h] at hlt
    | some m => exact ⟨m, rfl⟩
  have hsize : p.chunkSize data = m := by
    rw [chunkSize, hmax, Option.getD_some] at hlt ⊢
    omega
  rw [hsize, chunkSize, afterPiece, hmax, Option.getD_some, chunks_min]

/-! ### The write loop -/

/-- A port that takes something writes data chunk by chunk. -/
theorem written_of_ready (hne : data ≠ []) (hd : p.disconnected = false)
    (ht : p.timeoutArmed = false) (hm : p.maxChunk ≠ some 0) :
    p.written data = p.takePieces (chunks (p.chunkSize data) data) := by
  by_cases hb : p.budget = some 0
  · have hpieces : chunks (p.chunkSize data) data ≠ [] := by
      rw [chunks_eq_cons (chunkSize_pos hne hm) hne]
      exact List.cons_ne_nil _ _
    simp [written, hne, hd, ht, hb, takePieces_of_spent hb hpieces]
  · simp [written, hne, hd, ht, hb, hm]

/-- **The closed form makes the turns of the write loop.** -/
theorem written_turn (hne : data ≠ []) (p : SimPort) :
    p.written data =
      if (p.offer data).1.passes data then
        (p.offer data).2.written (data.drop (p.offer data).1.count)
      else ((p.offer data).1.ending data.length, (p.offer data).2) := by
  cases hd : p.disconnected with
  | true => simp [written, offer, hne, hd, Answer.passes, Answer.ending, PortError.isInterrupted]
  | false =>
  cases ht : p.timeoutArmed with
  | true =>
    simp [written, offer, hne, hd, ht, Answer.passes, Answer.ending, PortError.isInterrupted]
  | false =>
  by_cases hb : p.budget = some 0
  · simp [written, offer, hne, hd, ht, hb, Answer.passes, Answer.ending,
      PortError.isInterrupted, spent]
  by_cases hm : p.maxChunk = some 0
  · simp [written, offer_of_ready hd ht hb, accept, hne, hd, ht, hb, hm, Answer.passes,
      Answer.ending]
  -- a chunk is taken, and the loop goes on
  have hpos := chunkSize_pos hne hm
  have hle : p.chunkSize data ≤ data.length := Nat.min_le_right _ _
  have hpasses : (Answer.took (p.chunkSize data)).passes data = true := by
    simp [Answer.passes, hpos, hle]
  rw [offer_takes hd ht hb hne hm, if_pos hpasses, written_of_ready hne hd ht hm,
    chunks_eq_cons hpos hne, takePieces_cons hb]
  simp only [Answer.count]
  by_cases hrest : data.drop (p.chunkSize data) = []
  · rw [hrest, chunks_nil, takePieces_nil]
    rfl
  · have hnext := written_of_ready (p := p.afterPiece (data.take (p.chunkSize data))) hrest hd ht hm
    rw [hnext, chunks_afterPiece _ hrest]

/-- A port that goes on has taken something. -/
theorem count_pos (hp : (p.offer data).1.passes data = true) : 0 < (p.offer data).1.count := by
  cases ha : (p.offer data).1 with
  | took n =>
    rw [ha, Answer.passes, Bool.and_eq_true, decide_eq_true_eq] at hp
    exact hp.1
  | failed e =>
    have hoffer : p.offer data = (.failed e, (p.offer data).2) := Prod.ext ha rfl
    rw [ha, Answer.passes, offer_not_interrupted hoffer] at hp
    cases hp
  | brokeDown =>
    rw [ha] at hp
    cases hp

/-- **The write loop gives the closed form**, within as many calls as there are octets. -/
theorem writeAll_eq_written {calls : ℕ} (h : data.length ≤ calls) (p : SimPort) :
    device.writeAll calls p data = some (p.written data) := by
  induction calls generalizing p data with
  | zero =>
    obtain rfl : data = [] := List.length_eq_zero_iff.1 (Nat.le_zero.1 h)
    rfl
  | succ calls ih =>
    by_cases hne : data = []
    · subst hne
      rfl
    · have hoffer : device.offer p data = p.offer data := rfl
      rw [Device.writeAll_turn hne, written_turn hne, hoffer]
      split
      · next hp =>
        have hcount := count_pos hp
        exact ih (by rw [List.length_drop]; omega) _
      · rfl

/-- **A complete write follows its closed form.** An unplugged port, an armed timeout, a spent
budget and a port that takes nothing end the write at once, the first of them that there is; of the
port only the timeout or one of the budget is used up. Otherwise the data is taken in chunks of one
size, all but the last of that size, as far as the budget goes, and the write succeeds if it goes as
far as the last chunk. The write loop needs no more calls than there are octets, and none of them is
a flush. -/
theorem writeAll_follows_closed_form (p : SimPort) (data : Bytes) {calls : ℕ}
    (hcalls : data.length ≤ calls) :
    device.writeAll calls p data = some (p.written data) ∧
      (∃ log, device.recorded.writeAll calls (p, []) data =
          some ((p.written data).1, (p.written data).2, log) ∧
        ∀ call ∈ log, ∃ rest answer, call = .offered rest answer) ∧
      (data ≠ [] → p.maxChunk ≠ some 0 →
        (chunks (p.chunkSize data) data).flatten = data ∧
          (chunks (p.chunkSize data) data).length = data.length ⌈/⌉ p.chunkSize data ∧
          ∀ piece ∈ (chunks (p.chunkSize data) data).dropLast,
            piece.length = p.chunkSize data) := by
  have hwritten := writeAll_eq_written hcalls p
  refine ⟨hwritten, ?_, fun hne hm => ?_⟩
  · obtain ⟨log, hlog, hle⟩ :=
      Device.exists_finishes (hwritten : _ = some ((p.written data).1, (p.written data).2))
    refine ⟨log, hlog.writeAll_recorded hle [], fun call hcall => ?_⟩
    obtain ⟨front, back, hsplit⟩ := List.append_of_mem hcall
    obtain ⟨rest, answer, hoffered, -⟩ := hlog.offersRest front call back hsplit
    exact ⟨rest, answer, hoffered⟩
  · obtain ⟨hflat, hfull⟩ := chunks_spec (chunkSize_pos hne hm) data
    exact ⟨hflat, length_chunks _ _, hfull⟩

/-- A port with something in its log that takes two octets at a time, and no more than twice. -/
def limited : SimPort :=
  { log := [[9]], budget := some 2, maxChunk := some 2, flushUnsupported := true }

theorem writeAll_follows_closed_form_limited :
    [1, 2, 3, 4, 5].length ≤ 5 ∧
      device.writeAll 5 limited [1, 2, 3, 4, 5] =
        some (.failed spent, { limited with log := [[9], [1, 2], [3, 4]], budget := some 0 }) ∧
      [1, 2, 3].length ≤ 5 ∧
      device.writeAll 5 limited [1, 2, 3] =
        some (.done, { limited with log := [[9], [1, 2], [3]], budget := some 0 }) ∧
      [1, 2, 3] ≠ [] ∧ limited.maxChunk ≠ some 0 ∧
      (chunks (limited.chunkSize [1, 2, 3]) [1, 2, 3]).length = 3 ⌈/⌉ 2 := by
  have hfits : ([1, 2, 3, 4, 5] : Bytes).length ≤ 5 ∧ ([1, 2, 3] : Bytes).length ≤ 5 := by decide
  obtain ⟨hfive, -, -⟩ := writeAll_follows_closed_form limited _ hfits.1
  obtain ⟨hthree, -, hchunks⟩ := writeAll_follows_closed_form limited _ hfits.2
  exact ⟨hfits.1, hfive, hfits.2, hthree, by decide, by decide,
    (hchunks (by decide) (by decide)).2.1⟩

end SimPort

end SerialRelay

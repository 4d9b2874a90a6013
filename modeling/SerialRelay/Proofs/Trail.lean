import Mathlib.Tactic.Common

/-!
# Moves one after the other

A step may refuse a move. Moves are made in turn by `List.foldlM`, which comes to nothing at the
first one that is refused; schedules of a relay, arrivals at a writer and the moves of a feed are
all of this kind.

* `trail`: the moves that are made, each with the state it is made in.
* `foldlM_trail`: what every step keeps of a state and of the trail behind it, the moves keep.
* `foldlM_keeps`: the same of the state alone.
-/

namespace SerialRelay

variable {σ μ : Type*} {step : σ → μ → Option σ} {ms more : List μ} {s s' : σ}

/-- **The moves that are made**, each with the state it is made in. -/
def trail (step : σ → μ → Option σ) : List μ → σ → List (σ × μ)
  | [], _ => []
  | m :: ms, s =>
    match step s m with
    | some s' => (s, m) :: trail step ms s'
    | none => []

theorem foldlM_cons_eq_some {m : μ} :
    (m :: ms).foldlM step s = some s' ↔ ∃ s₁, step s m = some s₁ ∧ ms.foldlM step s₁ = some s' := by
  rw [List.foldlM_cons]
  exact Option.bind_eq_some_iff

theorem foldlM_append_eq_some :
    (ms ++ more).foldlM step s = some s' ↔
      ∃ s₁, ms.foldlM step s = some s₁ ∧ more.foldlM step s₁ = some s' := by
  rw [List.foldlM_append]
  exact Option.bind_eq_some_iff

/-- What is noted of some moves, and of one more. -/
theorem filterMap_concat {α β : Type*} (note : α → Option β) (past : List α) (a : α) :
    (past ++ [a]).filterMap note = past.filterMap note ++ (note a).toList := by
  rw [List.filterMap_append]
  cases h : note a <;> simp [h]

/-- Where no move is refused, all of them are made. -/
theorem map_snd_trail (h : ms.foldlM step s = some s') : (trail step ms s).map Prod.snd = ms := by
  induction ms generalizing s with
  | nil => rfl
  | cons m ms ih =>
    obtain ⟨s₁, h₁, h₂⟩ := foldlM_cons_eq_some.1 h
    rw [trail, h₁, List.map_cons, ih h₂]

/-- **What every step keeps of a state and of the trail behind it**, the moves keep. -/
theorem foldlM_trail {P : σ → List (σ × μ) → Prop}
    (hstep : ∀ q q' past, ∀ m ∈ ms, P q past → step q m = some q' → P q' (past ++ [(q, m)]))
    (hs : P s []) (h : ms.foldlM step s = some s') : P s' (trail step ms s) := by
  -- the trail of the later moves has the first one before it, so the property varies as well
  induction ms generalizing s P with
  | nil =>
    cases h
    exact hs
  | cons m ms ih =>
    obtain ⟨s₁, h₁, h₂⟩ := foldlM_cons_eq_some.1 h
    have hfirst : P s₁ [(s, m)] := hstep s s₁ [] m List.mem_cons_self hs h₁
    rw [trail, h₁]
    exact ih (P := fun q past => P q ((s, m) :: past))
      (fun q q' past m' hm => hstep q q' ((s, m) :: past) m' (List.mem_cons_of_mem _ hm)) hfirst h₂

/-- **What every step keeps, the moves keep.** -/
theorem foldlM_keeps {P : σ → Prop} (hstep : ∀ m ∈ ms, ∀ q q', P q → step q m = some q' → P q')
    (hs : P s) (h : ms.foldlM step s = some s') : P s' :=
  foldlM_trail (P := fun q _ => P q) (fun q q' _ m hm => hstep m hm q q') hs h

end SerialRelay

import SerialRelay.Port.Device
import SerialRelay.Proofs.Relay.Attachment

/-!
# Deliveries through handles

Handles of one number are clones: they lead to one device. A delivery through a handle finds its
device as the last one has left it, whatever came of that, and changes no other. So deliveries
through handles, in whatever order they come, are for each device the deliveries to it alone.

* `Device.deliverTo`, `Device.deliverAll`: deliveries through handles on some devices.
* `Device.deliverEach`: deliveries to one device.
* `Device.deliverEach_of_deliverAll`, `Device.deliverAll_isSome_iff`: deliveries through handles are
  those to each device.
-/

namespace SerialRelay

variable {σ : Type}

/-- The data among writes that are for one device. -/
def dataFor (device : ℕ) (writes : List (Handle × Bytes)) : List Bytes :=
  (writes.filter (·.1.device = device)).map Prod.snd

/-- The results among calls on one device. -/
def resultsFor (device : ℕ) (done : List Call) : List (Except PortError Unit) :=
  (done.filter (·.handle.device = device)).map Call.result

section

variable {device : ℕ} {w : Handle × Bytes} {writes : List (Handle × Bytes)} {c : Call}
  {done : List Call}

theorem dataFor_cons_of_eq (h : w.1.device = device) :
    dataFor device (w :: writes) = w.2 :: dataFor device writes := by
  simp [dataFor, h]

theorem dataFor_cons_of_ne (h : w.1.device ≠ device) :
    dataFor device (w :: writes) = dataFor device writes := by
  simp [dataFor, h]

theorem resultsFor_cons_of_eq (h : c.handle.device = device) :
    resultsFor device (c :: done) = c.result :: resultsFor device done := by
  simp [resultsFor, h]

theorem resultsFor_cons_of_ne (h : c.handle.device ≠ device) :
    resultsFor device (c :: done) = resultsFor device done := by
  simp [resultsFor, h]

end

namespace Device

section

variable (d : Device σ) (calls : ℕ)

/-- A delivery through a handle on one of some devices; there is nothing to deliver to beyond them.
All handles of one number are clones. -/
def deliverTo (ports : List σ) (h : Handle) (data : Bytes) :
    Option (Except PortError Unit × List σ) :=
  match ports[h.device]? with
  | none => some (.error .notOpen, ports)
  | some s => (d.deliver calls s data).map fun r => (r.1, ports.set h.device r.2)

/-- **Deliveries through handles**, one after the other, whatever comes of them. -/
def deliverAll : List σ → List (Handle × Bytes) → Option (List Call × List σ)
  | ports, [] => some ([], ports)
  | ports, (h, data) :: later =>
    (d.deliverTo calls ports h data).bind fun r =>
      (deliverAll r.2 later).map fun q => (⟨h, data, r.1⟩ :: q.1, q.2)

/-- **Deliveries to one device**, one after the other, whatever comes of them. -/
def deliverEach : σ → List Bytes → Option (List (Except PortError Unit) × σ)
  | s, [] => some ([], s)
  | s, data :: later =>
    (d.deliver calls s data).bind fun r => (deliverEach r.2 later).map fun q => (r.1 :: q.1, q.2)

end

variable {d : Device σ} {calls : ℕ}

theorem deliverTo_of_none {ports : List σ} {h : Handle} (hs : ports[h.device]? = none)
    (data : Bytes) :
    d.deliverTo calls ports h data = some (.error .notOpen, ports) := by
  rw [deliverTo, hs]

theorem deliverTo_of_some {ports : List σ} {h : Handle} {s : σ} (hs : ports[h.device]? = some s)
    (data : Bytes) :
    d.deliverTo calls ports h data = (d.deliver calls s data).map fun r =>
      (r.1, ports.set h.device r.2) := by
  rw [deliverTo, hs]

/-- What a delivery through a handle does: nothing where there is no device, else a delivery to
it. -/
theorem deliverTo_cases {ports ports' : List σ} {h : Handle} {data : Bytes}
    {x : Except PortError Unit} (hto : d.deliverTo calls ports h data = some (x, ports')) :
    ports[h.device]? = none ∧ ports' = ports ∨
      ∃ s t, ports[h.device]? = some s ∧ d.deliver calls s data = some (x, t) ∧
        ports' = ports.set h.device t := by
  cases hs : ports[h.device]? with
  | none =>
    rw [deliverTo_of_none hs] at hto
    cases hto
    exact .inl ⟨rfl, rfl⟩
  | some s =>
    rw [deliverTo_of_some hs, Option.map_eq_some_iff] at hto
    obtain ⟨⟨y, t⟩, hd, heq⟩ := hto
    obtain ⟨rfl, rfl⟩ := Prod.mk.inj heq
    exact .inr ⟨s, t, rfl, hd, rfl⟩

/-- **One delivery changes its own device only**, as a delivery to it does. -/
theorem deliverTo_getElem? {ports ports' : List σ} {h : Handle} {data : Bytes}
    {x : Except PortError Unit} (hto : d.deliverTo calls ports h data = some (x, ports')) {k : ℕ}
    {s : σ} (hs : ports[k]? = some s) :
    ∃ t, ports'[k]? = some t ∧
      if h.device = k then d.deliver calls s data = some (x, t) else t = s := by
  rcases deliverTo_cases hto with ⟨hnone, rfl⟩ | ⟨s', t, hs', hd, rfl⟩
  · have hk : h.device ≠ k := by
      rintro rfl
      rw [hnone] at hs
      cases hs
    exact ⟨s, hs, by rw [if_neg hk]⟩
  · by_cases hk : h.device = k
    · subst hk
      obtain rfl := Option.some.inj (hs'.symm.trans hs)
      exact ⟨t, List.getElem?_set_self (List.getElem?_eq_some_iff.1 hs).1, by rwa [if_pos rfl]⟩
    · exact ⟨s, by rwa [List.getElem?_set_ne hk], by rw [if_neg hk]⟩

theorem length_deliverTo {ports ports' : List σ} {h : Handle} {data : Bytes}
    {x : Except PortError Unit} (hto : d.deliverTo calls ports h data = some (x, ports')) :
    ports'.length = ports.length := by
  rcases deliverTo_cases hto with ⟨-, rfl⟩ | ⟨s, t, -, -, rfl⟩
  · rfl
  · exact List.length_set

/-- The first of some deliveries, and the others on what it leaves. -/
theorem deliverAll_cons {ports ports' : List σ} {w : Handle × Bytes} {later : List (Handle × Bytes)}
    {done : List Call} (hall : d.deliverAll calls ports (w :: later) = some (done, ports')) :
    ∃ x u rest, d.deliverTo calls ports w.1 w.2 = some (x, u) ∧
      d.deliverAll calls u later = some (rest, ports') ∧ done = ⟨w.1, w.2, x⟩ :: rest := by
  rw [deliverAll, Option.bind_eq_some_iff] at hall
  obtain ⟨⟨x, u⟩, hto, hmap⟩ := hall
  obtain ⟨⟨rest, q⟩, hrest, heq⟩ := Option.map_eq_some_iff.1 hmap
  obtain ⟨rfl, rfl⟩ := Prod.mk.inj heq
  exact ⟨x, u, rest, hto, hrest, rfl⟩

theorem deliverAll_append (ports : List σ) (before later : List (Handle × Bytes)) :
    d.deliverAll calls ports (before ++ later) =
      (d.deliverAll calls ports before).bind fun r =>
        (d.deliverAll calls r.2 later).map fun q => (r.1 ++ q.1, q.2) := by
  induction before generalizing ports with
  | nil => simp [deliverAll]
  | cons w before ih =>
    rw [List.cons_append, deliverAll, deliverAll, Option.bind_assoc]
    refine congrArg _ (funext fun r => ?_)
    rw [ih, Option.map_bind, Option.bind_map]
    refine congrArg _ (funext fun q => ?_)
    simp [Function.comp_def]

theorem target_of_deliverAll {ports ports' : List σ} {writes : List (Handle × Bytes)}
    {done : List Call} (hall : d.deliverAll calls ports writes = some (done, ports')) :
    done.map Call.target = writes := by
  induction writes generalizing ports done with
  | nil => cases hall; rfl
  | cons w later ih =>
    obtain ⟨x, u, rest, -, hrest, rfl⟩ := deliverAll_cons hall
    exact congrArg (w :: ·) (ih hrest)

/-- **Deliveries through handles are for each device those to it alone**, in their order. -/
theorem deliverEach_of_deliverAll {ports ports' : List σ} {writes : List (Handle × Bytes)}
    {done : List Call} (hall : d.deliverAll calls ports writes = some (done, ports')) {k : ℕ}
    {s : σ} (hs : ports[k]? = some s) :
    ∃ t, ports'[k]? = some t ∧
      d.deliverEach calls s (dataFor k writes) = some (resultsFor k done, t) := by
  induction writes generalizing ports done s with
  | nil => cases hall; exact ⟨s, hs, rfl⟩
  | cons w later ih =>
    obtain ⟨x, u, rest, hto, hrest, rfl⟩ := deliverAll_cons hall
    obtain ⟨s', hs', hstep⟩ := deliverTo_getElem? hto hs
    obtain ⟨t, ht, heach⟩ := ih hrest hs'
    refine ⟨t, ht, ?_⟩
    by_cases hk : w.1.device = k
    · rw [if_pos hk] at hstep
      rw [dataFor_cons_of_eq hk, resultsFor_cons_of_eq hk, deliverEach, hstep,
        Option.bind_some, heach]
      rfl
    · rw [if_neg hk] at hstep
      rw [dataFor_cons_of_ne hk, resultsFor_cons_of_ne hk, ← hstep, heach]

/-- Deliveries through handles end exactly if those to each device do. -/
theorem deliverAll_isSome_iff {ports : List σ} {writes : List (Handle × Bytes)} :
    (d.deliverAll calls ports writes).isSome ↔
      ∀ k s, ports[k]? = some s → (d.deliverEach calls s (dataFor k writes)).isSome := by
  constructor
  · intro hall k s hs
    obtain ⟨⟨done, ports'⟩, hall⟩ := Option.isSome_iff_exists.1 hall
    obtain ⟨t, -, heach⟩ := deliverEach_of_deliverAll hall hs
    rw [heach]
    rfl
  · intro heach
    induction writes generalizing ports with
    | nil => rfl
    | cons w later ih =>
      have hto : (d.deliverTo calls ports w.1 w.2).isSome := by
        cases hs : ports[w.1.device]? with
        | none => rw [deliverTo_of_none hs]; rfl
        | some s =>
          have hd := heach w.1.device s hs
          rw [dataFor_cons_of_eq rfl, deliverEach, Option.isSome_bind] at hd
          rw [deliverTo_of_some hs, Option.isSome_map]
          exact Option.isSome_of_any hd
      obtain ⟨⟨x, u⟩, hto⟩ := Option.isSome_iff_exists.1 hto
      rw [deliverAll, hto, Option.bind_some, Option.isSome_map]
      refine ih fun k t ht => ?_
      have hlt : k < ports.length := length_deliverTo hto ▸ (List.getElem?_eq_some_iff.1 ht).1
      have hs := List.getElem?_eq_getElem hlt
      obtain ⟨t', ht', hstep⟩ := deliverTo_getElem? hto hs
      obtain rfl := Option.some.inj (ht.symm.trans ht')
      have hd := heach k _ hs
      by_cases hk : w.1.device = k
      · rw [if_pos hk] at hstep
        rwa [dataFor_cons_of_eq hk, deliverEach, hstep, Option.bind_some, Option.isSome_map] at hd
      · rw [if_neg hk] at hstep
        rwa [dataFor_cons_of_ne hk, ← hstep] at hd

end Device

end SerialRelay

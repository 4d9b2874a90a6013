/-!
# Port aliases

Short names for ports. A name is looked up once, and a name without an alias stands for itself.
-/

namespace SerialRelay

/-- Aliases and the names they stand for; an alias occurs once. -/
structure Aliases where
  entries : List (String × String) := []
  nodup : (entries.map Prod.fst).Nodup := by exact List.nodup_nil
  deriving DecidableEq, Repr

namespace Aliases

/-- Puts an alias in place of the same one, or behind the others. -/
def put (name target : String) : List (String × String) → List (String × String)
  | [] => [(name, target)]
  | (k, v) :: es => if k = name then (name, target) :: es else (k, v) :: put name target es

theorem mem_put_fst {name target x : String} {es : List (String × String)} :
    x ∈ (put name target es).map Prod.fst ↔ x = name ∨ x ∈ es.map Prod.fst := by
  induction es with
  | nil => simp [put]
  | cons e es ih =>
    obtain ⟨k, v⟩ := e
    unfold put
    split
    · next h => subst h; simp
    · simp only [List.map_cons, List.mem_cons, ih]
      constructor <;> rintro (h | h | h) <;> simp [h]

theorem nodup_put {name target : String} {es : List (String × String)}
    (h : (es.map Prod.fst).Nodup) : ((put name target es).map Prod.fst).Nodup := by
  induction es with
  | nil => simp [put]
  | cons e es ih =>
    obtain ⟨k, v⟩ := e
    simp only [List.map_cons, List.nodup_cons] at h
    unfold put
    split
    · next hk => subst hk; simpa using h
    · next hk =>
      simp only [List.map_cons, List.nodup_cons, mem_put_fst]
      exact ⟨fun hx => hx.elim hk h.1, ih h.2⟩

/-- The aliases with one more, or with another target for one. -/
def insert (a : Aliases) (name target : String) : Aliases :=
  ⟨put name target a.entries, nodup_put a.nodup⟩

/-- Aliases from a list; of several with one name the last counts. -/
def ofList (es : List (String × String)) : Aliases := es.foldl (fun a e => a.insert e.1 e.2) {}

/-- **The name behind a name**. -/
def resolve (a : Aliases) (name : String) : String := (a.entries.lookup name).getD name

end Aliases

end SerialRelay

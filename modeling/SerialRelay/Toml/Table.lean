import SerialRelay.Toml.Value

/-!
# Building tables

What a header and a key may add to the tables that are there. A key never replaces a value; a table
is opened by one header only; a dotted key extends only tables that dotted keys made.
-/

namespace SerialRelay.Toml

/-- Changes the value of a key, or adds one; a change may be refused. -/
def modify (key : String) (f : Option Value → Option Value) : Entries → Option Entries
  | [] => (f none).map fun v => [(key, v)]
  | (k, v) :: es =>
    if k = key then (f (some v)).map fun v => (k, v) :: es
    else (modify key f es).map ((k, v) :: ·)

/-- Changes the last of several tables. -/
def modifyLast (f : Entries → Option Entries) : List Entries → Option (List Entries)
  | [] => none
  | [es] => (f es).map ([·])
  | es :: more => (modifyLast f more).map (es :: ·)

/-- A new value where there is none yet. -/
def fresh (v : Value) : Option Value → Option Value
  | none => some v
  | some _ => none

/-- **Adds a value under a dotted key**, `path` before its last part. -/
def insert : (path : List String) → (key : String) → Value → Entries → Option Entries
  | [], key, v, es => modify key (fresh v) es
  | k :: path, key, v, es =>
    modify k
      (fun old =>
        match old with
        | none => (insert path key v []).map (.table .dotted)
        | some (.table .dotted sub) => (insert path key v sub).map (.table .dotted)
        | some (.table .implied sub) =>
          if path.isEmpty then none else (insert path key v sub).map (.table .implied)
        | some (.tables items) =>
          if path.isEmpty then none else (modifyLast (insert path key v) items).map .tables
        | _ => none)
      es

/-- Changes the value that a header names; tables on the way are implied. -/
def atHeader : (path : List String) → (key : String) → (Option Value → Option Value) → Entries →
    Option Entries
  | [], key, f, es => modify key f es
  | k :: path, key, f, es =>
    modify k
      (fun old =>
        match old with
        | none => (atHeader path key f []).map (.table .implied)
        | some (.table .inline _) => none
        | some (.table form sub) => (atHeader path key f sub).map (.table form)
        | some (.tables items) => (modifyLast (atHeader path key f) items).map .tables
        | _ => none)
      es

/-- A table that a header opens: a new one, or one that was only implied. -/
def opened : Option Value → Option Value
  | none => some (.table .header [])
  | some (.table .implied es) => some (.table .header es)
  | _ => none

/-- One more table under a repeated header. -/
def repeated : Option Value → Option Value
  | none => some (.tables [[]])
  | some (.tables items) => some (.tables (items ++ [[]]))
  | _ => none

/-- A change within the table that a header has opened. -/
def within (f : Entries → Option Entries) : Option Value → Option Value
  | some (.table form es) => (f es).map (.table form)
  | some (.tables items) => (modifyLast f items).map .tables
  | _ => none

/-- A dotted key: the parts before the last one, and the last. -/
structure Path where
  parents : List String
  key : String
  deriving DecidableEq, Repr

/-- A line of a document. -/
inductive Statement where
  | header (path : Path)
  | repeatedHeader (path : Path)
  | entry (path : Path) (value : Value)
  deriving Repr

/-- A document that is being read: its tables, and the header that the next entries belong to. -/
structure Draft where
  root : Entries := []
  current? : Option Path := none

/-- **The effect of one statement**. -/
def Draft.add (d : Draft) : Statement → Option Draft
  | .header p => (atHeader p.parents p.key opened d.root).map (⟨·, some p⟩)
  | .repeatedHeader p => (atHeader p.parents p.key repeated d.root).map (⟨·, some p⟩)
  | .entry p v =>
    match d.current? with
    | none => (insert p.parents p.key v d.root).map (⟨·, none⟩)
    | some h =>
      (atHeader h.parents h.key (within (insert p.parents p.key v)) d.root).map (⟨·, some h⟩)

/-- **The table that statements build**, unless one of them is refused. -/
def assemble (statements : List Statement) : Option Entries :=
  (statements.foldlM Draft.add {}).map Draft.root

/-- The table between braces. -/
def assembleInline (entries : List (Path × Value)) : Option Entries :=
  entries.foldlM (fun es (p, v) => insert p.parents p.key v es) []

end SerialRelay.Toml

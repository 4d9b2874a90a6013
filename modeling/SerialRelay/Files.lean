import SerialRelay.Port.Error
import SerialRelay.Text.Utf8

/-!
# Files

A tree of directories and files, and the paths that lead through it. A path is walked part by part
from the current directory, or from the top if it starts with a slash: an empty part and a dot stay,
two dots go up, and only a directory can be walked through. A path that is too long leads nowhere,
also if a shorter one for the same place would not. Devices stand in the tree as files do: the
input and the output of a run, its terminals, and some that keep nothing.

* `Files.find?`: what a path leads to.
* `Files.makeParents`: the directories above a path, made where they are missing.
* `Files.write`: a new content for a file.
-/

namespace SerialRelay

/-- The names from the top of the tree down. -/
abbrev Location := List String

/-- What stands at a location. -/
inductive Node where
  | file (content : Bytes)
  | directory
  /-- Another name of a directory. -/
  | link (target : Location)
  /-- Reads as empty and swallows what is written. -/
  | sink
  /-- Can be neither read nor written. -/
  | locked
  /-- The input of a run. -/
  | input (content : Bytes)
  /-- The output of a run. -/
  | output
  /-- A terminal, by its number. -/
  | terminal (device : Nat)
  deriving DecidableEq, Repr

structure Files where
  nodes : List (Location × Node) := []
  /-- The current directory. -/
  here : Location := []
  deriving DecidableEq, Repr

/-- A path taken apart at its slashes. -/
structure PathParts where
  absolute : Bool
  parts : List String
  deriving DecidableEq, Repr

def splitPath (path : String) : PathParts :=
  match path.toList.splitOn '/' with
  | [] :: first :: rest => ⟨true, (first :: rest).map String.ofList⟩
  | parts => ⟨false, parts.map String.ofList⟩

/-- The path of its parts. -/
def PathParts.text (p : PathParts) : String :=
  (if p.absolute then "/" else "") ++ "/".intercalate p.parts

/-- A path that can be walked: not empty, 4095 octets at most, and no NUL among them. -/
def isPath (path : String) : Bool :=
  !path.isEmpty && path.utf8ByteSize ≤ 4095 && !path.toList.contains '\x00'

/-- A part that does not move. -/
def isStay (part : String) : Bool := part == "" || part == "."

/-- A name that a directory can hold: 255 octets at most. -/
def isName (part : String) : Bool := part.utf8ByteSize ≤ 255

/-- The names on a path. -/
def PathParts.names (p : PathParts) : List String := p.parts.filter (!isStay ·)

/-- Parts without those at the end that do not move. -/
def trimStays (parts : List String) : List String := (parts.reverse.dropWhile isStay).reverse

/-- What leads to the last name of a path; dots and slashes behind that name do not count. -/
def PathParts.parent (p : PathParts) : PathParts :=
  { p with parts := trimStays (trimStays p.parts).dropLast }

namespace Files

/-- Puts a node at a location. -/
def put (fs : Files) (place : Location) (n : Node) : Files :=
  { fs with nodes := (place, n) :: fs.nodes.filter (·.1 != place) }

/-- What stands at a location; the top is a directory. -/
def node? (fs : Files) (place : Location) : Option Node :=
  if place.isEmpty then some .directory else fs.nodes.lookup place

def isDirectory (fs : Files) (place : Location) : Bool := fs.node? place = some .directory

/-- Where a location leads: a link leads to its target. -/
def follow (fs : Files) (place : Location) : Location :=
  match fs.node? place with
  | some (.link target) => target
  | _ => place

/-- Where the parts of a path lead from a location, through directories only. -/
def walk (fs : Files) : Location → List String → Option Location
  | place, [] => some place
  | place, part :: parts =>
    if !fs.isDirectory place then none
    else if isStay part then walk fs place parts
    else if part == ".." then walk fs place.dropLast parts
    else if isName part then walk fs (fs.follow (place ++ [part])) parts
    else none

/-- Where the parts of a path start. -/
def start (fs : Files) (path : PathParts) : Location := if path.absolute then [] else fs.here

/-- The location of a path. -/
def locate (fs : Files) (path : String) : Option Location :=
  if isPath path then
    let split := splitPath path
    fs.walk (fs.start split) split.parts
  else none

/-- **What a path leads to**. -/
def find? (fs : Files) (path : String) : Option Node := (fs.locate path).bind fs.node?

def exists? (fs : Files) (path : String) : Bool := (fs.find? path).isSome

/-- **The content of the file at a path**. -/
def read (fs : Files) (path : String) : Except IoError Bytes :=
  match fs.find? path with
  | some (.file content) => .ok content
  | some (.input content) => .ok content
  | some .sink => .ok []
  | some .directory => .error ⟨.other, .text "is a directory"⟩
  | some _ => .error ⟨.other, .plain⟩
  | none => .error ⟨.notFound, .plain⟩

/-- Directories along the parts of a path, made where they are missing, and whether all are there.
What has been made stays, also if a later one cannot be. -/
def makeFrom (fs : Files) : Location → List String → Files × Bool
  | _, [] => (fs, true)
  | place, part :: parts =>
    if isStay part then makeFrom fs place parts
    else if part == ".." then makeFrom fs place.dropLast parts
    else if !isName part then (fs, false)
    else
      let next := fs.follow (place ++ [part])
      match fs.node? next with
      | some .directory => makeFrom fs next parts
      | some _ => (fs, false)
      | none => makeFrom (fs.put next .directory) next parts

/-- **The directories above a path**, made where they are missing, and whether all are there. -/
def makeParents (fs : Files) (path : String) : Files × Bool :=
  let parent := (splitPath path).parent
  if parent.parts.isEmpty then (fs, true)
  else if isPath parent.text then fs.makeFrom (fs.start parent) parent.parts
  else (fs, false)

/-- **A new content for the file at a path**; its directory has to be there. A device takes what is
written, and the files stay as they are. -/
def write (fs : Files) (path : String) (content : Bytes) : Option Files := do
  let place ← fs.locate path
  let last ← (splitPath path).parts.getLast?
  if isStay last || last == ".." then none
  else
    match fs.node? place with
    | none => some (fs.put place (.file content))
    | some (.file _) => some (fs.put place (.file content))
    | some .directory => none
    | some .locked => none
    | some _ => some fs

/-- Adds what stands at a path, with the directories above it. -/
def add (fs : Files) (path : String) (n : Node) : Option Files :=
  let split := splitPath path
  let parts := split.names
  let made := fs.makeFrom (fs.start split) (if n = .directory then parts else parts.dropLast)
  if !made.2 then none
  else if n = .directory then some made.1
  else some (made.1.put (fs.start split ++ parts) n)

end Files

end SerialRelay

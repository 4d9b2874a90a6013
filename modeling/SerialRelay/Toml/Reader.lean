import SerialRelay.Toml.Scalar
import SerialRelay.Toml.Table
import SerialRelay.Toml.Text

/-!
# Reading TOML

A document is read line by line into statements, which then build a table. Arrays and tables between
braces nest less than `maxNesting` deep, and dotted keys have fewer parts.

* `readValue`: one value, and what follows it.
* `statements`: the lines of a document.
* `parse`: the table of a document.
-/

namespace SerialRelay.Toml

/-- The depth of nesting and the number of key parts that are refused. -/
def maxNesting : Nat := 80

def isBareKeyChar (c : Char) : Bool := c.isAlphanum || c == '_' || c == '-'

/-- Drops spaces and tabs. -/
def skipBlanks (cs : List Char) : List Char := cs.dropWhile isSpace

/-- One part of a key: bare, or a string on one line. -/
def readKeyPart : List Char → Option (List Char × List Char)
  | '"' :: rest => basicBody rest
  | '\'' :: rest => literalBody rest
  | cs =>
    match cs.takeWhile isBareKeyChar with
    | [] => none
    | key => some (key, cs.dropWhile isBareKeyChar)

/-- The parts of a dotted key, at most `n` of them, and the blanks behind. -/
def readKeyParts : (n : Nat) → List Char → Option (List String × List Char)
  | 0, _ => none
  | n + 1, cs => do
    let (part, rest) ← readKeyPart (skipBlanks cs)
    let part := String.ofList part
    match skipBlanks rest with
    | '.' :: more =>
      let (parts, rest) ← readKeyParts n more
      some (part :: parts, rest)
    | rest => some ([part], rest)

/-- A key of those parts. -/
def Path.ofParts? : List String → Option Path
  | [] => none
  | [key] => some ⟨[], key⟩
  | k :: parts => (Path.ofParts? parts).map fun p => ⟨k :: p.parents, p.key⟩

/-- **A key**, with the blanks around it. -/
def readKey (cs : List Char) : Option (Path × List Char) := do
  let (parts, rest) ← readKeyParts (maxNesting - 1) cs
  let path ← Path.ofParts? parts
  return (path, rest)

/-- Drops a comment up to the end of its line. -/
def skipComment : List Char → List Char
  | '#' :: rest => rest.dropWhile (!isControl ·)
  | cs => cs

/-- What follows blanks, a comment and a line break, or the end of the document. -/
def afterLine? (cs : List Char) : Option (List Char) :=
  match skipComment (skipBlanks cs) with
  | [] => some []
  | rest => afterNewline? rest

/-- Drops blanks, comments and line breaks, as they may stand between the items of an array: all of
them if the fuel is no less than the number of characters. -/
def skipLines : (fuel : Nat) → List Char → Option (List Char)
  | 0, cs => some cs
  | n + 1, cs =>
    let rest := skipBlanks cs
    match rest with
    | '#' :: _ => (afterNewline? (skipComment rest)).bind (skipLines n)
    | _ =>
      match afterNewline? rest with
      | some more => skipLines n more
      | none => some rest

/-- The items of an array up to its closing bracket. The fuel is more than the number of characters,
and stays so, since an item and its comma are two. -/
def readItems (value : List Char → Option (Value × List Char)) :
    (fuel : Nat) → List Char → Option (List Value × List Char)
  | 0, _ => none
  | n + 1, cs => do
    match ← skipLines n cs with
    | ']' :: rest => some ([], rest)
    | start =>
      let (v, rest) ← value start
      match ← skipLines n rest with
      | ',' :: rest =>
        let (vs, rest) ← readItems value n rest
        some (v :: vs, rest)
      | ']' :: rest => some ([v], rest)
      | _ => none

/-- A key, the sign between, and a value. -/
def readPair (value : List Char → Option (Value × List Char)) (cs : List Char) :
    Option ((Path × Value) × List Char) := do
  let (path, rest) ← readKey cs
  match rest with
  | '=' :: rest =>
    let (v, rest) ← value (skipBlanks rest)
    some ((path, v), rest)
  | _ => none

/-- The entries of a table between braces, from the first one on. -/
def readPairs (value : List Char → Option (Value × List Char)) :
    (fuel : Nat) → List Char → Option (List (Path × Value) × List Char)
  | 0, _ => none
  | n + 1, cs => do
    let (pair, rest) ← readPair value cs
    match skipBlanks rest with
    | ',' :: rest =>
      let (pairs, rest) ← readPairs value n rest
      some (pair :: pairs, rest)
    | '}' :: rest => some ([pair], rest)
    | _ => none

/-- A table between braces, behind the opening one. -/
def readInline (value : List Char → Option (Value × List Char)) (cs : List Char) :
    Option (Value × List Char) :=
  match skipBlanks cs with
  | '}' :: rest => some (.table .inline [], rest)
  | start => do
    let (pairs, rest) ← readPairs value start.length start
    let es ← assembleInline pairs
    return (.table .inline es, rest)

/-- **A value**, with room for so many levels of nesting. -/
def readValue : (room : Nat) → List Char → Option (Value × List Char)
  | room, cs =>
    match cs with
    | '"' :: _ => (readString cs).map fun (s, rest) => (.string (String.ofList s), rest)
    | '\'' :: _ => (readString cs).map fun (s, rest) => (.string (String.ofList s), rest)
    | '[' :: rest =>
      match room with
      | 0 => none
      | n + 1 => (readItems (readValue n) (rest.length + 1) rest).map fun (vs, r) => (.array vs, r)
    | '{' :: rest =>
      match room with
      | 0 => none
      | n + 1 => readInline (readValue n) rest
    | _ => readScalarValue cs

/-- A header up to the end of its line, behind its opening brackets. -/
def readHeader (close : Char) (count : Nat) (cs : List Char) : Option (Path × List Char) := do
  let (path, rest) ← readKey cs
  if rest.take count = List.replicate count close then
    let rest ← afterLine? (rest.drop count)
    some (path, rest)
  else none

/-- A statement up to the end of its line. -/
def readStatement (cs : List Char) : Option (Statement × List Char) :=
  match cs with
  | '[' :: '[' :: rest => (readHeader ']' 2 rest).map fun (p, rest) => (.repeatedHeader p, rest)
  | '[' :: rest => (readHeader ']' 1 rest).map fun (p, rest) => (.header p, rest)
  | cs => do
    let ((path, v), rest) ← readPair (readValue (maxNesting - 1)) cs
    let rest ← afterLine? rest
    some (.entry path v, rest)

/-- **The statements of a document**; each takes a line at least. -/
def statements : (fuel : Nat) → List Char → Option (List Statement)
  | 0, _ => none
  | n + 1, cs =>
    match skipBlanks cs with
    | [] => some []
    | c :: rest =>
      if c == '#' || c == '\n' || c == '\r' then (afterLine? (c :: rest)).bind (statements n)
      else do
        let (s, rest) ← readStatement (c :: rest)
        return s :: (← statements n rest)

/-- A document without the mark that may stand before it. -/
def dropMark : List Char → List Char
  | '\ufeff' :: cs => cs
  | cs => cs

/-- **The table of a document**, if it is one. -/
def parse (document : String) : Option Entries :=
  let cs := dropMark document.toList
  (statements (cs.length + 1) cs).bind assemble

end SerialRelay.Toml

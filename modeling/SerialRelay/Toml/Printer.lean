import SerialRelay.Toml.Text

/-!
# Writing TOML strings

A string is written in the first form that shows it without escapes, as far as there is one.

* `Style.of`: the form of a string.
* `quote`: a string in its form.
* `key`: a key, bare if it can be.
-/

namespace SerialRelay.Toml

/-- The forms of a string. -/
inductive Style where
  | basic
  | literal
  | mlBasic
  | mlLiteral
  deriving DecidableEq, Repr

/-- Whether a quote occurs `n` times in a row. -/
def hasRun (q : Char) (n : Nat) (cs : List Char) : Bool :=
  match cs with
  | [] => n == 0
  | c :: rest => (List.replicate n q).isPrefixOf (c :: rest) || hasRun q n rest

/-- Whether a string holds a control that no form shows as it is. -/
def hasHidden (cs : List Char) : Bool := cs.any fun c => isControl c && c != '\n'

/-- **The form of a string**: the first one that shows it without escapes; failing that, between
double quotes on as many lines as it has. -/
def Style.of (cs : List Char) : Style :=
  let hidden := hasHidden cs
  let lines := cs.contains '\n'
  let slash := cs.contains '\\'
  if !hidden && !slash && !lines && !cs.contains '"' then .basic
  else if !hidden && !lines && !cs.contains '\'' then .literal
  else if !hidden && !slash && !hasRun '"' 3 cs then .mlBasic
  else if !hidden && !hasRun '\'' 3 cs then .mlLiteral
  else if lines then .mlBasic
  else .basic

/-- An upper-case hex digit. -/
def upperDigit (n : Nat) : Char := (Nat.digitChar n).toUpper

/-- The escape of a control. -/
def escapedControl (c : Char) : List Char :=
  match c with
  | '\x08' => ['\\', 'b']
  | '\t' => ['\\', 't']
  | '\n' => ['\\', 'n']
  | '\x0c' => ['\\', 'f']
  | '\r' => ['\\', 'r']
  | c => ['\\', 'u', '0', '0', upperDigit (c.toNat / 16), upperDigit (c.toNat % 16)]

/-- The characters between double quotes. Up to `free` quotes in a row need no escape, of which
`left` remain; on several lines a line break needs none. -/
def escapedFrom (lines : Bool) (free : Nat) : (left : Nat) → List Char → List Char
  | _, [] => []
  | left, c :: cs =>
    if c == '"' then
      match left with
      | 0 => '\\' :: '"' :: escapedFrom lines free free cs
      | n + 1 => '"' :: escapedFrom lines free n cs
    else if c == '\\' then '\\' :: '\\' :: escapedFrom lines free free cs
    else if c == '\n' && lines then '\n' :: escapedFrom lines free free cs
    else if isControl c || c == '\t' then escapedControl c ++ escapedFrom lines free free cs
    else c :: escapedFrom lines free free cs

/-- A line break behind the opening quotes of a string that has one itself. -/
def openingBreak (cs : List Char) : List Char := if cs.contains '\n' then ['\n'] else []

/-- A string in a given form. -/
def Style.write (style : Style) (cs : List Char) : List Char :=
  match style with
  | .basic => '"' :: escapedFrom false 0 0 cs ++ ['"']
  | .literal => '\'' :: cs ++ ['\'']
  | .mlBasic =>
    ['"', '"', '"'] ++ openingBreak cs ++ escapedFrom true 2 2 cs ++ ['"', '"', '"']
  | .mlLiteral => ['\'', '\'', '\''] ++ openingBreak cs ++ cs ++ ['\'', '\'', '\'']

/-- **A string as a document shows it**. -/
def quote (s : String) : List Char := (Style.of s.toList).write s.toList

/-- The form of a key that cannot be bare: it stands on one line. -/
def keyStyle (cs : List Char) : Style :=
  let hidden := cs.any isControl
  if !hidden && !cs.contains '\\' && !cs.contains '"' then .basic
  else if !hidden && !cs.contains '\'' then .literal
  else .basic

/-- Whether a key needs no quotes. -/
def isBareKey (cs : List Char) : Bool :=
  !cs.isEmpty && cs.all fun c => c.isAlphanum || c == '_' || c == '-'

/-- **A key as a document shows it**. -/
def key (s : String) : List Char :=
  if isBareKey s.toList then s.toList else (keyStyle s.toList).write s.toList

end SerialRelay.Toml

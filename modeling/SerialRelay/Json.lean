/-!
# JSON values

The values that the command line prints for machines and that line settings are read from.
`Json.pretty` writes one with an indent of two spaces for each level.
-/

namespace SerialRelay

inductive Json where
  | null
  | bool (b : Bool)
  | int (i : Int)
  /-- A number that is no integer. -/
  | fraction
  | string (s : String)
  | array (items : List Json)
  | object (members : List (String × Json))
  deriving Inhabited

namespace Json

/-- One character inside quotes. -/
def escapedChar (c : Char) : List Char :=
  match c with
  | '"' => ['\\', '"']
  | '\\' => ['\\', '\\']
  | '\x08' => ['\\', 'b']
  | '\t' => ['\\', 't']
  | '\n' => ['\\', 'n']
  | '\x0c' => ['\\', 'f']
  | '\r' => ['\\', 'r']
  | c =>
    if c.toNat < 0x20 then
      ['\\', 'u', '0', '0', Nat.digitChar (c.toNat / 16), Nat.digitChar (c.toNat % 16)]
    else [c]

def quoted (s : String) : String :=
  "\"" ++ String.ofList (s.toList.flatMap escapedChar) ++ "\""

/-- A line break and the indent of a level. -/
def lineBreak (level : Nat) : String := "\n" ++ String.ofList (List.replicate (2 * level) ' ')

mutual

/-- **A value over several lines**, its inner lines indented from `level` on. -/
def prettyAt (level : Nat) : Json → String
  | null => "null"
  | bool b => if b then "true" else "false"
  | int i => toString i
  | fraction => "0.0"
  | string s => quoted s
  | array [] => "[]"
  | array (v :: vs) =>
    "[" ++ lineBreak (level + 1) ++ prettyAt (level + 1) v ++ prettyItems level vs
      ++ lineBreak level ++ "]"
  | object [] => "\x7b\x7d"
  | object ((k, v) :: ms) =>
    "\x7b" ++ lineBreak (level + 1) ++ quoted k ++ ": " ++ prettyAt (level + 1) v
      ++ prettyMembers level ms ++ lineBreak level ++ "\x7d"

def prettyItems (level : Nat) : List Json → String
  | [] => ""
  | v :: vs => "," ++ lineBreak (level + 1) ++ prettyAt (level + 1) v ++ prettyItems level vs

def prettyMembers (level : Nat) : List (String × Json) → String
  | [] => ""
  | (k, v) :: ms =>
    "," ++ lineBreak (level + 1) ++ quoted k ++ ": " ++ prettyAt (level + 1) v
      ++ prettyMembers level ms

end

def pretty (v : Json) : String := v.prettyAt 0

end Json

end SerialRelay

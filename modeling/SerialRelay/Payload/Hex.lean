import SerialRelay.Bytes
import SerialRelay.Payload.Error
import SerialRelay.Text.Blank

/-!
# Hex payloads

A hex line is cut into runs at blanks and commas. A run may open with `0x` or `0X`; the digits after
it are taken in pairs. The leftmost faulty run decides the error.

* `Hex.runs`: the maximal runs of a line, each with the column of its first character.
* `Hex.decode`: the octets of a line.
* `Hex.preview`: the first octets of a buffer, as a reader would type them.
-/

namespace SerialRelay.Hex

/-- Blanks and commas stand between runs. -/
def isSeparator (c : Char) : Bool := Text.isBlank c || c == ','

/-- Characters without a separator among them, and the column of the first. -/
structure Run where
  column : Nat
  text : List Char
  deriving DecidableEq, Repr

/-- **The maximal runs of a line**, left to right; `column` is that of its first character. -/
def runs (column : Nat) : List Char → List Run
  | [] => []
  | c :: cs =>
    if isSeparator c then runs (column + 1) cs
    else
      let word := c :: cs.takeWhile (!isSeparator ·)
      ⟨column, word⟩ :: runs (column + word.length) (cs.dropWhile (!isSeparator ·))
termination_by cs => cs.length
decreasing_by
  · simp
  · exact Nat.lt_succ_of_le (List.dropWhile_suffix _).length_le

/-- What is left of a run after one `0x` or `0X`. -/
def Run.digits (r : Run) : Run :=
  match r.text with
  | '0' :: 'x' :: ds => ⟨r.column + 2, ds⟩
  | '0' :: 'X' :: ds => ⟨r.column + 2, ds⟩
  | _ => r

/-- The values of hex digits; the first other character is the fault. -/
def nibbles (column : Nat) : List Char → Except PayloadError (List Nat)
  | [] => .ok []
  | c :: cs =>
    match hexValue? c with
    | none => .error (.invalidHexDigit c column)
    | some v => (nibbles (column + 1) cs).map (v :: ·)

/-- The octets of one run. -/
def Run.decode (r : Run) : Except PayloadError Bytes :=
  match nibbles r.digits.column r.digits.text with
  | .error e => .error e
  | .ok ns =>
    match Bytes.ofNibbles? ns with
    | none => .error (.oddLength (String.ofList r.text))
    | some bs => .ok bs

/-- The octets of several runs, up to the first fault. -/
def decodeRuns : List Run → Except PayloadError Bytes
  | [] => .ok []
  | r :: rs =>
    match r.decode with
    | .error e => .error e
    | .ok bs => (decodeRuns rs).map (bs ++ ·)

/-- **The octets of a hex line**. -/
def decode (line : String) : Except PayloadError Bytes := decodeRuns (runs 1 line.toList)

/-- Octets in hex, a space between two. -/
def spaced : Bytes → List Char
  | [] => []
  | [b] => Bytes.hexPair b
  | b :: bs => Bytes.hexPair b ++ ' ' :: spaced bs

/-- **At most `max` octets in hex**, with a mark if there are more. -/
def preview (bs : Bytes) (max : Nat) : String :=
  String.ofList (spaced (bs.take max) ++ if max < bs.length then " ...".toList else [])

end SerialRelay.Hex

import SerialRelay.Bytes
import SerialRelay.Toml.Value

/-!
# TOML scalars without quotes

Booleans, numbers, dates and times. All characters of such a scalar are read as one token, and the
token is then taken apart. A date and a time may also be two tokens with one space between them.

* `integer?`: an integer of 64 bits, with a sign, a base, digit groups.
* `float?`: a number with a fraction or an exponent that does not overflow upwards.
* `dateTime?`: a date, a time or both, in their usual form.
-/

namespace SerialRelay.Toml

/-- The characters of a scalar without quotes. -/
def isTokenChar (c : Char) : Bool := c.isAlphanum || ['+', '-', '_', '.', ':'].contains c

/-- Digits, with single underscores between two of them left out. -/
def ungroup (isDigit : Char → Bool) : List Char → Option (List Char)
  | [] => none
  | [c] => if isDigit c then some [c] else none
  | c :: '_' :: rest => if isDigit c then (ungroup isDigit rest).map (c :: ·) else none
  | c :: rest => if isDigit c then (ungroup isDigit rest).map (c :: ·) else none

/-- The number that digits write in a base. -/
def digitsValue (base : Nat) (ds : List Char) : Nat :=
  ds.foldl (fun n c => base * n + (hexValue? c).getD 0) 0

/-- A sign in front, and what follows it. -/
def splitSign : List Char → Bool × List Char
  | '-' :: rest => (true, rest)
  | '+' :: rest => (false, rest)
  | cs => (false, cs)

/-- Decimal digits that do not start with a zero, unless they are one zero. -/
def plainDigits? (cs : List Char) : Option (List Char) :=
  match ungroup Char.isDigit cs with
  | some ('0' :: _ :: _) => none
  | r => r

/-- A magnitude within the range of integers. -/
def bounded (negative : Bool) (n : Nat) : Option Int :=
  if negative then if n ≤ maxInteger + 1 then some (-n) else none
  else if n ≤ maxInteger then some n else none

/-- An unsigned integer in a base. -/
def based (base : Nat) (isDigit : Char → Bool) (cs : List Char) : Option Int :=
  (ungroup isDigit cs).bind fun ds => bounded false (digitsValue base ds)

/-- **An integer token**. -/
def integer? : List Char → Option Int
  | '0' :: 'x' :: ds => based 16 (fun c => (hexValue? c).isSome) ds
  | '0' :: 'o' :: ds => based 8 (fun c => '0' ≤ c && c ≤ '7') ds
  | '0' :: 'b' :: ds => based 2 (fun c => c == '0' || c == '1') ds
  | cs =>
    let (negative, ds) := splitSign cs
    (plainDigits? ds).bind fun ds => bounded negative (digitsValue 10 ds)

/-- Whether `digits · 10 ^ exponent` rounds to infinity as a double: it reaches the middle between
the largest double and the next power of two. -/
def overflows (digits : List Char) (exponent : Int) : Bool :=
  let m := digitsValue 10 digits
  let size : Int := (digits.dropWhile (· == '0')).length + exponent
  if m = 0 then false
  else if size > 310 then true
  else if size < 300 then false
  else
    let limit := Nat.pow 2 1024 - Nat.pow 2 970
    if 0 ≤ exponent then limit ≤ m * Nat.pow 10 exponent.toNat
    else limit * Nat.pow 10 (-exponent).toNat ≤ m

/-- The digits behind a point, if there is one, and what follows. -/
def splitFraction (cs : List Char) : Option (List Char) × List Char :=
  match cs with
  | '.' :: rest =>
    let isExponent (c : Char) : Bool := c == 'e' || c == 'E'
    (some (rest.takeWhile (!isExponent ·)), rest.dropWhile (!isExponent ·))
  | cs => (none, cs)

/-- The exponent behind its letter. -/
def exponent? (cs : List Char) : Option Int :=
  let (negative, ds) := splitSign cs
  (ungroup Char.isDigit ds).map fun ds =>
    let n : Int := digitsValue 10 ds
    if negative then -n else n

/-- A number with a fraction or an exponent, or a name for one that is no number or has no end. -/
def isFloat (token : List Char) : Bool :=
  let (negative, cs) := splitSign token
  if cs == "inf".toList || cs == "nan".toList then true
  else
    let isDigitOrGroup (c : Char) : Bool := c.isDigit || c == '_'
    match plainDigits? (cs.takeWhile isDigitOrGroup) with
    | none => false
    | some whole =>
      let (fraction, tail) := splitFraction (cs.dropWhile isDigitOrGroup)
      let fractionDigits := fraction.elim (some []) (ungroup Char.isDigit)
      let power :=
        match tail with
        | [] => if fraction.isSome then some 0 else none
        | c :: ds => if c == 'e' || c == 'E' then exponent? ds else none
      match fractionDigits, power with
      | some fs, some e => negative || !overflows (whole ++ fs) (e - fs.length)
      | _, _ => false

/-- **A float token**. -/
def float? (token : List Char) : Option Value :=
  if isFloat token then some (.float (String.ofList token)) else none

/-- The number that exactly `n` decimal digits write. -/
def fixedDigits (n : Nat) (cs : List Char) : Option (Nat × List Char) :=
  let ds := cs.take n
  if ds.length = n && ds.all Char.isDigit then some (digitsValue 10 ds, cs.drop n) else none

def isLeapYear (y : Nat) : Bool := y % 4 == 0 && (y % 100 != 0 || y % 400 == 0)

def daysInMonth (y m : Nat) : Nat :=
  match m with
  | 2 => if isLeapYear y then 29 else 28
  | 4 => 30
  | 6 => 30
  | 9 => 30
  | 11 => 30
  | _ => 31

/-- A character that has to come next. -/
def expect (c : Char) : List Char → Option (List Char)
  | d :: rest => if d = c then some rest else none
  | [] => none

/-- A date of the calendar, and what follows it. -/
def readDate (cs : List Char) : Option (List Char × List Char) := do
  let (y, r) ← fixedDigits 4 cs
  let r ← expect '-' r
  let (m, r) ← fixedDigits 2 r
  let r ← expect '-' r
  let (d, r) ← fixedDigits 2 r
  if 1 ≤ m && m ≤ 12 && 1 ≤ d && d ≤ daysInMonth y m then some (cs.take 10, r) else none

/-- A fraction of a second in its usual form: nine digits at most, no zeros at the end. -/
def usualFraction (ds : List Char) : List Char :=
  match ((ds.take 9).reverse.dropWhile (· == '0')).reverse with
  | [] => []
  | fs => '.' :: fs

/-- A time of the day in its usual form, and what follows it. -/
def readTime (cs : List Char) : Option (List Char × List Char) := do
  let (h, r) ← fixedDigits 2 cs
  let r ← expect ':' r
  let (m, r) ← fixedDigits 2 r
  let r ← expect ':' r
  let (s, r) ← fixedDigits 2 r
  if h ≤ 23 && m ≤ 59 && s ≤ 60 then
    match r with
    | '.' :: rest =>
      let ds := rest.takeWhile Char.isDigit
      if ds.isEmpty then none
      else some (cs.take 8 ++ usualFraction ds, rest.dropWhile Char.isDigit)
    | r => some (cs.take 8, r)
  else none

/-- An offset from universal time in its usual form; nothing follows it. -/
def offset? : List Char → Option (List Char)
  | [] => some []
  | ['Z'] => some ['Z']
  | ['z'] => some ['Z']
  | sign :: cs => do
    let (h, r) ← fixedDigits 2 cs
    let r ← expect ':' r
    let (m, r) ← fixedDigits 2 r
    if (sign == '+' || sign == '-') && h ≤ 23 && m ≤ 59 && r.isEmpty then
      some ((if h = 0 && m = 0 then '+' else sign) :: cs)
    else none

/-- A time and, if one may follow, an offset. -/
def timeAndOffset? (cs : List Char) : Option (List Char) := do
  let (time, r) ← readTime cs
  let offset ← offset? r
  return time ++ offset

/-- A time that stands alone. -/
def localTime? (cs : List Char) : Option (List Char) := do
  let (time, r) ← readTime cs
  if r.isEmpty then some time else none

/-- A date alone, or with a time behind a `T`. -/
def dateTimeChars? (cs : List Char) : Option (List Char) := do
  let (date, r) ← readDate cs
  match r with
  | [] => some date
  | c :: r =>
    if c == 'T' || c == 't' then (timeAndOffset? r).map fun t => date ++ 'T' :: t else none

/-- **A date, a time or both**. -/
def dateTime? (token : List Char) : Option Value :=
  ((dateTimeChars? token) <|> (localTime? token)).map fun t => .datetime (String.ofList t)

/-- The scalar that a token writes. -/
def scalar (token : List Char) : Option Value :=
  if token == "true".toList then some (.boolean true)
  else if token == "false".toList then some (.boolean false)
  else
    match integer? token with
    | some i => some (.integer i)
    | none => (float? token) <|> (dateTime? token)

/-- A time in the token behind a date and one space. -/
def spacedTime? (token rest : List Char) : Option (List Char × List Char) :=
  match rest with
  | ' ' :: d :: more =>
    if d.isDigit && (readDate token).any (·.2.isEmpty) then
      some (token ++ 'T' :: (d :: more).takeWhile isTokenChar, (d :: more).dropWhile isTokenChar)
    else none
  | _ => none

/-- **A scalar without quotes**, and what follows it. -/
def readScalarValue (cs : List Char) : Option (Value × List Char) :=
  let token := cs.takeWhile isTokenChar
  let rest := cs.dropWhile isTokenChar
  let (token, rest) := (spacedTime? token rest).getD (token, rest)
  (scalar token).map (·, rest)

end SerialRelay.Toml

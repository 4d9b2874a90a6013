import SerialRelay.Bytes

/-!
# TOML strings

Characters, escapes and the four kinds of quotes. A reader takes the characters after an opening
quote and gives the text and what is left behind the closing quote.

* `basicBody`, `literalBody`: strings on one line.
* `mlBasicBody`, `mlLiteralBody`: strings over several lines, whose closing quotes may have up to
  two quotes of the text in front of them.
-/

namespace SerialRelay.Toml

/-- A space or a tab. -/
def isSpace (c : Char) : Bool := c == ' ' || c == '\t'

/-- An ASCII control other than the tab. -/
def isControl (c : Char) : Bool := (c.toNat < 0x20 && c != '\t') || c.toNat == 0x7f

/-- What follows a line break, if there is one in front. -/
def afterNewline? : List Char → Option (List Char)
  | '\n' :: rest => some rest
  | '\r' :: '\n' :: rest => some rest
  | _ => none

/-- Drops spaces, tabs and line breaks. -/
def skipSpace : List Char → List Char
  | '\r' :: '\n' :: rest => skipSpace rest
  | c :: rest => if isSpace c || c == '\n' then skipSpace rest else c :: rest
  | [] => []

theorem length_skipSpace_le (cs : List Char) : (skipSpace cs).length ≤ cs.length := by
  fun_induction skipSpace cs <;> simp_all <;> omega

/-- The number that the next `digits` hex digits write, on top of `value`. -/
def readHex : (digits value : Nat) → List Char → Option (Nat × List Char)
  | 0, value, cs => some (value, cs)
  | _ + 1, _, [] => none
  | n + 1, value, c :: cs =>
    match hexValue? c with
    | none => none
    | some v => readHex n (16 * value + v) cs

theorem length_of_readHex {n v m : Nat} {cs rest : List Char}
    (h : readHex n v cs = some (m, rest)) : rest.length ≤ cs.length := by
  fun_induction readHex n v cs <;> simp_all
  omega

/-- The character of a number, unless that is a surrogate or too large. -/
def scalar? (n : Nat) : Option Char := if n.isValidChar then some (Char.ofNat n) else none

/-- The character that is numbered by the next `digits` hex digits. -/
def readScalar (digits : Nat) (cs : List Char) : Option (Char × List Char) :=
  match readHex digits 0 cs with
  | none => none
  | some (n, rest) => (scalar? n).map (·, rest)

/-- **The escape behind a backslash**. -/
def readEscape : List Char → Option (Char × List Char)
  | [] => none
  | c :: cs =>
    match c with
    | 'b' => some ('\x08', cs)
    | 't' => some ('\t', cs)
    | 'n' => some ('\n', cs)
    | 'f' => some ('\x0c', cs)
    | 'r' => some ('\r', cs)
    | '"' => some ('"', cs)
    | '\\' => some ('\\', cs)
    | 'u' => readScalar 4 cs
    | 'U' => readScalar 8 cs
    | _ => none

theorem length_of_readScalar {n : Nat} {c : Char} {cs rest : List Char}
    (h : readScalar n cs = some (c, rest)) : rest.length ≤ cs.length := by
  unfold readScalar at h
  split at h
  · simp at h
  · next m r hr =>
    have := length_of_readHex hr
    cases hs : scalar? m <;> simp_all

theorem length_of_readEscape {c : Char} {cs rest : List Char}
    (h : readEscape cs = some (c, rest)) : rest.length < cs.length := by
  unfold readEscape at h
  split at h
  · simp at h
  · split at h <;> first
      | exact Nat.lt_succ_of_le (Nat.le_succ_of_le (length_of_readScalar h))
      | exact Nat.lt_succ_of_le (length_of_readScalar h)
      | simp_all

/-- Puts a character in front of a text that was read. -/
def prepend (c : Char) (r : List Char × List Char) : List Char × List Char := (c :: r.1, r.2)

/-- The rest of a string between double quotes. -/
def basicBody : List Char → Option (List Char × List Char)
  | [] => none
  | c :: cs =>
    if c == '"' then some ([], cs)
    else if c == '\\' then
      match h : readEscape cs with
      | none => none
      | some (e, rest) =>
        have : rest.length < cs.length := length_of_readEscape h
        (basicBody rest).map (prepend e)
    else if isControl c then none
    else (basicBody cs).map (prepend c)
termination_by cs => cs.length

/-- The rest of a string between single quotes. -/
def literalBody : List Char → Option (List Char × List Char)
  | [] => none
  | c :: cs =>
    if c == '\'' then some ([], cs)
    else if isControl c then none
    else (literalBody cs).map (prepend c)

/-- Three closing quotes behind a first one, and up to two quotes of the text before them. -/
def closing (q : Char) : List Char → Option (List Char × List Char)
  | a :: b :: rest =>
    if a == q && b == q then
      match rest with
      | c :: d :: rest' =>
        if c == q && d == q then some ([q, q], rest')
        else if c == q then some ([q], d :: rest')
        else some ([], rest)
      | [c] => if c == q then some ([q], []) else some ([], rest)
      | [] => some ([], [])
    else none
  | _ => none

/-- What follows a backslash at the end of a line: the blank rest of that line and all blanks after
it are dropped. -/
def afterLineEnd? (cs : List Char) : Option (List Char) :=
  (afterNewline? (cs.dropWhile isSpace)).map skipSpace

theorem length_of_afterNewline {cs rest : List Char} (h : afterNewline? cs = some rest) :
    rest.length < cs.length := by
  unfold afterNewline? at h
  split at h
  · obtain rfl := Option.some.inj h
    exact Nat.lt_succ_self _
  · obtain rfl := Option.some.inj h
    exact Nat.lt_succ_of_lt (Nat.lt_succ_self _)
  · simp at h

theorem length_of_afterLineEnd {cs rest : List Char} (h : afterLineEnd? cs = some rest) :
    rest.length < cs.length := by
  unfold afterLineEnd? at h
  obtain ⟨r, hr, rfl⟩ := Option.map_eq_some_iff.1 h
  have h1 := length_of_afterNewline hr
  have h2 := (List.dropWhile_suffix isSpace (l := cs)).length_le
  have h3 := length_skipSpace_le r
  omega

/-- The rest of a string between three double quotes. -/
def mlBasicBody : List Char → Option (List Char × List Char)
  | [] => none
  | c :: cs =>
    if c == '"' then
      match closing '"' cs with
      | some r => some r
      | none => (mlBasicBody cs).map (prepend '"')
    else if c == '\\' then
      match hl : afterLineEnd? cs with
      | some rest =>
        have : rest.length < cs.length := length_of_afterLineEnd hl
        mlBasicBody rest
      | none =>
        match he : readEscape cs with
        | none => none
        | some (e, rest) =>
          have : rest.length < cs.length := length_of_readEscape he
          (mlBasicBody rest).map (prepend e)
    else
      match hn : afterNewline? (c :: cs) with
      | some rest =>
        have : rest.length < cs.length + 1 := length_of_afterNewline hn
        (mlBasicBody rest).map (prepend '\n')
      | none => if isControl c then none else (mlBasicBody cs).map (prepend c)
termination_by cs => cs.length

/-- The rest of a string between three single quotes. -/
def mlLiteralBody : List Char → Option (List Char × List Char)
  | [] => none
  | c :: cs =>
    if c == '\'' then
      match closing '\'' cs with
      | some r => some r
      | none => (mlLiteralBody cs).map (prepend '\'')
    else
      match hn : afterNewline? (c :: cs) with
      | some rest =>
        have : rest.length < cs.length + 1 := length_of_afterNewline hn
        (mlLiteralBody rest).map (prepend '\n')
      | none => if isControl c then none else (mlLiteralBody cs).map (prepend c)
termination_by cs => cs.length

/-- Drops a line break right behind the opening quotes. -/
def dropFirstNewline (cs : List Char) : List Char := (afterNewline? cs).getD cs

/-- **A string of any kind**, from its opening quote on. -/
def readString : List Char → Option (List Char × List Char)
  | '"' :: '"' :: '"' :: rest => mlBasicBody (dropFirstNewline rest)
  | '"' :: rest => basicBody rest
  | '\'' :: '\'' :: '\'' :: rest => mlLiteralBody (dropFirstNewline rest)
  | '\'' :: rest => literalBody rest
  | _ => none

end SerialRelay.Toml

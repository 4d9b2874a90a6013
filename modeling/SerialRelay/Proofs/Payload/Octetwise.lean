import SerialRelay.Proofs.Payload.Hex
import SerialRelay.Text.Utf8

/-!
# Hex lines read by octets

The octets of a line can be counted instead of its characters: a piece between separators and each
digit in it are then known by the octet at which they start, and the column of a fault is one more
than the characters of the text before that octet. There is no such text where an octet lies inside
a character. A reader that works like this never meets such an octet, and reads every line as
`Hex.decode` does.

* `Hex.upTo?`: the text before an octet of a line.
* `Hex.slices`, `Hex.Slice.decode?`, `Hex.octetwise?`: the pieces of a line by octets, and what they
  are read as.
* `Hex.upTo?_octets`: behind any number of characters there is a text before the octet.
* `Hex.octetwise?_eq`: the octetwise reader never fails to cut the line, and agrees with the other.
-/

namespace SerialRelay.Hex

/-- The number of octets of a text. -/
def octets (cs : List Char) : ℕ := (Text.utf8 (String.ofList cs)).length

/-- **The text before an octet of a line**; none if the octet lies inside a character, or behind the
line. -/
def upTo? (line : String) (offset : ℕ) : Option String :=
  if offset ≤ (Text.utf8 line).length then Text.ofUtf8? ((Text.utf8 line).take offset) else none

/-- A piece of a line, and the octet at which it starts. -/
structure Slice where
  start : ℕ
  text : List Char
  deriving DecidableEq, Repr

/-- **What stands between the separators of a line**: first the piece that has been begun, at its
octet. -/
def slices (start : ℕ) (piece : List Char) : List Char → List Slice
  | [] => [⟨start, piece⟩]
  | c :: cs =>
    if isSeparator c then ⟨start, piece⟩ :: slices (start + octets piece + octets [c]) [] cs
    else slices start (piece ++ [c]) cs

/-- The values of hex digits that start at an octet; the column of a fault is counted in the text
before it. -/
def nibblesAt? (line : String) (offset : ℕ) : List Char → Option (Except PayloadError (List ℕ))
  | [] => some (.ok [])
  | c :: cs =>
    match hexValue? c with
    | none => (upTo? line offset).map fun front => .error (.invalidHexDigit c (front.length + 1))
    | some v => (nibblesAt? line (offset + octets [c]) cs).map (·.map (v :: ·))

/-- The octets that one piece spells; its digits end where the piece does. -/
def Slice.decode? (line : String) (s : Slice) : Option (Except PayloadError Bytes) :=
  let digits := unprefixed s.text
  (nibblesAt? line (s.start + (octets s.text - octets digits)) digits).map fun
    | .error e => .error e
    | .ok ns =>
      match Bytes.ofNibbles? ns with
      | none => .error (.oddLength (String.ofList s.text))
      | some bs => .ok bs

/-- The octets that several pieces spell, up to the first fault. -/
def decodeSlices? (line : String) : List Slice → Option (Except PayloadError Bytes)
  | [] => some (.ok [])
  | s :: ss =>
    match s.decode? line with
    | none => none
    | some (.error e) => some (.error e)
    | some (.ok bs) => (decodeSlices? line ss).map (·.map (bs ++ ·))

/-- **The octets of a hex line, read by octets**; none if the line were to be cut inside a
character. -/
def octetwise? (line : String) : Option (Except PayloadError Bytes) :=
  decodeSlices? line ((slices 0 [] line.toList).filter (!·.text.isEmpty))

theorem octets_append (xs ys : List Char) : octets (xs ++ ys) = octets xs + octets ys := by
  simp [octets, Text.utf8]

/-- **Behind any number of characters the line can be cut.** -/
theorem upTo?_octets {line : String} {before behind : List Char}
    (h : line.toList = before ++ behind) :
    upTo? line (octets before) = some (String.ofList before) := by
  have hutf8 : Text.utf8 line =
      Text.utf8 (String.ofList before) ++ Text.utf8 (String.ofList behind) := by
    simp [Text.utf8, h]
  rw [upTo?, hutf8, if_pos (by rw [octets, List.length_append]; omega), octets, List.take_left,
    Text.ofUtf8_utf8]

/-- Digits are read alike by octets and by columns. -/
theorem nibblesAt?_eq {line : String} {before cs behind : List Char}
    (h : line.toList = before ++ cs ++ behind) :
    nibblesAt? line (octets before) cs = some (nibbles (before.length + 1) cs) := by
  induction cs generalizing before with
  | nil => rfl
  | cons c cs ih =>
    have hnext : line.toList = (before ++ [c]) ++ cs ++ behind := by simp [h]
    have hrest := ih hnext
    rw [octets_append, List.length_append, List.length_singleton] at hrest
    have hcut : line.toList = before ++ (c :: cs ++ behind) := by rw [h, List.append_assoc]
    rw [nibblesAt?, nibbles, hrest, upTo?_octets hcut]
    cases hexValue? c with
    | none => simp
    | some v => rfl

/-- **A piece is read alike by octets and by columns.** -/
theorem Slice.decode?_eq {line : String} {before piece behind : List Char}
    (h : line.toList = before ++ piece ++ behind) :
    Slice.decode? line ⟨octets before, piece⟩ = some (Run.decode ⟨before.length + 1, piece⟩) := by
  obtain ⟨opening, hpiece, hcolumn⟩ := exists_opening ⟨before.length + 1, piece⟩
  simp only at hpiece hcolumn
  have hstart : octets before + (octets piece - octets (unprefixed piece)) =
      octets (before ++ opening) := by
    have hsplit := congrArg octets hpiece
    rw [octets_append] at hsplit
    rw [octets_append]
    omega
  have hline : line.toList = (before ++ opening) ++ unprefixed piece ++ behind := by
    rw [List.append_assoc before, ← hpiece, h]
  have hplace : before.length + 1 + opening.length = (before ++ opening).length + 1 := by
    rw [List.length_append]
    omega
  simp only [Slice.decode?, Run.decode, text_digits]
  rw [hstart, nibblesAt?_eq hline, hcolumn, hplace]
  cases nibbles ((before ++ opening).length + 1) (unprefixed piece) with
  | error e => rfl
  | ok ns => cases Bytes.ofNibbles? ns <;> rfl

/-- One more piece in front, which may be empty. -/
theorem decodeSlices?_cons {line : String} {before piece behind : List Char} {ss : List Slice}
    {rs : List Run} (h : line.toList = before ++ piece ++ behind)
    (hjoined : ∀ c ∈ piece, isSeparator c = false)
    (hss : decodeSlices? line (ss.filter (!·.text.isEmpty)) = some (decodeRuns rs)) :
    decodeSlices? line ((⟨octets before, piece⟩ :: ss).filter (!·.text.isEmpty)) =
      some (decodeRuns (runs (before.length + 1) piece ++ rs)) := by
  cases piece with
  | nil =>
    rw [runs, List.nil_append]
    exact hss
  | cons c cs =>
    rw [runs_word (List.cons_ne_nil c cs) hjoined, List.filter_cons_of_pos rfl, decodeSlices?,
      Slice.decode?_eq h, List.singleton_append, decodeRuns, hss]
    cases Run.decode ⟨before.length + 1, c :: cs⟩ <;> rfl

/-- **The octetwise reader never cuts a line inside a character**, and reads it as the other
does. -/
theorem octetwise?_eq (line : String) : octetwise? line = some (decode line) := by
  -- what has been read, the piece that has been begun, and the rest make up the line
  suffices hall : ∀ cs before piece, line.toList = before ++ piece ++ cs →
      (∀ c ∈ piece, isSeparator c = false) →
      decodeSlices? line ((slices (octets before) piece cs).filter (!·.text.isEmpty)) =
        some (decodeRuns (runs (before.length + 1) (piece ++ cs))) from
    hall line.toList [] [] rfl nofun
  intro cs
  induction cs with
  | nil =>
    intro before piece h hjoined
    have hend : decodeSlices? line (([] : List Slice).filter (!·.text.isEmpty)) =
        some (decodeRuns []) := rfl
    rw [slices, decodeSlices?_cons h hjoined hend, List.append_nil, List.append_nil]
  | cons c cs ih =>
    intro before piece h hjoined
    by_cases hsep : isSeparator c = true
    · have hrest := ih (before ++ piece ++ [c]) [] (by simp [h]) nofun
      have hhead : ∀ d ∈ (c :: cs).head?, isSeparator d = true := fun d hd => by
        obtain rfl : c = d := Option.some.inj hd
        exact hsep
      rw [octets_append, octets_append] at hrest
      rw [slices, if_pos hsep, decodeSlices?_cons h hjoined hrest, runs_append hhead,
        runs_separator hsep]
      simp only [List.length_append, List.length_singleton, List.nil_append]
      congr 4
      omega
    · have hsep' : isSeparator c = false := Bool.eq_false_iff.2 hsep
      have hmore : ∀ d ∈ piece ++ [c], isSeparator d = false := by
        simpa [or_imp, forall_and, hsep'] using hjoined
      have hrest := ih before (piece ++ [c]) (by simp [h]) hmore
      rw [slices, if_neg hsep, hrest, List.append_assoc]
      rfl

end SerialRelay.Hex

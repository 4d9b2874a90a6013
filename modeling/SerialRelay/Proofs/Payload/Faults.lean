import SerialRelay.Proofs.Payload.Octetwise

/-!
# Where a hex line is at fault

A hex line that is not accepted has a leftmost malformed word, and this word alone decides the
error: the first character in it that is no digit, with its column in the line, or else the word
itself.

* `Hex.IsFirstFault`, `Hex.Blames`: the leftmost malformed word of a line, and what is said about
  it.
* `Hex.Run.decode_eq_error_iff`: the error of a word is what is said about it.
* `Hex.decode_eq_error_iff`: the error of a line is what is said about its leftmost malformed word.
* `Hex.error_points_at_first_fault`: which error a line gives, where it points, and what it does not
  depend on.
-/

namespace SerialRelay.Hex

/-- A word that spells octets: an even number of digits behind at most one prefix. -/
def IsWellFormed (word : List Char) : Prop :=
  Even (unprefixed word).length ∧ ∀ c ∈ unprefixed word, IsDigit c

-- the characters of the word are looked at, not all that there are
instance (word : List Char) : Decidable (IsWellFormed word) :=
  @instDecidableAnd _ _ _ (List.decidableBAll IsDigit (unprefixed word))

/-- **The leftmost malformed word of a line**, with what stands before and behind it. -/
structure IsFirstFault (line : String) (before word behind : List Char) : Prop where
  isWord : IsWordOf line.toList before word behind
  malformed : ¬ IsWellFormed word
  leftmost : ∀ w ∈ words (String.ofList before), IsWellFormed w

/-- **What is said about a malformed word**: its first character that is no digit, in the column
behind all that stands before it in the line, or that there are only digits but one is left over. -/
inductive Blames (before word : List Char) : PayloadError → Prop
  | digit {opening good rest : List Char} {ch : Char} (hword : word = opening ++ unprefixed word)
      (hdigits : unprefixed word = good ++ ch :: rest) (hgood : ∀ c ∈ good, IsDigit c)
      (hch : ¬ IsDigit ch) :
      Blames before word (.invalidHexDigit ch ((before ++ opening ++ good).length + 1))
  | odd (hall : ∀ c ∈ unprefixed word, IsDigit c) :
      Blames before word (.oddLength (String.ofList word))

/-! ### The error of a word -/

theorem hexValue_eq_none {c : Char} (h : ¬ IsDigit c) : hexValue? c = none := by
  cases hv : hexValue? c with
  | none => rfl
  | some v => exact absurd (isDigit_of_hexValue hv) h

/-- The first character that is no digit is the fault. -/
theorem nibbles_of_fault {good rest : List Char} {ch : Char} (hgood : ∀ c ∈ good, IsDigit c)
    (hch : ¬ IsDigit ch) (column : ℕ) :
    nibbles column (good ++ ch :: rest) = .error (.invalidHexDigit ch (column + good.length)) := by
  induction good generalizing column with
  | nil => simp [nibbles, hexValue_eq_none hch]
  | cons c good ih =>
    have hrest := ih (fun d hd => hgood d (List.mem_cons_of_mem c hd)) (column + 1)
    rw [List.cons_append, nibbles, hexValue_of_isDigit (hgood c List.mem_cons_self), hrest,
      List.length_cons, Nat.add_assoc column, Nat.add_comm 1]
    rfl

theorem Run.exists_decode_iff {r : Run} : (∃ bs, r.decode = .ok bs) ↔ IsWellFormed r.text := by
  simp only [Run.decode_eq_ok_iff]
  exact Spells.exists_iff _

/-- **What is said about a malformed word is its error.** -/
theorem Run.decode_of_blames {before word : List Char} {e : PayloadError}
    (hbad : ¬ IsWellFormed word) (h : Blames before word e) :
    (⟨before.length + 1, word⟩ : Run).decode = .error e := by
  simp only [Run.decode, text_digits]
  cases h with
  | @digit opening good rest ch hword hdigits hgood hch =>
    obtain ⟨opening', hword', hcolumn⟩ := exists_opening ⟨before.length + 1, word⟩
    have hsame : opening' = opening := List.append_cancel_right (hword'.symm.trans hword)
    rw [hdigits, nibbles_of_fault hgood hch, hcolumn, hsame, List.length_append, List.length_append]
    simp only [Except.error.injEq, PayloadError.invalidHexDigit.injEq, true_and]
    omega
  | odd hall =>
    rw [nibbles_eq_ok_iff.2 ⟨hall, rfl⟩]
    cases hn : Bytes.ofNibbles? ((unprefixed word).map digitValue) with
    | none => simp [hn]
    | some bs => exact absurd ((Spells.exists_iff _).1 ⟨bs, (ofNibbles_eq_some_iff hall).1 hn⟩) hbad

/-- There is something to say about each malformed word. -/
theorem exists_blames (before word : List Char) : ∃ e, Blames before word e := by
  by_cases hall : ∀ c ∈ unprefixed word, IsDigit c
  · exact ⟨_, .odd hall⟩
  · obtain ⟨opening, hword, -⟩ := exists_opening ⟨0, word⟩
    cases hfind : (unprefixed word).find? (¬ IsDigit ·) with
    | none => exact absurd (by simpa using hfind) hall
    | some ch =>
      obtain ⟨hch, good, rest, hdigits, hgood⟩ := List.find?_eq_some_iff_append.1 hfind
      exact ⟨_, .digit hword hdigits (by simpa using hgood) (by simpa using hch)⟩

/-- **The error of a word** is what is said about it. -/
theorem Run.decode_eq_error_iff {before word : List Char} {e : PayloadError} :
    (⟨before.length + 1, word⟩ : Run).decode = .error e ↔
      ¬ IsWellFormed word ∧ Blames before word e := by
  constructor
  · intro h
    have hbad : ¬ IsWellFormed word := fun hgood => by
      obtain ⟨bs, hbs⟩ := (Run.exists_decode_iff (r := ⟨before.length + 1, word⟩)).2 hgood
      rw [h] at hbs
      cases hbs
    obtain ⟨e', he'⟩ := exists_blames before word
    rw [Run.decode_of_blames hbad he'] at h
    exact ⟨hbad, Except.error.inj h ▸ he'⟩
  · rintro ⟨hbad, h⟩
    exact Run.decode_of_blames hbad h

/-! ### The error of a line -/

theorem decodeRuns_eq_error_iff {rs : List Run} {e : PayloadError} :
    decodeRuns rs = .error e ↔
      ∃ front r back, rs = front ++ r :: back ∧ (∀ g ∈ front, ∃ bs, g.decode = .ok bs) ∧
        r.decode = .error e := by
  constructor
  · intro h
    induction rs with
    | nil => cases h
    | cons r rs ih =>
      unfold decodeRuns at h
      cases hr : r.decode with
      | error e' =>
        rw [hr] at h
        obtain rfl : e' = e := Except.error.inj h
        exact ⟨[], r, rs, rfl, List.forall_mem_nil _, hr⟩
      | ok bs =>
        rw [hr] at h
        cases hrs : decodeRuns rs with
        | ok bs' =>
          rw [hrs] at h
          cases h
        | error e' =>
          rw [hrs] at h
          obtain rfl : e' = e := Except.error.inj h
          obtain ⟨front, r', back, rfl, hfront, hr'⟩ := ih hrs
          exact ⟨r :: front, r', back, rfl, List.forall_mem_cons.2 ⟨⟨bs, hr⟩, hfront⟩, hr'⟩
  · rintro ⟨front, r, back, rfl, hfront, hr⟩
    induction front with
    | nil => simp [decodeRuns, hr]
    | cons g front ih =>
      obtain ⟨⟨bs, hg⟩, hfront⟩ := List.forall_mem_cons.1 hfront
      rw [List.cons_append, decodeRuns, hg, ih hfront]
      rfl

theorem forall_words_iff {before : List Char} :
    (∀ w ∈ words (String.ofList before), IsWellFormed w) ↔
      ∀ g ∈ runs 1 before, ∃ bs, g.decode = .ok bs := by
  rw [words, String.toList_ofList, ← text_runs 1, List.forall_mem_map]
  exact forall₂_congr fun g _ => Run.exists_decode_iff.symm

/-- **The error of a line is what is said about its leftmost malformed word.** -/
theorem decode_eq_error_iff {line : String} {e : PayloadError} :
    decode line = .error e ↔
      ∃ before word behind, IsFirstFault line before word behind ∧ Blames before word e := by
  rw [decode, decodeRuns_eq_error_iff]
  constructor
  · rintro ⟨front, ⟨column, word⟩, back, hruns, hfront, hr⟩
    obtain ⟨before, behind, hword, rfl, hcolumn⟩ := exists_isWordOf 1 line.toList front hruns
    obtain rfl : column = before.length + 1 := hcolumn.trans (Nat.add_comm 1 _)
    obtain ⟨hbad, hblames⟩ := Run.decode_eq_error_iff.1 hr
    exact ⟨before, word, behind, ⟨hword, hbad, forall_words_iff.2 hfront⟩, hblames⟩
  · rintro ⟨before, word, behind, hf, hblames⟩
    have hruns := hf.isWord.runs_eq 1
    rw [Nat.add_comm 1] at hruns
    exact ⟨_, _, _, hruns, forall_words_iff.1 hf.leftmost,
      Run.decode_of_blames hf.malformed hblames⟩

theorem decode_hex_eq_error_iff {terminator : Bytes} {line : String} {e : PayloadError} :
    InputFormat.hex.decode terminator line = .error e ↔ decode line = .error e := by
  rw [InputFormat.decode]
  cases decode line <;> simp [Except.map]

/-- A character that is named stands in the column that is named. -/
theorem Blames.getElem? {line : String} {before word behind : List Char} {ch : Char} {column : ℕ}
    (h : Blames before word (.invalidHexDigit ch column))
    (hline : line.toList = before ++ word ++ behind) :
    0 < column ∧ line.toList[column - 1]? = some ch := by
  cases h with
  | @digit opening good rest _ hword hdigits hgood hch =>
    refine ⟨Nat.succ_pos _, ?_⟩
    have hsplit : line.toList = (before ++ opening ++ good) ++ ch :: (rest ++ behind) := by
      rw [hline, hword, hdigits]
      simp
    rw [hsplit, Nat.add_sub_cancel, List.getElem?_append_right (Nat.le_refl _), Nat.sub_self]
    rfl

/-- What stands behind the leftmost malformed word does not matter. -/
theorem IsFirstFault.withBehind {line line' : String} {before word behind behind' : List Char}
    (h : IsFirstFault line before word behind) (hline : line'.toList = before ++ word ++ behind')
    (hends : ∀ c ∈ behind'.head?, isSeparator c = true) :
    IsFirstFault line' before word behind' where
  isWord := ⟨hline, h.isWord.ne_nil, h.isWord.joined, h.isWord.starts, hends⟩
  malformed := h.malformed
  leftmost := h.leftmost

/-- **The error of a hex line points at its first fault.** A line is not accepted just if it has a
malformed word; the error is then what is said about the leftmost one: its first character that is
no digit, or the whole word if one digit is left over. The column of a character counts the
characters of the line from one, so that character stands there. A reader that counts the same
column from octets never cuts the line inside a character. And neither the terminator nor what
stands behind that word changes the error. -/
theorem error_points_at_first_fault (terminator : Bytes) (line : String) :
    (∀ e, InputFormat.hex.decode terminator line = .error e ↔
      ∃ before word behind, IsFirstFault line before word behind ∧ Blames before word e) ∧
    (∀ ch column, InputFormat.hex.decode terminator line = .error (.invalidHexDigit ch column) →
      0 < column ∧ line.toList[column - 1]? = some ch) ∧
    octetwise? line = some (decode line) ∧
    ∀ before word behind, IsFirstFault line before word behind →
      ∃ e, ∀ terminator' line' behind', line'.toList = before ++ word ++ behind' →
        (∀ c ∈ behind'.head?, isSeparator c = true) →
          InputFormat.hex.decode terminator' line' = .error e := by
  refine ⟨fun e => decode_hex_eq_error_iff.trans decode_eq_error_iff, ?_, octetwise?_eq line, ?_⟩
  · intro ch column h
    obtain ⟨before, word, behind, hf, hblames⟩ :=
      decode_eq_error_iff.1 (decode_hex_eq_error_iff.1 h)
    exact hblames.getElem? hf.isWord.line_eq
  · intro before word behind hf
    obtain ⟨e, he⟩ := exists_blames before word
    refine ⟨e, fun terminator' line' behind' hline hends => ?_⟩
    exact decode_hex_eq_error_iff.2
      (decode_eq_error_iff.2 ⟨before, word, behind', hf.withBehind hline hends, he⟩)

/-- A word with a fault behind a prefix and a wide blank, and one more fault behind it. -/
def twoFaults : String := "01\u30000xa\u00e9 z"

theorem twoFaults_isFirstFault :
    IsFirstFault twoFaults "01\u3000".toList "0xa\u00e9".toList " z".toList where
  isWord := {
    line_eq := by decide +kernel
    ne_nil := by decide
    joined c hc := by
      have hall : "0xa\u00e9".toList.all (!isSeparator ·) = true := by decide +kernel
      simpa using List.all_eq_true.1 hall c hc
    starts := by rintro c ⟨⟩; decide +kernel
    ends := by rintro c ⟨⟩; decide +kernel }
  malformed := by decide +kernel
  leftmost := by decide +kernel

theorem error_points_at_first_fault_wide :
    (InputFormat.hex.decode [10] twoFaults = .error (.invalidHexDigit '\u00e9' 7) ∧
      IsFirstFault twoFaults "01\u3000".toList "0xa\u00e9".toList " z".toList ∧
      ∀ c ∈ ",0xff".toList.head?, isSeparator c = true) ∧
    twoFaults.toList[6]? = some '\u00e9' ∧
    InputFormat.hex.decode [] "01\u30000xa\u00e9,0xff" = .error (.invalidHexDigit '\u00e9' 7) := by
  have hd : InputFormat.hex.decode [10] twoFaults = .error (.invalidHexDigit '\u00e9' 7) := by
    decide +kernel
  have hends : ∀ c ∈ ",0xff".toList.head?, isSeparator c = true := by
    rintro c ⟨⟩
    decide +kernel
  obtain ⟨-, hcolumn, -, hbehind⟩ := error_points_at_first_fault [10] twoFaults
  obtain ⟨e, he⟩ := hbehind _ _ _ twoFaults_isFirstFault
  obtain rfl : .invalidHexDigit '\u00e9' 7 = e :=
    Except.error.inj (hd.symm.trans (he [10] twoFaults _ twoFaults_isFirstFault.isWord.line_eq
      twoFaults_isFirstFault.isWord.ends))
  exact ⟨⟨hd, twoFaults_isFirstFault, hends⟩, (hcolumn _ _ hd).2,
    he [] "01\u30000xa\u00e9,0xff" ",0xff".toList (by decide +kernel) hends⟩

end SerialRelay.Hex

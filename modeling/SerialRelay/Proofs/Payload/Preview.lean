import SerialRelay.Proofs.Payload.Faults

/-!
# Previews are hex lines

A preview shows each octet as one word of two digits, so it is read back as the octets that it
shows. The mark behind a preview that does not show all of them is a word of its own, and no hex:
such a preview is never taken for data.

* `Hex.words_spaced`: the words of spaced octets are the pairs of digits, one for each octet.
* `Hex.decode_spaced`: spaced octets are read back.
* `Hex.isFirstFault_mark`: behind octets the mark is the first fault.
* `Hex.preview_reads_back`: a preview is read as the octets that it shows, if these are all, and is
  an error if not.
-/

namespace SerialRelay.Hex

/-! ### Digits of an octet -/

theorem isDigit_digitChar {n : ℕ} (h : n < 16) :
    IsDigit (Nat.digitChar n) ∧ digitValue (Nat.digitChar n) = n := by
  have hall : ∀ m < 16, IsDigit (Nat.digitChar m) ∧ digitValue (Nat.digitChar m) = m := by decide
  exact hall n h

theorem isSeparator_of_isDigit {c : Char} (h : IsDigit c) : isSeparator c = false := by
  have hall : ("0123456789abcdefABCDEF".toList.all fun d => isSeparator d = false) =
      true := by decide
  exact of_decide_eq_true (List.all_eq_true.1 hall c h)

theorem isDigit_of_mem_hexPair {b : UInt8} {c : Char} (h : c ∈ Bytes.hexPair b) : IsDigit c := by
  have hb := b.toNat_lt
  rcases List.mem_pair.1 h with rfl | rfl
  · exact (isDigit_digitChar (by omega)).1
  · exact (isDigit_digitChar (by omega)).1

/-- A pair of digits has no prefix. -/
theorem unprefixed_hexPair (b : UInt8) : unprefixed (Bytes.hexPair b) = Bytes.hexPair b := by
  have hletter : ∀ c ∈ Bytes.hexPair b, c ≠ 'x' ∧ c ≠ 'X' := fun c hc => by
    have hdigit := isDigit_of_mem_hexPair hc
    constructor <;> rintro rfl <;> exact absurd hdigit (by decide)
  rw [unprefixed, if_neg]
  rintro (hx | hX)
  · exact (hletter 'x' (hx.subset (by decide))).1 rfl
  · exact (hletter 'X' (hX.subset (by decide))).2 rfl

theorem spells_hexPair (b : UInt8) : Spells (Bytes.hexPair b) [b] := by
  have hb := b.toNat_lt
  obtain ⟨hhi, hhi'⟩ := isDigit_digitChar (n := b.toNat / 16) (by omega)
  obtain ⟨hlo, hlo'⟩ := isDigit_digitChar (n := b.toNat % 16) (by omega)
  exact .pair hhi hlo (by rw [hhi', hlo']; omega) .nil

/-! ### Octets with spaces between -/

theorem words_append {s : Char} (hs : isSeparator s = true) (xs ys : List Char) :
    words (String.ofList (xs ++ s :: ys)) =
      words (String.ofList xs) ++ words (String.ofList ys) := by
  simp only [words, String.toList_ofList, List.splitOnP_append_cons xs ys hs, List.filter_append]

theorem words_hexPair (b : UInt8) :
    words (String.ofList (Bytes.hexPair b)) = [Bytes.hexPair b] := by
  have hjoined : ∀ c ∈ Bytes.hexPair b, isSeparator c = false := fun c hc =>
    isSeparator_of_isDigit (isDigit_of_mem_hexPair hc)
  rw [words, String.toList_ofList, List.splitOnP_eq_singleton hjoined]
  rfl

/-- **Each octet is one word.** -/
theorem words_spaced (bs : Bytes) : words (String.ofList (spaced bs)) = bs.map Bytes.hexPair := by
  induction bs using spaced.induct with
  | case1 => rfl
  | case2 b => exact words_hexPair b
  | case3 b bs hbs ih =>
    rw [spaced, words_append (by decide), words_hexPair, ih]
    · rfl
    · exact hbs

theorem length_spaced (bs : Bytes) : (spaced bs).length = 3 * bs.length - 1 := by
  induction bs using spaced.induct with
  | case1 => rfl
  | case2 b => rfl
  | case3 b bs hbs ih =>
    have hpos : 0 < bs.length := List.length_pos_iff.2 hbs
    rw [spaced, List.length_append, List.length_cons, ih, List.length_cons]
    · simp only [Bytes.hexPair, List.length_cons, List.length_nil]
      omega
    · exact hbs

/-- **Spaced octets are read back.** -/
theorem decode_spaced (terminator bs : Bytes) :
    InputFormat.hex.decode terminator (String.ofList (spaced bs)) =
      .ok (if bs = [] then none else some bs) := by
  have hspells : List.Forall₂ Spells ((bs.map Bytes.hexPair).map unprefixed) (bs.map ([·])) := by
    induction bs with
    | nil => exact .nil
    | cons b bs ih =>
      refine .cons ?_ ih
      rw [unprefixed_hexPair]
      exact spells_hexPair b
  have hflat : (bs.map ([·])).flatten = bs := by rw [← List.flatMap_def, List.flatMap_singleton']
  rw [decode_hex_eq_ok_iff, words_spaced]
  exact ⟨_, hspells, by rw [hflat]⟩

/-! ### The mark -/

/-- **Behind octets the mark is the first fault.** -/
theorem isFirstFault_mark (bs : Bytes) :
    IsFirstFault (String.ofList (spaced bs ++ " ...".toList)) (spaced bs ++ [' '])
      "...".toList [] where
  isWord := by
    have hall : "...".toList.all (!isSeparator ·) = true := by decide
    refine ⟨?_, by decide, fun c hc => ?_, fun c hc => ?_, nofun⟩
    · simp
    · simpa using List.all_eq_true.1 hall c hc
    · rw [List.getLast?_concat] at hc
      obtain rfl := Option.some.inj hc
      decide
  malformed := by decide
  leftmost := by
    rw [words_append (by decide), words_spaced]
    intro w hw
    have hnone : words (String.ofList []) = [] := rfl
    rw [hnone, List.append_nil] at hw
    obtain ⟨b, -, rfl⟩ := List.mem_map.1 hw
    rw [IsWellFormed, unprefixed_hexPair]
    exact ⟨⟨1, rfl⟩, fun c hc => isDigit_of_mem_hexPair hc⟩

/-- The mark is no hex from its first character on. -/
theorem decode_mark (terminator bs : Bytes) :
    InputFormat.hex.decode terminator (String.ofList (spaced bs ++ " ...".toList)) =
      .error (.invalidHexDigit '.' ((spaced bs).length + 2)) := by
  have hblames : Blames (spaced bs ++ [' ']) "...".toList
      (.invalidHexDigit '.' ((spaced bs).length + 2)) := by
    have h : Blames (spaced bs ++ [' ']) "...".toList
        (.invalidHexDigit '.' ((spaced bs ++ [' '] ++ [] ++ []).length + 1)) :=
      .digit (by decide) (rfl : _ = [] ++ '.' :: "..".toList) nofun (by decide)
    simpa using h
  exact decode_hex_eq_error_iff.2 (decode_eq_error_iff.2 ⟨_, _, _, isFirstFault_mark bs, hblames⟩)

/-- **A preview is read as the octets that it shows**, if these are all, whatever the terminator. If
there are more, it shows just the first `max`, each as its two digits, and a mark behind them; then
it is an error, and the column is that of the mark's first dot. -/
theorem preview_reads_back (bs : Bytes) (max : ℕ) (terminator : Bytes) :
    (bs.length ≤ max →
      InputFormat.hex.decode terminator (preview bs max) =
        .ok (if bs = [] then none else some bs)) ∧
    (max < bs.length →
      (∃ shown, preview bs max = shown ++ " ..." ∧ words shown = (bs.take max).map Bytes.hexPair ∧
        InputFormat.hex.decode terminator shown =
          .ok (if bs.take max = [] then none else some (bs.take max))) ∧
      InputFormat.hex.decode terminator (preview bs max) =
        .error (.invalidHexDigit '.' (if max = 0 then 2 else 3 * max + 1))) := by
  constructor
  · intro hmax
    rw [preview, if_neg (Nat.not_lt.2 hmax), List.append_nil, List.take_of_length_le hmax]
    exact decode_spaced terminator bs
  · intro hmax
    have hpreview : preview bs max = String.ofList (spaced (bs.take max) ++ " ...".toList) := by
      rw [preview, if_pos hmax]
    have hcolumn : (spaced (bs.take max)).length + 2 = if max = 0 then 2 else 3 * max + 1 := by
      rw [length_spaced, List.length_take_of_le (Nat.le_of_lt hmax)]
      split <;> omega
    refine ⟨⟨String.ofList (spaced (bs.take max)), ?_, words_spaced _, decode_spaced terminator _⟩,
      ?_⟩
    · rw [hpreview, String.ofList_append]
      rfl
    · rw [hpreview, decode_mark, hcolumn]

theorem preview_reads_back_two_of_three :
    ([1, 0xab].length ≤ 16 ∧ 2 < ([1, 2, 3] : Bytes).length ∧ 0 < ([1] : Bytes).length) ∧
    InputFormat.hex.decode [] (preview [1, 0xab] 16) = .ok (some [1, 0xab]) ∧
    preview [1, 2, 3] 2 = "01 02 ..." ∧
    InputFormat.hex.decode [10] "01 02 ..." = .error (.invalidHexDigit '.' 7) ∧
    InputFormat.hex.decode [] (preview [1] 0) = .error (.invalidHexDigit '.' 2) := by
  have hall : ([1, 0xab] : Bytes).length ≤ 16 := by decide
  have hmore : 2 < ([1, 2, 3] : Bytes).length := by decide
  have hnone : 0 < ([1] : Bytes).length := by decide
  have hshown : preview [1, 2, 3] 2 = "01 02 ..." := by decide +kernel
  have hmark := ((preview_reads_back [1, 2, 3] 2 [10]).2 hmore).2
  rw [hshown] at hmark
  exact ⟨⟨hall, hmore, hnone⟩, (preview_reads_back [1, 0xab] 16 []).1 hall, hshown, hmark,
    ((preview_reads_back [1] 0 []).2 hnone).2⟩

end SerialRelay.Hex

import Mathlib.Algebra.Group.Nat.Even
import Mathlib.Data.List.Forall2
import Mathlib.Data.List.Induction
import SerialRelay.Payload.Line
import SerialRelay.Proofs.Payload.Words

/-!
# What a hex line spells

The grammar of hex lines, said without the reader: the words of a line are what stands between its
separators, each may have one prefix, and the digits behind it spell octets pair by pair.

* `Hex.words`, `Hex.unprefixed`: the words of a line and their digits.
* `Hex.Spells`: digits, and the octets that they spell.
* `Hex.text_runs`: the runs of a line are its words.
* `Hex.decode_eq_ok_iff`: a line is read as the octets that its words spell, one word after the
  other.
* `Hex.decode_iff_words_spell`: the lines that are accepted, and what they are read as.
-/

namespace SerialRelay.Hex

/-- **The words of a line**: what stands between separators, unless it is empty. -/
def words (line : String) : List (List Char) :=
  (line.toList.splitOnP isSeparator).filter (!·.isEmpty)

/-- A word without the one prefix that it may have. -/
def unprefixed (word : List Char) : List Char :=
  if "0x".toList <+: word ∨ "0X".toList <+: word then word.drop 2 else word

/-- The hex digits of ASCII. -/
def IsDigit (c : Char) : Prop := c ∈ "0123456789abcdefABCDEF".toList

instance (c : Char) : Decidable (IsDigit c) :=
  inferInstanceAs (Decidable (c ∈ "0123456789abcdefABCDEF".toList))

/-- What a hex digit counts. -/
def digitValue (c : Char) : ℕ := "0123456789abcdef".toList.idxOf c.toLower

/-- **Digits, and the octets that they spell**, two digits for each octet and the high one first. -/
inductive Spells : List Char → Bytes → Prop
  | nil : Spells [] []
  | pair {hi lo : Char} {b : UInt8} {ds : List Char} {bs : Bytes} (hhi : IsDigit hi)
      (hlo : IsDigit lo) (hb : b.toNat = 16 * digitValue hi + digitValue lo)
      (hs : Spells ds bs) : Spells (hi :: lo :: ds) (b :: bs)

/-- All digits of a line, one word after the other. -/
def digits (line : String) : List Char := (words line).flatMap unprefixed

/-! ### Digits -/

theorem hexValue_of_isDigit {c : Char} (h : IsDigit c) : hexValue? c = some (digitValue c) := by
  have hall : ("0123456789abcdefABCDEF".toList.all fun d => hexValue? d = some (digitValue d)) =
      true := by decide
  exact of_decide_eq_true (List.all_eq_true.1 hall c h)

theorem isDigit_of_hexValue {c : Char} {v : ℕ} (h : hexValue? c = some v) : IsDigit c := by
  -- a character in one of the three ranges has one of 22 code points
  have hall : ∀ n : ℕ, (48 ≤ n ∧ n ≤ 57) ∨ (97 ≤ n ∧ n ≤ 102) ∨ (65 ≤ n ∧ n ≤ 70) →
      IsDigit (Char.ofNat n) := by
    intro n hn
    have hsmall : n < 103 := by omega
    have hcheck : ∀ m < 103, (48 ≤ m ∧ m ≤ 57) ∨ (97 ≤ m ∧ m ≤ 102) ∨ (65 ≤ m ∧ m ≤ 70) →
        IsDigit (Char.ofNat m) := by decide
    exact hcheck n hsmall hn
  have hrange : (48 ≤ c.toNat ∧ c.toNat ≤ 57) ∨ (97 ≤ c.toNat ∧ c.toNat ≤ 102) ∨
      (65 ≤ c.toNat ∧ c.toNat ≤ 70) := by
    unfold hexValue? at h
    split at h
    · next hc => exact .inl hc
    · split at h
      · next hc => exact .inr (.inl hc)
      · split at h
        · next hc => exact .inr (.inr hc)
        · cases h
  have hdigit := hall c.toNat hrange
  rwa [Char.ofNat_toNat] at hdigit

theorem hexValue_eq_some_iff {c : Char} {v : ℕ} :
    hexValue? c = some v ↔ IsDigit c ∧ v = digitValue c := by
  constructor
  · intro h
    have hdigit := isDigit_of_hexValue h
    rw [hexValue_of_isDigit hdigit] at h
    exact ⟨hdigit, (Option.some.inj h).symm⟩
  · rintro ⟨hdigit, rfl⟩
    exact hexValue_of_isDigit hdigit

theorem digitValue_lt {c : Char} (h : IsDigit c) : digitValue c < 16 := by
  have hall : ("0123456789abcdefABCDEF".toList.all fun d => digitValue d < 16) = true := by decide
  exact of_decide_eq_true (List.all_eq_true.1 hall c h)

/-- Two digits count an octet. -/
theorem toNat_pair {hi lo : Char} (hhi : IsDigit hi) (hlo : IsDigit lo) :
    (UInt8.ofNat (16 * digitValue hi + digitValue lo)).toNat =
      16 * digitValue hi + digitValue lo := by
  have := digitValue_lt hhi
  have := digitValue_lt hlo
  rw [UInt8.toNat_ofNat']
  omega

/-- The value of a digit does not depend on its case. -/
theorem digitValue_congr {c d : Char} (h : c.toLower = d.toLower) :
    digitValue c = digitValue d := by
  rw [digitValue, digitValue, h]

/-! ### What digits spell -/

namespace Spells

variable {ds ds' : List Char} {bs bs' : Bytes}

theorem append (h : Spells ds bs) (h' : Spells ds' bs') : Spells (ds ++ ds') (bs ++ bs') := by
  induction h with
  | nil => exact h'
  | pair hhi hlo hb _ ih => exact .pair hhi hlo hb ih

/-- **Digits spell the same octets in either case.** -/
theorem congr (h : Spells ds bs) (h' : Spells ds' bs')
    (hd : ds.map Char.toLower = ds'.map Char.toLower) :
    bs = bs' := by
  induction h generalizing ds' bs' with
  | nil =>
    cases h' with
    | nil => rfl
    | pair => cases hd
  | pair hhi hlo hb _ ih =>
    cases h' with
    | nil => cases hd
    | pair hhi' hlo' hb' hs' =>
      simp only [List.map_cons, List.cons.injEq] at hd
      obtain ⟨hhead, hnext, hrest⟩ := hd
      have hsame := digitValue_congr hhead
      have hsame' := digitValue_congr hnext
      rw [ih hs' hrest]
      congr 1
      apply UInt8.toNat_inj.1
      omega

/-- **What spells octets**: an even number of digits, and nothing but digits. -/
theorem exists_iff (ds : List Char) :
    (∃ bs, Spells ds bs) ↔ Even ds.length ∧ ∀ c ∈ ds, IsDigit c := by
  constructor
  · rintro ⟨bs, h⟩
    induction h with
    | nil => exact ⟨⟨0, rfl⟩, fun c hc => absurd hc List.not_mem_nil⟩
    | pair hhi hlo _ _ ih =>
      obtain ⟨⟨n, hn⟩, hall⟩ := ih
      refine ⟨⟨n + 1, ?_⟩, ?_⟩
      · simp only [List.length_cons]
        omega
      · intro c hc
        rcases List.mem_cons.1 hc with rfl | hc
        · exact hhi
        rcases List.mem_cons.1 hc with rfl | hc
        · exact hlo
        exact hall c hc
  · rintro ⟨⟨n, hn⟩, hall⟩
    -- the digits are taken in twos, so a single one is never left over
    induction ds using List.twoStepInduction generalizing n with
    | nil => exact ⟨[], .nil⟩
    | singleton d =>
      simp only [List.length_singleton] at hn
      omega
    | cons_cons hi lo ds ih =>
      simp only [List.length_cons] at hn
      obtain ⟨bs, hs⟩ := ih (fun c hc => hall c (by simp [hc])) (n - 1) (by omega)
      have hhi := hall hi (by simp)
      have hlo := hall lo (by simp)
      exact ⟨_, .pair hhi hlo (toNat_pair hhi hlo) hs⟩

end Spells

/-! ### Reading one run -/

theorem nibbles_eq_ok_iff {column : ℕ} {cs : List Char} {ns : List ℕ} :
    nibbles column cs = .ok ns ↔ (∀ c ∈ cs, IsDigit c) ∧ ns = cs.map digitValue := by
  induction cs generalizing column ns with
  | nil => simp [nibbles, eq_comm]
  | cons c cs ih =>
    unfold nibbles
    cases hv : hexValue? c with
    | none =>
      have hnot : ¬ IsDigit c := fun hdigit => by rw [hexValue_of_isDigit hdigit] at hv; cases hv
      simp [hnot]
    | some v =>
      obtain ⟨hdigit, rfl⟩ := hexValue_eq_some_iff.1 hv
      cases hn : nibbles (column + 1) cs with
      | error e =>
        have hnot : ¬ ∀ d ∈ cs, IsDigit d := fun hall => by
          rw [ih.2 ⟨hall, rfl⟩] at hn
          cases hn
        simp [Except.map, hnot, hdigit]
      | ok ms =>
        obtain ⟨hall, rfl⟩ := ih.1 hn
        simp only [Except.map, Except.ok.injEq, List.mem_cons, forall_eq_or_imp, hdigit, true_and,
          List.map_cons]
        exact ⟨fun h => ⟨hall, h.symm⟩, fun h => h.2.symm⟩

theorem ofNibbles_eq_some_iff {ds : List Char} {bs : Bytes} (hall : ∀ c ∈ ds, IsDigit c) :
    Bytes.ofNibbles? (ds.map digitValue) = some bs ↔ Spells ds bs := by
  constructor
  · intro h
    -- the digits are taken in twos, as the values are
    induction ds using List.twoStepInduction generalizing bs with
    | nil => cases h; exact .nil
    | singleton d => cases h
    | cons_cons hi lo ds ih =>
      obtain ⟨rest, hrest, rfl⟩ := Option.map_eq_some_iff.1 h
      have hhi := hall hi (by simp)
      have hlo := hall lo (by simp)
      exact .pair hhi hlo (toNat_pair hhi hlo) (ih (fun c hc => hall c (by simp [hc])) hrest)
  · intro h
    induction h with
    | nil => rfl
    | @pair hi lo b ds bs hhi hlo hb _ ih =>
      have hrest := ih fun c hc => hall c (by simp [hc])
      simp only [List.map_cons, Bytes.ofNibbles?, hrest, Option.map_some, ← hb, UInt8.ofNat_toNat]

theorem text_digits (r : Run) : r.digits.text = unprefixed r.text := by
  unfold Run.digits unprefixed
  split
  · next ds h => simp [h]
  · next ds h => simp [h]
  · next hx hX =>
    rw [if_neg]
    rintro (⟨ds, hds⟩ | ⟨ds, hds⟩)
    · exact hx ds hds.symm
    · exact hX ds hds.symm

/-- The digits of a run are what stands behind its prefix. -/
theorem exists_opening (r : Run) :
    ∃ opening, r.text = opening ++ unprefixed r.text ∧
      r.digits.column = r.column + opening.length := by
  rw [← text_digits]
  unfold Run.digits
  split
  · next ds h => exact ⟨['0', 'x'], h, rfl⟩
  · next ds h => exact ⟨['0', 'X'], h, rfl⟩
  · exact ⟨[], rfl, rfl⟩

/-- **A run is read as the octets that its digits spell.** -/
theorem Run.decode_eq_ok_iff {r : Run} {bs : Bytes} :
    r.decode = .ok bs ↔ Spells (unprefixed r.text) bs := by
  unfold Run.decode
  rw [text_digits]
  cases hn : nibbles r.digits.column (unprefixed r.text) with
  | error e =>
    refine ⟨by rintro ⟨⟩, fun hs => ?_⟩
    have hall := ((Spells.exists_iff _).1 ⟨bs, hs⟩).2
    rw [nibbles_eq_ok_iff.2 ⟨hall, rfl⟩] at hn
    cases hn
  | ok ns =>
    obtain ⟨hall, rfl⟩ := nibbles_eq_ok_iff.1 hn
    rw [← ofNibbles_eq_some_iff hall]
    simp only
    cases hb : Bytes.ofNibbles? ((unprefixed r.text).map digitValue) with
    | none => simp
    | some bs' => simp

/-! ### Reading a line -/

/-- **The runs of a line are its words.** -/
theorem text_runs (column : ℕ) (cs : List Char) :
    (runs column cs).map Run.text = (cs.splitOnP isSeparator).filter (!·.isEmpty) := by
  induction column, cs using runs_induction with
  | nil column => simp [runs]
  | separator column c cs hsep ih =>
    rw [runs_separator hsep, ih, List.splitOnP_cons_eq_if_modifyHead, if_pos hsep]
    rfl
  | word column word rest hne hjoined hrest ih =>
    rw [runs_word_append hne hjoined hrest, List.map_cons, ih]
    -- behind the word the line ends, or a separator stands
    cases rest with
    | nil => simp [List.splitOnP_eq_singleton hjoined, hne]
    | cons s rest =>
      have hs := hrest s rfl
      rw [List.splitOnP_append_cons_of_forall_mem hjoined s hs, List.splitOnP_cons_eq_if_modifyHead,
        if_pos hs]
      simp [hne]

theorem decodeRuns_eq_ok_iff {rs : List Run} {bs : Bytes} :
    decodeRuns rs = .ok bs ↔ ∃ bss, List.Forall₂ Spells (rs.map fun r => unprefixed r.text) bss ∧
      bs = bss.flatten := by
  induction rs generalizing bs with
  | nil => simp [decodeRuns, eq_comm]
  | cons r rs ih =>
    simp only [List.map_cons, List.forall₂_cons_left_iff, ← Run.decode_eq_ok_iff]
    unfold decodeRuns
    cases hr : r.decode with
    | error e => simp
    | ok first =>
      cases hrs : decodeRuns rs with
      | error e =>
        refine ⟨by rintro ⟨⟩, ?_⟩
        rintro ⟨bss, ⟨b, rest, -, hrest, -⟩, -⟩
        rw [ih.2 ⟨rest, hrest, rfl⟩] at hrs
        cases hrs
      | ok others =>
        obtain ⟨rest, hrest, rfl⟩ := ih.1 hrs
        constructor
        · intro h
          obtain rfl : first ++ rest.flatten = bs := Except.ok.inj h
          exact ⟨first :: rest, ⟨first, rest, rfl, hrest, rfl⟩, rfl⟩
        · rintro ⟨bss, ⟨b, rest', hb, hrest', rfl⟩, rfl⟩
          obtain rfl := Except.ok.inj hb
          have hsame := ih.2 ⟨rest', hrest', rfl⟩
          rw [hrs] at hsame
          simp [Except.map, Except.ok.inj hsame]

/-- **A line is read as the octets that its words spell**, one word after the other. -/
theorem decode_eq_ok_iff {line : String} {bs : Bytes} :
    decode line = .ok bs ↔
      ∃ bss, List.Forall₂ Spells ((words line).map unprefixed) bss ∧ bs = bss.flatten := by
  rw [decode, decodeRuns_eq_ok_iff, words, ← text_runs 1, List.map_map]
  rfl

/-- The octets of a line are those that all its digits spell. -/
theorem spells_digits {words : List (List Char)} {bss : List Bytes}
    (h : List.Forall₂ Spells (words.map unprefixed) bss) :
    Spells (words.flatMap unprefixed) bss.flatten := by
  induction words generalizing bss with
  | nil =>
    obtain rfl := List.forall₂_nil_left_iff.1 h
    exact .nil
  | cons word words ih =>
    obtain ⟨b, rest, hb, hrest, rfl⟩ := List.forall₂_cons_left_iff.1 h
    exact hb.append (ih hrest)

/-- **The payload of a hex line**: what its words spell, or none if that is nothing. -/
theorem decode_hex_eq_ok_iff {terminator : Bytes} {line : String} {p : Option Bytes} :
    InputFormat.hex.decode terminator line = .ok p ↔
      ∃ bss, List.Forall₂ Spells ((words line).map unprefixed) bss ∧
        p = if bss.flatten = [] then none else some bss.flatten := by
  rw [InputFormat.decode]
  constructor
  · intro h
    cases hd : decode line with
    | error e =>
      rw [hd] at h
      cases h
    | ok bs =>
      obtain ⟨bss, hbss, rfl⟩ := decode_eq_ok_iff.1 hd
      rw [hd] at h
      refine ⟨bss, hbss, ?_⟩
      simp only [Except.map, List.isEmpty_iff] at h
      exact (Except.ok.inj h).symm
  · rintro ⟨bss, hbss, rfl⟩
    rw [decode_eq_ok_iff.2 ⟨bss, hbss, rfl⟩]
    simp only [Except.map, List.isEmpty_iff]

/-- Some things are related to others one by one just if each is related to something. -/
theorem exists_forall₂_iff {α β : Type} {R : α → β → Prop} (as : List α) :
    (∃ bs, List.Forall₂ R as bs) ↔ ∀ a ∈ as, ∃ b, R a b := by
  induction as with
  | nil => simp
  | cons a as ih =>
    simp only [List.forall₂_cons_left_iff, List.forall_mem_cons, ← ih]
    constructor
    · rintro ⟨-, b, bs, hb, hbs, -⟩
      exact ⟨⟨b, hb⟩, bs, hbs⟩
    · rintro ⟨⟨b, hb⟩, bs, hbs⟩
      exact ⟨_, b, bs, hb, hbs, rfl⟩

/-- **A hex line is accepted just if each of its words is an even number of digits** behind at most
one prefix. It is then read as the octets of the digit pairs, word by word, and has no payload if
there are none. The terminator does not matter, and two lines that are accepted are read alike if
their digits are the same up to case: neither prefixes nor the places of the words matter. -/
theorem decode_iff_words_spell (terminator : Bytes) (line : String) :
    ((∃ p, InputFormat.hex.decode terminator line = .ok p) ↔
      ∀ word ∈ words line, Even (unprefixed word).length ∧ ∀ c ∈ unprefixed word, IsDigit c) ∧
    (∀ p, InputFormat.hex.decode terminator line = .ok p ↔
      ∃ bss, List.Forall₂ Spells ((words line).map unprefixed) bss ∧
        p = if bss.flatten = [] then none else some bss.flatten) ∧
    (∀ terminator', InputFormat.hex.decode terminator' line =
      InputFormat.hex.decode terminator line) ∧
    ∀ terminator' line' p p', InputFormat.hex.decode terminator line = .ok p →
      InputFormat.hex.decode terminator' line' = .ok p' →
      (digits line).map Char.toLower = (digits line').map Char.toLower → p = p' := by
  refine ⟨?_, fun _ => decode_hex_eq_ok_iff, fun _ => rfl, ?_⟩
  · have hwords : (∀ word ∈ words line,
        Even (unprefixed word).length ∧ ∀ c ∈ unprefixed word, IsDigit c) ↔
        ∃ bss, List.Forall₂ Spells ((words line).map unprefixed) bss := by
      rw [exists_forall₂_iff, List.forall_mem_map]
      exact forall₂_congr fun word _ => (Spells.exists_iff _).symm
    rw [hwords]
    constructor
    · rintro ⟨p, hp⟩
      obtain ⟨bss, hbss, -⟩ := decode_hex_eq_ok_iff.1 hp
      exact ⟨bss, hbss⟩
    · rintro ⟨bss, hbss⟩
      exact ⟨_, decode_hex_eq_ok_iff.2 ⟨bss, hbss, rfl⟩⟩
  · intro terminator' line' p p' h h' hsame
    obtain ⟨bss, hbss, rfl⟩ := decode_hex_eq_ok_iff.1 h
    obtain ⟨bss', hbss', rfl⟩ := decode_hex_eq_ok_iff.1 h'
    have hflat := (spells_digits hbss).congr (spells_digits hbss') hsame
    rw [hflat]

/-- Four octets in five words, one of which is a prefix alone. -/
def scattered : String := "0xDE,ad\u00a00X BE\u3000ef"

theorem decode_iff_words_spell_scattered :
    ∃ p p', (InputFormat.hex.decode [10] scattered = .ok p ∧
      InputFormat.hex.decode [] "deadBEEF" = .ok p' ∧
        (digits scattered).map Char.toLower = (digits "deadBEEF").map Char.toLower) ∧
      p = p' ∧ p' = some [0xde, 0xad, 0xbe, 0xef] := by
  have hsame : (digits scattered).map Char.toLower = (digits "deadBEEF").map Char.toLower := by
    decide +kernel
  obtain ⟨-, -, -, hunique⟩ := decode_iff_words_spell [10] scattered
  have hp : InputFormat.hex.decode [10] scattered = .ok (some [0xde, 0xad, 0xbe, 0xef]) := by
    decide +kernel
  have hp' : InputFormat.hex.decode [] "deadBEEF" = .ok (some [0xde, 0xad, 0xbe, 0xef]) := by
    decide +kernel
  exact ⟨_, _, ⟨hp, hp', hsame⟩, hunique [] "deadBEEF" _ _ hp hp' hsame, rfl⟩

end SerialRelay.Hex

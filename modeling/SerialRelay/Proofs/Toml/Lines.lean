import SerialRelay.Config.Encode
import SerialRelay.Proofs.Toml.Strings
import SerialRelay.Toml.Reader

/-!
# Lines of documents are read back

* `readKey_key`: a key and the sign behind it.
* `readValue_quote`, `readValue_number`: the two kinds of values.
-/

namespace SerialRelay.Toml

variable {c : Char} {cs rest : List Char}

/-! ## Keys -/

/-- What a key starts with. -/
def StartsKey (c : Char) : Prop := c = '"' ∨ c = '\'' ∨ isBareKeyChar c = true

theorem StartsKey.not_space (h : StartsKey c) : isSpace c = false := by
  by_contra hs
  simp only [Bool.not_eq_false, isSpace, Bool.or_eq_true, beq_iff_eq] at hs
  rcases hs with rfl | rfl <;> simp [StartsKey, isBareKeyChar] at h

theorem key_eq_cons (s : String) : ∃ c cs, key s = c :: cs ∧ StartsKey c := by
  unfold key
  split
  · next hb =>
    rw [isBareKey, Bool.and_eq_true, Bool.not_eq_true', List.isEmpty_eq_false_iff] at hb
    obtain ⟨c, cs, hcs⟩ := List.exists_cons_of_ne_nil hb.1
    rw [hcs] at hb ⊢
    exact ⟨c, cs, rfl, .inr (.inr (List.all_eq_true.1 hb.2 c List.mem_cons_self))⟩
  · cases keyStyle s.toList with
    | basic => exact ⟨_, _, rfl, .inl rfl⟩
    | literal => exact ⟨_, _, rfl, .inr (.inl rfl)⟩
    | mlBasic => exact ⟨_, _, rfl, .inl rfl⟩
    | mlLiteral => exact ⟨_, _, rfl, .inr (.inl rfl)⟩

/-- The form of a key stands on one line. -/
theorem keyStyle_eq (cs : List Char) : keyStyle cs = .basic ∨ keyStyle cs = .literal := by
  unfold keyStyle
  dsimp only
  split
  · exact .inl rfl
  · split
    · exact .inr rfl
    · exact .inl rfl

theorem readKeyPart_bare (hne : cs ≠ []) (hbare : ∀ c ∈ cs, isBareKeyChar c = true)
    (rest : List Char) :
    readKeyPart (cs ++ ' ' :: rest) = some (cs, ' ' :: rest) := by
  have htake : (cs ++ ' ' :: rest).takeWhile isBareKeyChar = cs := by
    rw [List.takeWhile_append_of_pos hbare, List.takeWhile_cons_of_neg (by decide), List.append_nil]
  have hdrop : (cs ++ ' ' :: rest).dropWhile isBareKeyChar = ' ' :: rest := by
    rw [List.dropWhile_append_of_pos hbare, List.dropWhile_cons_of_neg (by decide)]
  obtain ⟨c, ds, rfl⟩ := List.exists_cons_of_ne_nil hne
  have hc := hbare c List.mem_cons_self
  unfold readKeyPart
  split
  · next heq => rw [(List.cons.inj heq).1] at hc; contradiction
  · next heq => rw [(List.cons.inj heq).1] at hc; contradiction
  · rw [htake, hdrop]

/-- **A key is read back** in front of a blank. -/
theorem readKeyPart_key (s : String) (rest : List Char) :
    readKeyPart (key s ++ ' ' :: rest) = some (s.toList, ' ' :: rest) := by
  unfold key
  split
  · next hb =>
    rw [isBareKey, Bool.and_eq_true, Bool.not_eq_true', List.isEmpty_eq_false_iff] at hb
    exact readKeyPart_bare hb.1 (List.all_eq_true.1 hb.2) rest
  · have hfits := Style.fits_keyStyle s.toList
    rcases keyStyle_eq s.toList with hstyle | hstyle
    · rw [hstyle, Style.write, List.append_assoc, List.cons_append, readKeyPart]
      exact basicBody_escapedFrom _ _
    · rw [hstyle] at hfits ⊢
      rw [Style.write, List.append_assoc, List.cons_append, readKeyPart]
      exact literalBody_append hfits.1 hfits.2 _

theorem skipBlanks_of_not_space (h : isSpace c = false) (cs : List Char) :
    skipBlanks (c :: cs) = c :: cs :=
  List.dropWhile_cons_of_neg (by simp [h])

/-- **A key and the sign behind it are read back.** -/
theorem readKey_key (s : String) (rest : List Char) :
    readKey (key s ++ " = ".toList ++ rest) = some (⟨[], s⟩, '=' :: ' ' :: rest) := by
  obtain ⟨c, cs, hcons, hstart⟩ := key_eq_cons s
  have hshape : key s ++ " = ".toList ++ rest = key s ++ ' ' :: '=' :: ' ' :: rest := by simp
  have hskip : skipBlanks (key s ++ ' ' :: '=' :: ' ' :: rest) =
      key s ++ ' ' :: '=' :: ' ' :: rest := by
    rw [hcons]
    exact skipBlanks_of_not_space hstart.not_space _
  have hparts : readKeyParts (maxNesting - 1) (key s ++ ' ' :: '=' :: ' ' :: rest) =
      some ([s], '=' :: ' ' :: rest) := by
    have hroom : maxNesting - 1 = 78 + 1 := rfl
    have hblank : skipBlanks (' ' :: '=' :: ' ' :: rest) = '=' :: ' ' :: rest := rfl
    rw [hroom, readKeyParts, hskip, readKeyPart_key]
    simp [hblank]
  rw [hshape, readKey, hparts]
  rfl

/-! ## Values -/

/-- What may follow a value: the end of its line. -/
theorem noQuote_newline (q : Char) (hq : q ≠ '\n') (rest : List Char) :
    NoQuote q ('\n' :: rest) := by
  simpa [NoQuote] using hq.symm

theorem quote_eq_cons (s : String) : ∃ c cs, quote s = c :: cs ∧ (c = '"' ∨ c = '\'') := by
  unfold quote
  cases Style.of s.toList with
  | basic => exact ⟨_, _, rfl, .inl rfl⟩
  | literal => exact ⟨_, _, rfl, .inr rfl⟩
  | mlBasic => exact ⟨_, _, rfl, .inl rfl⟩
  | mlLiteral => exact ⟨_, _, rfl, .inr rfl⟩

/-- **A string is read back** at the end of a line. -/
theorem readValue_quote (room : ℕ) (s : String) (rest : List Char) :
    readValue room (quote s ++ '\n' :: rest) = some (.string s, '\n' :: rest) := by
  obtain ⟨c, cs, hcons, hc⟩ := quote_eq_cons s
  have hread := readString_quote s (noQuote_newline '"' (by decide) rest)
    (noQuote_newline '\'' (by decide) rest)
  have hvalue : readValue room (quote s ++ '\n' :: rest) =
      (readString (quote s ++ '\n' :: rest)).map fun r => (.string (String.ofList r.1), r.2) := by
    rw [hcons]
    rcases hc with rfl | rfl <;> cases room <;> rfl
  rw [hvalue, hread]
  simp

/-! ## Numbers -/

/-- Digits as a number shows them: there is one, and a zero comes first only if it stands alone. -/
structure Plain (ds : List Char) : Prop where
  ne_nil : ds ≠ []
  digits : ∀ c ∈ ds, c.isDigit = true
  no_zero : ∀ c cs, ds ≠ '0' :: c :: cs

theorem toDigits_head {n : ℕ} (h : (Nat.toDigits 10 n).head? = some '0') : n = 0 := by
  induction n using Nat.strongRecOn with
  | ind n ih =>
    by_cases hn : n < 10
    · rw [Nat.toDigits_of_lt_base hn] at h
      exact Nat.digitChar_eq_zero.1 (Option.some.inj h)
    · obtain ⟨c, cs, hcs⟩ :=
        List.exists_cons_of_ne_nil (Nat.toDigits_ne_nil (n := n / 10) (b := 10))
      rw [Nat.toDigits_of_base_le (by decide) (by omega), hcs] at h
      have hzero := ih (n / 10) (by omega) (by rw [hcs]; exact h)
      omega

theorem toDigits_plain (n : ℕ) : Plain (Nat.toDigits 10 n) where
  ne_nil := Nat.toDigits_ne_nil
  digits _ hc := Nat.isDigit_of_mem_toDigits (by decide) (by decide) hc
  no_zero c cs h := by
    have hn : n = 0 := toDigits_head (by rw [h]; rfl)
    rw [hn, Nat.toDigits_zero] at h
    cases h

theorem isTokenChar_of_isDigit (h : c.isDigit = true) : isTokenChar c = true := by
  simp [isTokenChar, Char.isAlphanum, h]

/-- A digit is none of the characters that mean something else in front of a value. -/
theorem ne_of_isDigit (h : c.isDigit = true) {d : Char} (hd : d.isDigit = false) : c ≠ d := by
  rintro rfl
  rw [h] at hd
  cases hd

theorem ungroup_digits (hne : cs ≠ []) (hd : ∀ c ∈ cs, c.isDigit = true) :
    ungroup Char.isDigit cs = some cs := by
  induction cs with
  | nil => exact absurd rfl hne
  | cons c cs ih =>
    have hc := hd c List.mem_cons_self
    cases cs with
    | nil => simp [ungroup, hc]
    | cons d cs =>
      have hrest := ih (List.cons_ne_nil _ _) fun x hx => hd x (List.mem_cons_of_mem _ hx)
      have hunder : d ≠ '_' := ne_of_isDigit (hd d (by simp)) (by decide)
      rw [ungroup, if_pos hc, hrest]
      · rfl
      · nofun
      · rintro rest h
        exact hunder (List.cons.inj h).1

theorem digitsValue_eq (hd : ∀ c ∈ cs, c.isDigit = true) :
    digitsValue 10 cs = Nat.ofDigitChars 10 cs 0 := by
  have key : ∀ (cs : List Char) (v : ℕ), (∀ c ∈ cs, c.isDigit = true) →
      cs.foldl (fun n c => 10 * n + (hexValue? c).getD 0) v = Nat.ofDigitChars 10 cs v := by
    intro cs
    induction cs with
    | nil => intro v _; rfl
    | cons c cs ih =>
      intro v hd
      have hc : (hexValue? c).getD 0 = c.toNat - '0'.toNat := by
        have hdigit := hd c List.mem_cons_self
        rw [Char.isDigit, Bool.and_eq_true, decide_eq_true_eq, decide_eq_true_eq] at hdigit
        rw [hexValue?, if_pos ⟨hdigit.1, hdigit.2⟩]
        rfl
      rw [List.foldl_cons, hc, Nat.ofDigitChars_cons]
      exact ih _ fun x hx => hd x (List.mem_cons_of_mem _ hx)
  exact key cs 0 hd

/-- **An integer is read back** if it is within the range of documents. -/
theorem integer_toDigits {n : ℕ} (hn : n ≤ maxInteger) :
    integer? (Nat.toDigits 10 n) = some (n : Int) := by
  have hp := toDigits_plain n
  generalize hds : Nat.toDigits 10 n = ds at hp
  have hvalue : digitsValue 10 ds = n := by
    rw [digitsValue_eq hp.digits, ← hds, Nat.ofDigitChars_ten_toDigits]
  have hungroup := ungroup_digits hp.ne_nil hp.digits
  have hplain : plainDigits? ds = some ds := by
    rw [plainDigits?, hungroup]
    split
    · next c cs heq => exact absurd (Option.some.inj heq) (hp.no_zero c cs)
    · rfl
  have hsign : splitSign ds = (false, ds) := by
    obtain ⟨c, cs, rfl⟩ := List.exists_cons_of_ne_nil hp.ne_nil
    have hc := hp.digits c List.mem_cons_self
    unfold splitSign
    split
    · next heq => exact absurd (List.cons.inj heq).1 (ne_of_isDigit hc (by decide))
    · next heq => exact absurd (List.cons.inj heq).1 (ne_of_isDigit hc (by decide))
    · rfl
  unfold integer?
  split
  · exact absurd rfl (hp.no_zero _ _)
  · exact absurd rfl (hp.no_zero _ _)
  · exact absurd rfl (hp.no_zero _ _)
  · simp [hsign, hplain, hvalue, bounded, hn]

/-- **A number is read back** at the end of a line. -/
theorem readValue_number {n : ℕ} (hn : n ≤ maxInteger) (room : ℕ) (rest : List Char) :
    readValue room ((toString n).toList ++ '\n' :: rest) = some (.integer n, '\n' :: rest) := by
  have hds : (toString n).toList = Nat.toDigits 10 n := by
    rw [Nat.toString_eq_repr, Nat.toList_repr]
  have hp := toDigits_plain n
  have hinteger := integer_toDigits hn
  rw [hds]
  generalize Nat.toDigits 10 n = ds at hp hinteger
  have htoken : ∀ c ∈ ds, isTokenChar c = true :=
    fun c hc => isTokenChar_of_isDigit (hp.digits c hc)
  have htake : (ds ++ '\n' :: rest).takeWhile isTokenChar = ds := by
    rw [List.takeWhile_append_of_pos htoken, List.takeWhile_cons_of_neg (by decide),
      List.append_nil]
  have hdrop : (ds ++ '\n' :: rest).dropWhile isTokenChar = '\n' :: rest := by
    rw [List.dropWhile_append_of_pos htoken, List.dropWhile_cons_of_neg (by decide)]
  obtain ⟨c, cs, rfl⟩ := List.exists_cons_of_ne_nil hp.ne_nil
  have hc := hp.digits c List.mem_cons_self
  have hscalar : scalar (c :: cs) = some (.integer n) := by
    have ht : ¬ (c :: cs == "true".toList) = true := by
      simpa using fun h => absurd h (ne_of_isDigit hc (by decide))
    have hf : ¬ (c :: cs == "false".toList) = true := by
      simpa using fun h => absurd h (ne_of_isDigit hc (by decide))
    rw [scalar, if_neg ht, if_neg hf, hinteger]
  have hread : readScalarValue (c :: cs ++ '\n' :: rest) = some (.integer n, '\n' :: rest) := by
    have hspaced : spacedTime? (c :: cs) ('\n' :: rest) = none := rfl
    rw [readScalarValue, htake, hdrop, hspaced, Option.getD_none]
    simp only [hscalar, Option.map_some]
  rw [← hread]
  unfold readValue
  split
  · next heq => exact absurd (List.cons.inj heq).1 (ne_of_isDigit hc (by decide))
  · next heq => exact absurd (List.cons.inj heq).1 (ne_of_isDigit hc (by decide))
  · next heq => exact absurd (List.cons.inj heq).1 (ne_of_isDigit hc (by decide))
  · next heq => exact absurd (List.cons.inj heq).1 (ne_of_isDigit hc (by decide))
  · rfl

/-! ## Lines -/

/-- **Text that reads as statements**, whatever follows it and with any fuel that is enough. -/
def ReadsAs (text : List Char) (ss : List Statement) : Prop :=
  ∀ (rest : List Char) (fuel : ℕ), (text ++ rest).length < fuel →
    ∃ fuel', rest.length < fuel' ∧
      statements fuel (text ++ rest) = (statements fuel' rest).map (ss ++ ·)

theorem ReadsAs.nil : ReadsAs [] [] := fun rest fuel h => ⟨fuel, h, by simp⟩

theorem ReadsAs.append {text₁ text₂ : List Char} {ss₁ ss₂ : List Statement} (h₁ : ReadsAs text₁ ss₁)
    (h₂ : ReadsAs text₂ ss₂) : ReadsAs (text₁ ++ text₂) (ss₁ ++ ss₂) := by
  intro rest fuel hf
  rw [List.append_assoc] at hf ⊢
  obtain ⟨fuel₁, hf₁, hs₁⟩ := h₁ (text₂ ++ rest) fuel hf
  obtain ⟨fuel₂, hf₂, hs₂⟩ := h₂ rest fuel₁ hf₁
  refine ⟨fuel₂, hf₂, ?_⟩
  rw [hs₁, hs₂, Option.map_map]
  congr 1
  funext ts
  simp

/-- A text that is all there is reads as its statements. -/
theorem ReadsAs.statements {text : List Char} {ss : List Statement} (h : ReadsAs text ss) :
    Toml.statements (text.length + 1) text = some ss := by
  obtain ⟨fuel, hf, hs⟩ := h [] (text.length + 1) (by simp)
  have hend : Toml.statements fuel [] = some [] := by
    cases fuel with
    | zero => exact absurd hf (Nat.not_lt_zero _)
    | succ n => rfl
  rw [List.append_nil] at hs
  rw [hs, hend]
  simp

theorem readsAs_newline : ReadsAs ['\n'] [] := by
  intro rest fuel hf
  cases fuel with
  | zero => exact absurd hf (Nat.not_lt_zero _)
  | succ n =>
    refine ⟨n, by simpa using hf, ?_⟩
    have hline : afterLine? ('\n' :: rest) = some rest := rfl
    have hskip : skipBlanks ('\n' :: rest) = '\n' :: rest := rfl
    rw [List.singleton_append, Toml.statements, hskip]
    simp [hline]

/-- A line that reads as one statement. -/
theorem readsAs_line {line : List Char} {s : Statement} {c : Char} {cs : List Char}
    (hc : line = c :: cs) (hs : isSpace c = false) (hne : c ≠ '#' ∧ c ≠ '\n' ∧ c ≠ '\r')
    (hr : ∀ rest, readStatement (line ++ rest) = some (s, rest)) : ReadsAs line [s] := by
  intro rest fuel hf
  cases fuel with
  | zero => exact absurd hf (Nat.not_lt_zero _)
  | succ n =>
    have hread := hr rest
    subst hc
    -- a line has a character at least, so the fuel stays enough
    refine ⟨n, by simp at hf ⊢; omega, ?_⟩
    have hskip : skipBlanks (c :: cs ++ rest) = c :: cs ++ rest := skipBlanks_of_not_space hs _
    rw [Toml.statements, hskip, List.cons_append]
    dsimp only
    rw [if_neg (by simpa [and_assoc] using hne), ← List.cons_append, hread]
    simp only [Option.bind_eq_bind, Option.bind_some]
    cases Toml.statements n rest with
    | none => rfl
    | some ss => rfl

/-- What a key starts with starts no header, no comment and no line break. -/
theorem StartsKey.ne (h : StartsKey c) : c ≠ '[' ∧ c ≠ '#' ∧ c ≠ '\n' ∧ c ≠ '\r' := by
  refine ⟨?_, ?_, ?_, ?_⟩ <;> rintro rfl <;> simp [StartsKey, isBareKeyChar] at h

/-- A key and a value that is read back make an entry. -/
theorem readStatement_pairLine {k : String} {text : List Char} {v : Value}
    (ht : ∃ c cs, text = c :: cs ∧ isSpace c = false)
    (hv : ∀ rest, readValue (maxNesting - 1) (text ++ '\n' :: rest) = some (v, '\n' :: rest))
    (rest : List Char) :
    readStatement (pairLine (key k) text ++ rest) = some (.entry ⟨[], k⟩ v, rest) := by
  -- the key ends at the blank, the value at the line break
  have hshape : pairLine (key k) text ++ rest =
      key k ++ " = ".toList ++ (text ++ '\n' :: rest) := by
    simp [pairLine]
  have hskip : skipBlanks (' ' :: (text ++ '\n' :: rest)) = text ++ '\n' :: rest := by
    obtain ⟨c, cs, rfl, hc⟩ := ht
    exact skipBlanks_of_not_space hc _
  have hpair : readPair (readValue (maxNesting - 1))
      (key k ++ " = ".toList ++ (text ++ '\n' :: rest)) =
      some ((⟨[], k⟩, v), '\n' :: rest) := by
    rw [readPair, readKey_key]
    simp [hskip, hv]
  have hline : afterLine? ('\n' :: rest) = some rest := rfl
  obtain ⟨c, cs, hcons, hstart⟩ := key_eq_cons k
  rw [hshape]
  unfold readStatement
  split
  · next heq => rw [hcons] at heq; exact absurd (List.cons.inj heq).1 hstart.ne.1
  · next heq => rw [hcons] at heq; exact absurd (List.cons.inj heq).1 hstart.ne.1
  · rw [hpair]
    simp [hline]

theorem readsAs_pairLine {k : String} {text : List Char} {v : Value}
    (ht : ∃ c cs, text = c :: cs ∧ isSpace c = false)
    (hv : ∀ rest, readValue (maxNesting - 1) (text ++ '\n' :: rest) = some (v, '\n' :: rest)) :
    ReadsAs (pairLine (key k) text) [.entry ⟨[], k⟩ v] := by
  obtain ⟨c, cs, hcons, hstart⟩ := key_eq_cons k
  have hline : pairLine (key k) text = c :: (cs ++ " = ".toList ++ text ++ ['\n']) := by
    rw [pairLine, hcons]
    rfl
  exact readsAs_line hline hstart.not_space hstart.ne.2 (readStatement_pairLine ht hv)

/-- **A line with a string is read back.** -/
theorem readsAs_stringLine (k v : String) :
    ReadsAs (stringLine k v) [.entry ⟨[], k⟩ (.string v)] := by
  refine readsAs_pairLine ?_ (readValue_quote _ v)
  obtain ⟨c, cs, hcons, rfl | rfl⟩ := quote_eq_cons v
  · exact ⟨_, cs, hcons, by decide⟩
  · exact ⟨_, cs, hcons, by decide⟩

/-- **A line with a number is read back.** -/
theorem readsAs_numberLine (k : String) {n : ℕ} (hn : n ≤ maxInteger) :
    ReadsAs (numberLine k n) [.entry ⟨[], k⟩ (.integer n)] := by
  refine readsAs_pairLine ?_ (readValue_number hn _)
  have hp := toDigits_plain n
  obtain ⟨c, cs, hcons⟩ := List.exists_cons_of_ne_nil hp.ne_nil
  have hc := hp.digits c (by rw [hcons]; exact List.mem_cons_self)
  refine ⟨c, cs, by rw [Nat.toString_eq_repr, Nat.toList_repr, hcons], ?_⟩
  rw [isSpace, Bool.or_eq_false_iff, beq_eq_false_iff_ne, beq_eq_false_iff_ne]
  exact ⟨ne_of_isDigit hc (by decide), ne_of_isDigit hc (by decide)⟩

/-- Lines of strings, one for each entry. -/
theorem readsAs_stringLines (es : List (String × String)) :
    ReadsAs (es.flatMap fun e => stringLine e.1 e.2)
      (es.map fun e => .entry ⟨[], e.1⟩ (.string e.2)) := by
  induction es with
  | nil => exact ReadsAs.nil
  | cons e es ih =>
    rw [List.flatMap_cons, List.map_cons]
    exact (readsAs_stringLine e.1 e.2).append ih


end SerialRelay.Toml

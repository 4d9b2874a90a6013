import Mathlib.Tactic.Common
import SerialRelay.Toml.Printer

/-!
# Strings of documents are read back

A string is read back from each of its forms, whatever follows it but a quote. On one line this is
an induction on the characters. Over several lines the quotes need care: a quote of the text must
not be taken for the closing ones, and those must not lose the quotes of the text right in front of
them.

* `readEscape_escapedControl`: an escaped control is read back.
* `basicBody_escapedFrom`, `literalBody_append`: strings on one line.
* `mlBasicBody_escapedFrom`, `mlLiteralBody_append`: strings over several lines.
* `readString_quote`: a string in its form.
-/

namespace SerialRelay.Toml

variable {c : Char} {cs rest : List Char}

theorem hexValue_upperDigit : ∀ n < 16, hexValue? (upperDigit n) = some n := by decide

/-- The characters that are escaped are among the first 128. -/
theorem toNat_lt_of_isControl (h : isControl c = true) : c.toNat < 128 := by
  simp only [isControl, Bool.or_eq_true, Bool.and_eq_true, decide_eq_true_eq, beq_iff_eq] at h
  omega

/-- Two hex digits are read back to the number of a character below 256. -/
theorem readScalar_digits (h : c.toNat < 256) (rest : List Char) :
    readScalar 4 ('0' :: '0' :: upperDigit (c.toNat / 16) :: upperDigit (c.toNat % 16) :: rest) =
      some (c, rest) := by
  have hhi : hexValue? (upperDigit (c.toNat / 16)) = some (c.toNat / 16) :=
    hexValue_upperDigit _ (by omega)
  have hlo : hexValue? (upperDigit (c.toNat % 16)) = some (c.toNat % 16) :=
    hexValue_upperDigit _ (by omega)
  have hzero : hexValue? '0' = some 0 := by decide
  have hsum : 16 * (16 * (16 * (16 * 0 + 0) + 0) + c.toNat / 16) + c.toNat % 16 =
      c.toNat := by omega
  have hvalid : c.toNat.isValidChar := c.valid
  simp only [readScalar, readHex, hzero, hhi, hlo, hsum, scalar?, if_pos hvalid, Char.ofNat_toNat,
    Option.map]

/-- **An escaped control is read back.** -/
theorem readEscape_escapedControl (h : isControl c = true ∨ c = '\t') :
    ∃ e body, escapedControl c = '\\' :: e :: body ∧ isSpace e = false ∧ e ≠ '\n' ∧ e ≠ '\r' ∧
      ∀ rest, readEscape (e :: body ++ rest) = some (c, rest) := by
  have hlt : c.toNat < 256 := by
    rcases h with h | rfl
    · exact Nat.lt_trans (toNat_lt_of_isControl h) (by decide)
    · decide
  unfold escapedControl
  split
  · exact ⟨'b', [], rfl, by decide, by decide, by decide, fun _ => rfl⟩
  · exact ⟨'t', [], rfl, by decide, by decide, by decide, fun _ => rfl⟩
  · exact ⟨'n', [], rfl, by decide, by decide, by decide, fun _ => rfl⟩
  · exact ⟨'f', [], rfl, by decide, by decide, by decide, fun _ => rfl⟩
  · exact ⟨'r', [], rfl, by decide, by decide, by decide, fun _ => rfl⟩
  · exact ⟨'u', _, rfl, by decide, by decide, by decide, fun rest => readScalar_digits hlt rest⟩

/-- How a character is shown between double quotes, and how many quotes in a row are left behind
it. -/
inductive Shown (lines : Bool) (free : ℕ) (c : Char) :
    (left : ℕ) → (piece : List Char) → (left' : ℕ) → Prop
  | quote {left : ℕ} (hc : c = '"') : Shown lines free c (left + 1) ['"'] left
  | escape {left : ℕ} (e : Char) (body : List Char) (hs : isSpace e = false) (hn : e ≠ '\n')
      (hr : e ≠ '\r')
      (he : ∀ rest, readEscape (e :: body ++ rest) = some (c, rest)) :
      Shown lines free c left ('\\' :: e :: body) free
  | plain {left : ℕ} (hq : c ≠ '"') (hb : c ≠ '\\')
      (hc : isControl c = false ∨ c = '\n' ∧ lines = true) :
      Shown lines free c left [c] free

theorem escapedFrom_cons (lines : Bool) (free left : ℕ) (c : Char) (cs : List Char) :
    ∃ piece left', Shown lines free c left piece left' ∧
      escapedFrom lines free left (c :: cs) = piece ++ escapedFrom lines free left' cs := by
  rw [escapedFrom.eq_def lines free left (c :: cs)]
  dsimp only
  split
  · next hq =>
    have hq : c = '"' := by simpa using hq
    split
    · exact ⟨_, _, .escape '"' [] (by decide) (by decide) (by decide) fun _ => by rw [hq]; rfl, rfl⟩
    · exact ⟨_, _, .quote hq, rfl⟩
  · next hq =>
    have hq : c ≠ '"' := by simpa using hq
    split
    · next hb =>
      have hb : c = '\\' := by simpa using hb
      refine ⟨_, _, .escape '\\' [] (by decide) (by decide) (by decide) fun _ => ?_, rfl⟩
      rw [hb]
      rfl
    · next hb =>
      have hb : c ≠ '\\' := by simpa using hb
      split
      · next hn =>
        obtain ⟨rfl, hl⟩ : c = '\n' ∧ lines = true := by simpa using hn
        exact ⟨_, _, .plain hq hb (.inr ⟨rfl, hl⟩), rfl⟩
      · split
        · next hc =>
          obtain ⟨e, body, hshown, hs, hn, hr, he⟩ :=
            readEscape_escapedControl (c := c) (by simpa using hc)
          exact ⟨_, _, .escape e body hs hn hr he, by rw [hshown]⟩
        · next hc =>
          refine ⟨_, _, .plain hq hb (.inl ?_), rfl⟩
          simp only [Bool.or_eq_true, not_or] at hc
          simpa using hc.1

/-! ## On one line -/

/-- **A string between double quotes is read back.** -/
theorem basicBody_escapedFrom (cs rest : List Char) :
    basicBody (escapedFrom false 0 0 cs ++ '"' :: rest) = some (cs, rest) := by
  induction cs with
  | nil => simp [escapedFrom, basicBody]
  | cons c cs ih =>
    obtain ⟨piece, left', hshown, hcons⟩ := escapedFrom_cons false 0 0 c cs
    rw [hcons, List.append_assoc]
    cases hshown with
    | escape e body hs hn hr he =>
      rw [List.cons_append, basicBody, if_neg (by decide), if_pos (by decide)]
      split
      · next hread => rw [he] at hread; cases hread
      · next e' rest' hread =>
        obtain ⟨rfl, rfl⟩ := Prod.mk.inj (Option.some.inj ((he _).symm.trans hread))
        rw [ih]
        rfl
    | plain hq hb hc =>
      have hc : isControl c = false := by simpa using hc
      rw [List.singleton_append, basicBody]
      simp [hq, hb, hc, ih, prepend]

/-- **A string between single quotes is read back**, if it has none itself and no control. -/
theorem literalBody_append (hq : '\'' ∉ cs) (hc : ∀ c ∈ cs, isControl c = false)
    (rest : List Char) :
    literalBody (cs ++ '\'' :: rest) = some (cs, rest) := by
  induction cs with
  | nil => rfl
  | cons c cs ih =>
    rw [List.mem_cons, not_or] at hq
    obtain ⟨hne, hq⟩ := hq
    have hhead : isControl c = false := hc c List.mem_cons_self
    have htail := ih hq fun d hd => hc d (List.mem_cons_of_mem _ hd)
    have hne : ¬ (c == '\'') = true := by simpa using Ne.symm hne
    rw [List.cons_append, literalBody, if_neg hne, hhead, if_neg (by decide), htail]
    rfl

/-! ## Over several lines -/

/-- No quote comes next. -/
def NoQuote (q : Char) (cs : List Char) : Prop := cs.head? ≠ some q

/-- **Up to two quotes in front of the closing ones belong to the text.** -/
theorem closing_replicate {q : Char} {k : ℕ} (hk : k ≤ 2) (hr : NoQuote q rest) :
    closing q (List.replicate k q ++ q :: q :: rest) = some (List.replicate k q, rest) := by
  have hk : k = 0 ∨ k = 1 ∨ k = 2 := by omega
  cases rest with
  | nil => rcases hk with rfl | rfl | rfl <;> simp [closing, List.replicate]
  | cons d rest =>
    have hd : (d == q) = false := by simpa [NoQuote] using hr
    rcases hk with rfl | rfl | rfl
    · cases rest <;> simp [closing, hd]
    · simp [closing, hd, List.replicate]
    · simp [closing, List.replicate]

/-- One quote alone, or two, are not closing ones. -/
theorem closing_eq_none {q : Char} (h : NoQuote q cs ∨ ∃ ds, cs = q :: ds ∧ NoQuote q ds) :
    closing q cs = none := by
  rcases h with h | ⟨ds, rfl, h⟩
  · cases cs with
    | nil => rfl
    | cons a cs =>
      have ha : (a == q) = false := by simpa [NoQuote] using h
      cases cs <;> simp [closing, ha]
  · cases ds with
    | nil => rfl
    | cons b ds =>
      have hb : (b == q) = false := by simpa [NoQuote] using h
      simp [closing, hb]

/-- Behind a quote of the text the closing quotes come at once, with at most one more in front of
them, or the next three characters are not quotes. -/
theorem closing_escapedFrom {left : ℕ} (hl : left ≤ 1) (hr : NoQuote '"' rest) (cs : List Char) :
    closing '"' (escapedFrom true 2 left cs ++ '"' :: '"' :: '"' :: rest) = some ('"' :: cs, rest) ∨
      closing '"' (escapedFrom true 2 left cs ++ '"' :: '"' :: '"' :: rest) = none := by
  cases cs with
  | nil => exact .inl (closing_replicate (k := 1) (by decide) hr)
  | cons c cs =>
    obtain ⟨piece, left', hshown, hcons⟩ := escapedFrom_cons true 2 left c cs
    rw [hcons, List.append_assoc]
    cases hshown with
    | escape => exact .inr (closing_eq_none (.inl (by simp [NoQuote])))
    | plain hq => exact .inr (closing_eq_none (.inl (by simpa [NoQuote] using hq)))
    | quote hc =>
      -- a second quote; a third one would be escaped
      have hzero : left' = 0 := by omega
      subst hzero
      cases cs with
      | nil => exact .inl (by rw [hc]; exact closing_replicate (k := 2) (by decide) hr)
      | cons d cs =>
        obtain ⟨piece, left', hshown, hcons⟩ := escapedFrom_cons true 2 0 d cs
        rw [hcons, List.append_assoc]
        cases hshown with
        | escape => exact .inr (closing_eq_none (.inr ⟨_, rfl, by simp [NoQuote]⟩))
        | plain hq => exact .inr (closing_eq_none (.inr ⟨_, rfl, by simpa [NoQuote] using hq⟩))

/-- A backslash in front of an escape does not end the line. -/
theorem afterLineEnd_eq_none {e : Char} (hs : isSpace e = false) (hn : e ≠ '\n') (hr : e ≠ '\r')
    (cs : List Char) : afterLineEnd? (e :: cs) = none := by
  rw [afterLineEnd?, List.dropWhile_cons_of_neg (by simp [hs]), afterNewline?]
  · rfl
  · rintro rest h
    exact hn (List.cons.inj h).1
  · rintro rest h
    exact hr (List.cons.inj h).1

/-- A character that is no control starts no line break. -/
theorem afterNewline_eq_none (hc : isControl c = false) (cs : List Char) :
    afterNewline? (c :: cs) = none := by
  unfold afterNewline?
  split
  · next h => rw [(List.cons.inj h).1] at hc; contradiction
  · next h => rw [(List.cons.inj h).1] at hc; contradiction
  · rfl

/-- **A string between three double quotes is read back.** -/
theorem mlBasicBody_escapedFrom {left : ℕ} (hl : left ≤ 2) (hr : NoQuote '"' rest)
    (cs : List Char) :
    mlBasicBody (escapedFrom true 2 left cs ++ '"' :: '"' :: '"' :: rest) = some (cs, rest) := by
  induction cs generalizing left with
  | nil =>
    have hend : closing '"' ('"' :: '"' :: rest) = some ([], rest) :=
      closing_replicate (k := 0) (by decide) hr
    rw [escapedFrom, List.nil_append, mlBasicBody, if_pos (by decide), hend]
  | cons c cs ih =>
    obtain ⟨piece, left', hshown, hcons⟩ := escapedFrom_cons true 2 left c cs
    rw [hcons, List.append_assoc]
    cases hshown with
    | quote hc =>
      subst hc
      rw [List.singleton_append, mlBasicBody, if_pos (by decide)]
      have hleft : left' ≤ 1 := by omega
      -- this quote is the first of the closing ones only at the end of the text
      rcases closing_escapedFrom hleft hr cs with hclose | hclose
      · rw [hclose]
      · rw [hclose, ih (by omega)]
        rfl
    | escape e body hs hn hr' he =>
      rw [List.cons_append, mlBasicBody, if_neg (by decide), if_pos (by decide)]
      split
      · next hline => rw [List.cons_append, afterLineEnd_eq_none hs hn hr'] at hline; cases hline
      · split
        · next hread => rw [he] at hread; cases hread
        · next e' rest' hread =>
          obtain ⟨rfl, rfl⟩ := Prod.mk.inj (Option.some.inj ((he _).symm.trans hread))
          rw [ih (by decide)]
          rfl
    | plain hq hb hc =>
      rw [List.singleton_append, mlBasicBody, if_neg (by simpa using hq),
        if_neg (by simpa using hb)]
      rcases hc with hc | ⟨rfl, -⟩
      · split
        · next hline => rw [afterNewline_eq_none hc] at hline; cases hline
        · rw [hc, if_neg (by decide), ih (by decide)]
          rfl
      · split
        · next hline =>
          cases hline
          rw [ih (by decide)]
          rfl
        · next hline => cases hline

/-- The same between single quotes, for a text without three of them in a row. -/
theorem closing_append (hrun : hasRun '\'' 3 ('\'' :: cs) = false) (hr : NoQuote '\'' rest) :
    closing '\'' (cs ++ '\'' :: '\'' :: '\'' :: rest) = some ('\'' :: cs, rest) ∨
      closing '\'' (cs ++ '\'' :: '\'' :: '\'' :: rest) = none := by
  cases cs with
  | nil => exact .inl (closing_replicate (k := 1) (by decide) hr)
  | cons c cs =>
    by_cases hc : c = '\''
    · subst hc
      cases cs with
      | nil => exact .inl (closing_replicate (k := 2) (by decide) hr)
      | cons d cs =>
        have hd : d ≠ '\'' := by
          rintro rfl
          simp [hasRun, List.replicate, List.isPrefixOf] at hrun
        exact .inr (closing_eq_none (.inr ⟨_, rfl, by simpa [NoQuote] using hd⟩))
    · exact .inr (closing_eq_none (.inl (by simpa [NoQuote] using hc)))

/-- **A string between three single quotes is read back**, if it has no three of them in a row and
no control but line breaks. -/
theorem mlLiteralBody_append (hrun : hasRun '\'' 3 cs = false) (hc : hasHidden cs = false)
    (hr : NoQuote '\'' rest) :
    mlLiteralBody (cs ++ '\'' :: '\'' :: '\'' :: rest) = some (cs, rest) := by
  induction cs with
  | nil =>
    have hend : closing '\'' ('\'' :: '\'' :: rest) = some ([], rest) :=
      closing_replicate (k := 0) (by decide) hr
    rw [List.nil_append, mlLiteralBody, if_pos (by decide), hend]
  | cons c cs ih =>
    have htail : hasRun '\'' 3 cs = false := by
      rw [hasRun, Bool.or_eq_false_iff] at hrun
      exact hrun.2
    rw [hasHidden, List.any_cons, Bool.or_eq_false_iff] at hc
    have hread := ih htail hc.2
    rw [List.cons_append, mlLiteralBody]
    split
    · next hq =>
      have hq : c = '\'' := by simpa using hq
      subst hq
      rcases closing_append hrun hr with hclose | hclose
      · rw [hclose]
      · rw [hclose, hread]
        rfl
    · by_cases hn : c = '\n'
      · subst hn
        split
        · next hline =>
          cases hline
          rw [hread]
          rfl
        · next hline => cases hline
      · have hplain : isControl c = false := by simpa [hn] using hc.1
        split
        · next hline => rw [afterNewline_eq_none hplain] at hline; cases hline
        · rw [hplain, if_neg (by decide), hread]
          rfl

/-- The line break behind the opening quotes is dropped, and no other one. -/
theorem dropFirstNewline_openingBreak {text : List Char}
    (h : '\n' ∉ cs → afterNewline? text = none) :
    dropFirstNewline (openingBreak cs ++ text) = text := by
  unfold openingBreak
  by_cases hn : '\n' ∈ cs
  · rw [if_pos (by simpa using hn)]
    rfl
  · rw [if_neg (by simpa using hn), List.nil_append, dropFirstNewline, h hn, Option.getD_none]

/-! ## In any form -/

/-- The texts that a form shows without escapes, or with those that it has. -/
def Style.Fits (cs : List Char) : Style → Prop
  | .basic => True
  | .literal => '\'' ∉ cs ∧ ∀ c ∈ cs, isControl c = false
  | .mlBasic => True
  | .mlLiteral => hasRun '\'' 3 cs = false ∧ hasHidden cs = false

/-- A text without line breaks and hidden controls has no control at all. -/
theorem isControl_of_not_hasHidden (hh : hasHidden cs = false) (hn : '\n' ∉ cs) :
    ∀ c ∈ cs, isControl c = false := by
  intro c hc
  have hne : c ≠ '\n' := by rintro rfl; exact hn hc
  simp only [hasHidden, List.any_eq_false, Bool.and_eq_true, not_and] at hh
  by_contra hcontrol
  exact hh c hc (by simpa using hcontrol) (by simpa using hne)

/-- The form of a string fits it. -/
theorem Style.fits_of (cs : List Char) : (Style.of cs).Fits cs := by
  unfold Style.of
  simp only [Bool.and_eq_true, Bool.not_eq_true']
  split
  · trivial
  · split
    · next h =>
      obtain ⟨⟨hh, hn⟩, hq⟩ := h
      exact ⟨by simpa using hq, isControl_of_not_hasHidden hh (by simpa using hn)⟩
    · split
      · trivial
      · split
        · next h => exact ⟨h.2, h.1⟩
        · split <;> trivial

theorem Style.fits_keyStyle (cs : List Char) : (keyStyle cs).Fits cs := by
  unfold keyStyle
  simp only [Bool.and_eq_true, Bool.not_eq_true']
  split
  · trivial
  · split
    · next h =>
      refine ⟨by simpa using h.2, fun c hc => ?_⟩
      have hall := List.any_eq_false.1 h.1 c hc
      simpa using hall
    · trivial

/-- One opening quote is one if no two follow it. -/
theorem readString_basic {body : List Char} (h : ∀ ds, body = '"' :: ds → NoQuote '"' ds) :
    readString ('"' :: body) = basicBody body := by
  unfold readString
  split
  · next heq =>
    obtain ⟨-, rfl⟩ := List.cons.inj heq
    exact absurd rfl (h _ rfl)
  · next heq => obtain ⟨-, rfl⟩ := List.cons.inj heq; rfl
  · next heq => cases heq
  · next heq => cases heq
  · next hne _ _ => exact absurd rfl (hne body)

theorem readString_literal {body : List Char} (h : ∀ ds, body = '\'' :: ds → NoQuote '\'' ds) :
    readString ('\'' :: body) = literalBody body := by
  unfold readString
  split
  · next heq => cases heq
  · next heq => cases heq
  · next heq =>
    obtain ⟨-, rfl⟩ := List.cons.inj heq
    exact absurd rfl (h _ rfl)
  · next heq => obtain ⟨-, rfl⟩ := List.cons.inj heq; rfl
  · next hne => exact absurd rfl (hne body)

/-- **A string is read back from any form that fits it**, if no quote follows. -/
theorem readString_write {style : Style} (hs : style.Fits cs) (hd : NoQuote '"' rest)
    (hq : NoQuote '\'' rest) :
    readString (style.write cs ++ rest) = some (cs, rest) := by
  cases style with
  | basic =>
    have hshape : Style.basic.write cs ++ rest =
        '"' :: (escapedFrom false 0 0 cs ++ '"' :: rest) := by
      simp [Style.write]
    rw [hshape, readString_basic, basicBody_escapedFrom]
    -- an empty string must not be taken for three opening quotes
    intro ds hds
    cases cs with
    | nil => rw [← (List.cons.inj hds).2]; exact hd
    | cons c cs =>
      obtain ⟨piece, left', hshown, hcons⟩ := escapedFrom_cons false 0 0 c cs
      rw [hcons] at hds
      cases hshown with
      | escape => cases hds
      | plain hne => exact absurd (List.cons.inj hds).1 hne
  | literal =>
    have hshape : Style.literal.write cs ++ rest = '\'' :: (cs ++ '\'' :: rest) := by
      simp [Style.write]
    rw [hshape, readString_literal, literalBody_append hs.1 hs.2]
    intro ds hds
    cases cs with
    | nil => rw [← (List.cons.inj hds).2]; exact hq
    | cons c cs => exact absurd (List.cons.inj hds).1 fun h => hs.1 (h ▸ List.mem_cons_self)
  | mlBasic =>
    have hshape : Style.mlBasic.write cs ++ rest =
        '"' :: '"' :: '"' ::
          (openingBreak cs ++ (escapedFrom true 2 2 cs ++ '"' :: '"' :: '"' :: rest)) := by
      simp [Style.write]
    rw [hshape, readString, dropFirstNewline_openingBreak, mlBasicBody_escapedFrom (by decide) hd]
    intro hn
    cases cs with
    | nil => rfl
    | cons c cs =>
      obtain ⟨piece, left', hshown, hcons⟩ := escapedFrom_cons true 2 2 c cs
      rw [hcons]
      cases hshown with
      | quote hc => rfl
      | escape => rfl
      | plain _ _ hc =>
        rcases hc with hc | ⟨rfl, -⟩
        · exact afterNewline_eq_none hc _
        · exact absurd List.mem_cons_self hn
  | mlLiteral =>
    have hshape : Style.mlLiteral.write cs ++ rest =
        '\'' :: '\'' :: '\'' :: (openingBreak cs ++ (cs ++ '\'' :: '\'' :: '\'' :: rest)) := by
      simp [Style.write]
    rw [hshape, readString, dropFirstNewline_openingBreak, mlLiteralBody_append hs.1 hs.2 hq]
    intro hn
    cases cs with
    | nil => rfl
    | cons c cs =>
      exact afterNewline_eq_none (isControl_of_not_hasHidden hs.2 hn c List.mem_cons_self) _

/-- **A string of a document is read back.** -/
theorem readString_quote (s : String) (hd : NoQuote '"' rest) (hq : NoQuote '\'' rest) :
    readString (quote s ++ rest) = some (s.toList, rest) :=
  readString_write (Style.fits_of s.toList) hd hq

end SerialRelay.Toml

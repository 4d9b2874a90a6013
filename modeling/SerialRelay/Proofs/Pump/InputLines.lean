import Mathlib.Data.List.DropRight
import Mathlib.Data.List.Induction
import SerialRelay.Proofs.Pump.Deeds

/-!
# The lines of an input

What the lines of an input are, said of its octets without the pump. They are cut at newlines, an
empty rest is no line, and carriage returns at the end of a line do not belong to it.

* `Text.IsUtf8`: octets that spell a text, and `Text.ofUtf8_eq_some_iff` for the text that they
  spell.
* `inputLines`: the lines of an input as octets.
* `lineText_eq_some_iff`: a line is read as the text that its octets spell.
* `exists_texts`: the texts of an input, up to the first line that is not one.
* `Pump.Completes.phase_iff`: how a pump ends says whether there is such a line.
-/

namespace SerialRelay

namespace Text

/-- **Octets that spell a text.** -/
def IsUtf8 (bs : Bytes) : Prop := ∃ s, utf8 s = bs

/-- Octets spell one text at most, and it is found. -/
theorem ofUtf8_eq_some_iff {bs : Bytes} {s : String} : ofUtf8? bs = some s ↔ utf8 s = bs := by
  constructor
  · intro h
    rw [ofUtf8?, String.fromUTF8?] at h
    split at h
    · next hvalid =>
      have hs : s.toByteArray = ⟨bs.toArray⟩ := by
        obtain rfl := Option.some.inj h
        rfl
      have hsame := (toByteArray_utf8 s).trans hs
      exact congrArg (fun a : ByteArray => a.data.toList) hsame
    · cases h
  · rintro rfl
    exact ofUtf8_utf8 s

theorem utf8_injective : Function.Injective utf8 := fun s t h => by
  have hs := ofUtf8_utf8 s
  rw [h, ofUtf8_utf8] at hs
  exact (Option.some.inj hs).symm

theorem isSome_ofUtf8_iff {bs : Bytes} : (ofUtf8? bs).isSome = true ↔ IsUtf8 bs := by
  rw [Option.isSome_iff_exists]
  exact exists_congr fun s => ofUtf8_eq_some_iff

instance : DecidablePred IsUtf8 :=
  fun bs => decidable_of_iff ((ofUtf8? bs).isSome = true) isSome_ofUtf8_iff

/-- The octets of a text that follows another. -/
theorem utf8_ofList_append (cs ds : List Char) :
    utf8 (String.ofList (cs ++ ds)) = utf8 (String.ofList cs) ++ utf8 (String.ofList ds) := by
  simp [utf8]

/-- Only a carriage return has octets that end like one. -/
theorem utf8_singleton {c : Char} (h : c ≠ '\r') :
    ∃ bs b, utf8 (String.ofList [c]) = bs ++ [b] ∧ b ≠ 13 := by
  have hn : c.toNat ≠ 13 := fun hc => h (Char.toNat_inj.1 hc)
  have hne : ∀ n < 256, n ≠ 13 → UInt8.ofNat n ≠ 13 := by
    intro n hlt hn he
    have hval := congrArg UInt8.toNat he
    rw [UInt8.toNat_ofNat_of_lt' hlt] at hval
    exact hn hval
  have hlow : c.toNat ≤ 127 → UInt8.ofNat c.toNat ≠ 13 := fun hle => hne _ (by omega) hn
  have hhigh : UInt8.ofNat (c.toNat % 64 + 128) ≠ 13 := hne _ (by omega) (by omega)
  simp only [utf8, String.toList_ofList, List.flatMap_cons, List.flatMap_nil, List.append_nil]
  unfold String.utf8EncodeChar
  simp only
  split
  · next hle => exact ⟨[], _, rfl, hlow hle⟩
  · split
    · exact ⟨[_], _, rfl, hhigh⟩
    · split
      · exact ⟨[_, _], _, rfl, hhigh⟩
      · exact ⟨[_, _, _], _, rfl, hhigh⟩

/-- The octets of carriage returns. -/
theorem utf8_returns (n : ℕ) :
    utf8 (String.ofList (List.replicate n '\r')) = List.replicate n 13 := by
  induction n with
  | zero => rfl
  | succ n ih =>
    have hone : utf8 (String.ofList ['\r']) = [13] := by decide
    rw [List.replicate_succ, ← List.singleton_append, utf8_ofList_append, ih, hone]
    rfl

/-- **Carriage returns at the end of a text are those at the end of its octets.** -/
theorem utf8_trimEnd (cs : List Char) :
    utf8 (String.ofList (trimEnd (· == '\r') cs)) =
      (utf8 (String.ofList cs)).rdropWhile (· = 13) := by
  have hdrop : ∀ ds : List Char, trimEnd (· == '\r') ds = ds.rdropWhile (· == '\r') := fun _ => rfl
  rw [hdrop]
  induction cs using List.reverseRecOn with
  | nil => simp [utf8]
  | append_singleton cs c ih =>
    rw [utf8_ofList_append]
    by_cases hc : c = '\r'
    · subst hc
      have hone : utf8 (String.ofList ['\r']) = [13] := utf8_returns 1
      rw [hone, List.rdropWhile_concat_pos _ _ _ (by simp),
        List.rdropWhile_concat_pos _ _ _ (by simp), ih]
    · obtain ⟨bs, b, hbs, hb⟩ := utf8_singleton hc
      rw [hbs, ← List.append_assoc, List.rdropWhile_concat_neg _ _ _ (by simpa using hc),
        List.rdropWhile_concat_neg _ _ _ (by simpa using hb), utf8_ofList_append, hbs,
        List.append_assoc]

/-- Octets before carriage returns spell a text if they do so with them. -/
theorem isUtf8_rdropWhile_iff {bs : Bytes} : IsUtf8 (bs.rdropWhile (· = 13)) ↔ IsUtf8 bs := by
  constructor
  · rintro ⟨s, hs⟩
    have htail : bs.rtakeWhile (· = 13) = List.replicate (bs.rtakeWhile (· = 13)).length 13 :=
      List.eq_replicate_of_mem fun b hb => by simpa using List.mem_rtakeWhile_imp hb
    refine ⟨String.ofList (s.toList ++ List.replicate (bs.rtakeWhile (· = 13)).length '\r'), ?_⟩
    rw [utf8_ofList_append, utf8_returns, ← htail, String.ofList_toList, hs,
      List.rdropWhile_append_rtakeWhile]
  · rintro ⟨s, rfl⟩
    refine ⟨String.ofList (trimEnd (· == '\r') s.toList), ?_⟩
    rw [utf8_trimEnd, String.ofList_toList]

end Text

/-- The pieces of an input between its newlines; an empty one at the end does not count. -/
def pieces (input : Bytes) : List Bytes :=
  let all := input.splitOn 10
  if all.getLast? = some [] then all.dropLast else all

/-- **The lines of an input**, without the carriage returns at their ends. -/
def inputLines (input : Bytes) : List Bytes := (pieces input).map (·.rdropWhile (· = 13))

/-- A pump takes its input apart at the newlines. -/
theorem splitLines_eq_pieces (input : Bytes) : splitLines input = pieces input := by
  induction input with
  | nil => rfl
  | cons b bs ih =>
    obtain ⟨piece, more, hsplit⟩ := List.exists_cons_of_ne_nil (List.splitOn_ne_nil 10 bs)
    rw [splitLines, ih, pieces, pieces, List.splitOn_cons_eq_if_modifyHead, hsplit]
    by_cases hb : b = 10
    · by_cases hlast : (piece :: more).getLast? = some [] <;> simp [hb, hlast]
    -- an empty piece that grows counts, whether it is the last one or not
    · rcases more with _ | ⟨next, more⟩
      · by_cases hp : piece = [] <;> simp [hb, hp]
      · by_cases hlast : (next :: more).getLast? = some [] <;> simp [hb, hlast]

/-- **A line is read as the text that its octets spell.** -/
theorem lineText_eq_some_iff {raw : Bytes} {text : String} :
    lineText? raw = some text ↔ Text.utf8 text = raw.rdropWhile (· = 13) := by
  rw [lineText?, Option.map_eq_some_iff]
  constructor
  · rintro ⟨s, hs, rfl⟩
    rw [Text.utf8_trimEnd, String.ofList_toList, Text.ofUtf8_eq_some_iff.1 hs]
  · intro h
    obtain ⟨s, hs⟩ := Text.isUtf8_rdropWhile_iff.1 ⟨text, h⟩
    refine ⟨s, Text.ofUtf8_eq_some_iff.2 hs, Text.utf8_injective ?_⟩
    rw [Text.utf8_trimEnd, String.ofList_toList, hs, h]

theorem isText_iff {raw : Bytes} : isText raw = true ↔ Text.IsUtf8 (raw.rdropWhile (· = 13)) := by
  rw [isText, Option.isSome_iff_exists]
  exact exists_congr fun text => lineText_eq_some_iff

/-- The lines that a pump reads as text. -/
theorem isText_eq_decide (raw : Bytes) :
    isText raw = decide (Text.IsUtf8 (raw.rdropWhile (· = 13))) := by
  rw [Bool.eq_iff_iff, decide_eq_true_eq]
  exact isText_iff

/-- The texts of lines that are text, and what they ask for. -/
theorem exists_texts_of_isText (cfg : InputSettings) {raws : List Bytes}
    (h : ∀ raw ∈ raws, isText raw = true) :
    ∃ texts : List String, texts.map Text.utf8 = raws.map (·.rdropWhile (· = 13)) ∧
      requests cfg raws = texts.map cfg.read := by
  refine ⟨raws.filterMap lineText?, ?_, by rw [requests, List.map_filterMap]⟩
  induction raws with
  | nil => rfl
  | cons raw raws ih =>
    obtain ⟨text, ht⟩ := Option.isSome_iff_exists.1 (h raw List.mem_cons_self)
    rw [List.filterMap_cons_some ht, List.map_cons, List.map_cons, lineText_eq_some_iff.1 ht,
      ih fun line hline => h line (List.mem_cons_of_mem _ hline)]

/-- **The texts of an input**, up to the first line that is not one, and what they ask for. -/
theorem exists_texts (cfg : InputSettings) (input : Bytes) :
    ∃ texts : List String, texts.map Text.utf8 = (inputLines input).takeWhile (Text.IsUtf8 ·) ∧
      texts.length = ((splitLines input).takeWhile isText).length ∧
      requests cfg ((splitLines input).takeWhile isText) = texts.map cfg.read := by
  have hlines : (inputLines input).takeWhile (Text.IsUtf8 ·) =
      ((splitLines input).takeWhile isText).map (·.rdropWhile (· = 13)) := by
    rw [inputLines, List.takeWhile_map, ← splitLines_eq_pieces]
    congr 2
    exact funext fun raw => (isText_eq_decide raw).symm
  obtain ⟨texts, htexts, hread⟩ :=
    exists_texts_of_isText cfg fun raw (h : raw ∈ (splitLines input).takeWhile isText) =>
      List.mem_takeWhile_imp h
  have hlength := congrArg List.length htexts
  exact ⟨texts, htexts.trans hlines.symm, by simpa only [List.length_map] using hlength, hread⟩

/-- **A pump at its end says whether every line is UTF-8.** -/
theorem Pump.Completes.phase_iff {cfg : InputSettings} {input : Bytes} {p : Pump}
    {deeds : List Deed} (h : p.Completes cfg (splitLines input) deeds) (ho : p.isOver = true) :
    (p.phase = .finished ↔ ∀ line ∈ inputLines input, Text.IsUtf8 line) ∧
      (p.phase = .broken ↔ ∃ line ∈ inputLines input, ¬ Text.IsUtf8 line) := by
  obtain ⟨-, -, hfinished, hbroken⟩ := h.of_isOver ho
  rw [hfinished, hbroken, splitLines_eq_pieces, inputLines]
  simp [isText_eq_decide]

end SerialRelay

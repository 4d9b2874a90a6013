import Mathlib.Data.List.Forall2
import SerialRelay.Payload.Terminator

/-!
# Escapes in a terminator

Which backslashes of a terminator open an escape is said by their places: one does so unless it is
the second character of an escape that opens just before it. The reader takes the same escapes, one
after the other from the left.

* `Terminator.opens`: the places where an escape opens.
* `Terminator.IsFirstUnknown`: the leftmost escape that stands for nothing.
* `Terminator.octets`: the octets of a terminator, place by place.
* `Terminator.spellings`: the ways to write a character so that it is read back.
* `Terminator.decode_follows_escapes`: what a terminator is decoded to, or its fault; and every
  spelling of a text is decoded to that text.
-/

namespace SerialRelay.Terminator

/-- The second characters that an escape may have, and the octets that these escapes stand for. -/
def escapes : List (Char × UInt8) := [('n', 10), ('r', 13), ('t', 9), ('0', 0), ('\\', 92)]

/-- **Whether an escape opens at a place**: a backslash stands there, and it is not the second
character of an escape that opens at the place before. -/
def opens (cs : List Char) : ℕ → Bool
  | 0 => cs[0]? = some '\\'
  | i + 1 => cs[i + 1]? = some '\\' && !opens cs i

/-- Whether the second character of an escape stands at a place. -/
def closes (cs : List Char) : ℕ → Bool
  | 0 => false
  | i + 1 => opens cs i

/-- An escape with a second character that it may not have. -/
def IsUnknown (cs : List Char) (i : ℕ) (c : Char) : Prop :=
  opens cs i = true ∧ cs[i + 1]? = some c ∧ c ∉ escapes.map Prod.fst

/-- **The leftmost escape that stands for nothing**, by its place and its second character. -/
def IsFirstUnknown (cs : List Char) (i : ℕ) (c : Char) : Prop :=
  IsUnknown cs i c ∧ ∀ j < i, ∀ d, ¬ IsUnknown cs j d

/-- The octets that a place adds: an escape adds its octet where it opens, a backslash at the very
end stands for itself, and any other character has its UTF-8 octets. -/
def octetsAt (cs : List Char) (i : ℕ) : Bytes :=
  if opens cs i then
    match cs[i + 1]? with
    | none => [92]
    | some c => (escapes.lookup c).toList
  else if closes cs i then []
  else cs[i]?.elim [] String.utf8EncodeChar

/-- **The octets of a terminator**, place by place. -/
def octets (cs : List Char) : Bytes := (List.range cs.length).flatMap (octetsAt cs)

/-- **The ways to write a character** so that it is read back: a backslash is doubled, and what has
another escape may be written as that. -/
def spellings : Char → List (List Char)
  | '\\' => [['\\', '\\']]
  | '\n' => [['\n'], ['\\', 'n']]
  | '\r' => [['\r'], ['\\', 'r']]
  | '\t' => [['\t'], ['\\', 't']]
  | '\x00' => [['\x00'], ['\\', '0']]
  | c => [[c]]

/-- **A spelling of a text**: each character is written in one of its ways. -/
def IsSpelling (text spelled : String) : Prop :=
  ∃ words, List.Forall₂ (fun c w => w ∈ spellings c) text.toList words ∧
    spelled.toList = words.flatten

variable {c e : Char} {cs : List Char} {b : UInt8}

/-! ### Behind the first character or the first escape -/

theorem escaped_eq_lookup (c : Char) : escaped? c = escapes.lookup c := by
  unfold escaped? escapes
  split
  case h_6 hn hr ht h0 hb =>
    have hne : ∀ d : Char, c ≠ d → (c == d) = false := fun d h => beq_eq_false_iff_ne.2 h
    simp [List.lookup_cons, hne 'n' hn, hne 'r' hr, hne 't' ht, hne '0' h0, hne '\\' hb]
  all_goals rfl

theorem escaped_eq_none_iff : escaped? c = none ↔ c ∉ escapes.map Prod.fst := by
  rw [escaped_eq_lookup, List.lookup_eq_none_iff]
  simp only [List.mem_map, not_exists, not_and, bne_iff_ne, ne_eq]
  exact ⟨fun h x hx hc => h x hx hc.symm, fun h x hx hc => h x hx hc.symm⟩

/-- A character that is no backslash moves every escape behind it by one place. -/
theorem opens_cons (hc : c ≠ '\\') (i : ℕ) : opens (c :: cs) (i + 1) = opens cs i := by
  induction i with
  | zero => simp [opens, hc]
  | succ i ih => rw [opens, ih, opens, List.getElem?_cons_succ]

/-- An escape moves every escape behind it by two places. -/
theorem opens_escape (i : ℕ) : opens ('\\' :: e :: cs) (i + 2) = opens cs i := by
  induction i with
  | zero => simp [opens]
  | succ i ih => rw [opens, ih, opens, List.getElem?_cons_succ, List.getElem?_cons_succ]

theorem opens_zero_of_ne (hc : c ≠ '\\') : opens (c :: cs) 0 = false := by simp [opens, hc]

theorem opens_zero : opens ('\\' :: cs) 0 = true := by simp [opens]

theorem opens_one : opens ('\\' :: cs) 1 = false := by simp [opens]

theorem octetsAt_cons (hc : c ≠ '\\') (i : ℕ) : octetsAt (c :: cs) (i + 1) = octetsAt cs i := by
  have hcloses : closes (c :: cs) (i + 1) = closes cs i := by
    cases i with
    | zero => exact opens_zero_of_ne hc
    | succ i => exact opens_cons hc i
  simp only [octetsAt, opens_cons hc, hcloses, List.getElem?_cons_succ]

theorem octetsAt_escape (i : ℕ) : octetsAt ('\\' :: e :: cs) (i + 2) = octetsAt cs i := by
  have hcloses : closes ('\\' :: e :: cs) (i + 2) = closes cs i := by
    cases i with
    | zero => exact opens_one
    | succ i => exact opens_escape i
  simp only [octetsAt, opens_escape, hcloses, List.getElem?_cons_succ]

/-- **A character that is no backslash has its own octets.** -/
theorem octets_cons (hc : c ≠ '\\') : octets (c :: cs) = String.utf8EncodeChar c ++ octets cs := by
  have hfirst : octetsAt (c :: cs) 0 = String.utf8EncodeChar c := by
    simp [octetsAt, opens_zero_of_ne hc, closes]
  rw [octets, List.length_cons, List.range_succ_eq_map, List.flatMap_cons, hfirst, List.flatMap_map]
  simp only [Nat.succ_eq_add_one, octetsAt_cons hc]
  rfl

/-- **An escape stands for one octet.** -/
theorem octets_escape (he : escapes.lookup e = some b) :
    octets ('\\' :: e :: cs) = b :: octets cs := by
  have hfirst : octetsAt ('\\' :: e :: cs) 0 = [b] := by simp [octetsAt, opens_zero, he]
  have hsecond : octetsAt ('\\' :: e :: cs) 1 = [] := by
    simp [octetsAt, opens_one, closes, opens_zero]
  rw [octets, List.length_cons, List.length_cons, List.range_succ_eq_map, List.range_succ_eq_map]
  simp only [List.flatMap_cons, List.map_cons, List.flatMap_map, Nat.succ_eq_add_one, Nat.zero_add,
    hfirst, hsecond, octetsAt_escape]
  rfl

/-- Behind a character that is no backslash the same escapes are unknown. -/
theorem isUnknown_cons (hc : c ≠ '\\') {i : ℕ} {d : Char} :
    IsUnknown (c :: cs) i d ↔ ∃ j, i = j + 1 ∧ IsUnknown cs j d := by
  cases i with
  | zero => simp [IsUnknown, opens_zero_of_ne hc]
  | succ i => simp [IsUnknown, opens_cons hc]

/-- Behind an escape the same escapes are unknown. -/
theorem isUnknown_escape {i : ℕ} {d : Char} :
    IsUnknown ('\\' :: e :: cs) i d ↔
      (i = 0 ∧ d = e ∧ e ∉ escapes.map Prod.fst) ∨ ∃ j, i = j + 2 ∧ IsUnknown cs j d := by
  rcases i with _ | _ | i
  · simp only [IsUnknown, opens_zero, List.getElem?_cons_succ, List.getElem?_cons_zero,
      Option.some.injEq, true_and]
    constructor
    · rintro ⟨rfl, hd⟩
      exact .inl ⟨rfl, hd⟩
    · rintro (⟨rfl, hd⟩ | ⟨j, hj, -⟩)
      · exact ⟨rfl, hd⟩
      · omega
  · simp [IsUnknown, opens_one]
  · simp [IsUnknown, opens_escape]

/-- There is one leftmost unknown escape at most. -/
theorem IsFirstUnknown.unique {i j : ℕ} {c d : Char} (hc : IsFirstUnknown cs i c)
    (hd : IsFirstUnknown cs j d) :
    c = d := by
  rcases Nat.lt_trichotomy i j with hlt | rfl | hlt
  · exact absurd hc.1 (hd.2 i hlt c)
  · exact Option.some.inj (hc.1.2.1.symm.trans hd.1.2.1)
  · exact absurd hd.1 (hc.2 j hlt d)

/-! ### The reader -/

theorem decodeChars_cons (hc : c ≠ '\\') :
    decodeChars (c :: cs) = (decodeChars cs).map (String.utf8EncodeChar c ++ ·) := by
  rw [decodeChars] <;> simp [hc]

/-- **Either some escape is unknown and the leftmost one is the fault, or the octets are read.** -/
theorem decodeChars_cases (cs : List Char) :
    (∃ i c, IsFirstUnknown cs i c ∧ decodeChars cs = .error (.unknownEscape c)) ∨
      ((∀ i c, ¬ IsUnknown cs i c) ∧ decodeChars cs = .ok (octets cs)) := by
  induction cs using decodeChars.induct with
  | case1 => exact .inr ⟨by simp [IsUnknown], rfl⟩
  | case2 => exact .inr ⟨by simp [IsUnknown], rfl⟩
  | case3 e cs he =>
    have hunknown : IsUnknown ('\\' :: e :: cs) 0 e :=
      isUnknown_escape.2 (.inl ⟨rfl, rfl, escaped_eq_none_iff.1 he⟩)
    exact .inl
      ⟨0, e, ⟨hunknown, fun j hj => absurd hj (Nat.not_lt_zero j)⟩, by rw [decodeChars, he]⟩
  | case4 e cs b he ih =>
    have hknown : ¬ e ∉ escapes.map Prod.fst := fun hn => by
      rw [escaped_eq_none_iff.2 hn] at he
      cases he
    -- only what stands behind this escape may be unknown
    have hbehind : ∀ {i d}, IsUnknown ('\\' :: e :: cs) i d → ∃ j, i = j + 2 ∧ IsUnknown cs j d :=
      fun h => (isUnknown_escape.1 h).resolve_left fun hfirst => hknown hfirst.2.2
    have hread : decodeChars ('\\' :: e :: cs) = (decodeChars cs).map (b :: ·) := by
      rw [decodeChars, he]
    rcases ih with ⟨i, c, hfirst, herror⟩ | ⟨hnone, hok⟩
    · refine .inl ⟨i + 2, c, ⟨isUnknown_escape.2 (.inr ⟨i, rfl, hfirst.1⟩), ?_⟩, by
        rw [hread, herror]; rfl⟩
      intro j hj d hd
      obtain ⟨k, rfl, hk⟩ := hbehind hd
      exact hfirst.2 k (by omega) d hk
    · refine .inr ⟨fun i c hc => ?_, ?_⟩
      · obtain ⟨k, -, hk⟩ := hbehind hc
        exact hnone k c hk
      · rw [hread, hok, octets_escape (escaped_eq_lookup e ▸ he)]
        rfl
  | case5 c cs hlone hescape ih =>
    have hc : c ≠ '\\' := by
      rintro rfl
      cases cs with
      | nil => exact hlone rfl rfl
      | cons e cs => exact hescape e cs rfl rfl
    rcases ih with ⟨i, d, hfirst, herror⟩ | ⟨hnone, hok⟩
    · refine .inl ⟨i + 1, d, ⟨(isUnknown_cons hc).2 ⟨i, rfl, hfirst.1⟩, ?_⟩, by
        rw [decodeChars_cons hc, herror]; rfl⟩
      intro j hj d' hd
      obtain ⟨k, rfl, hk⟩ := (isUnknown_cons hc).1 hd
      exact hfirst.2 k (by omega) d' hk
    · refine .inr ⟨fun i d hd => ?_, by rw [decodeChars_cons hc, hok, octets_cons hc]; rfl⟩
      obtain ⟨k, -, hk⟩ := (isUnknown_cons hc).1 hd
      exact hnone k d hk

/-- What is no backslash may be kept, and an escape stands for the one octet of its character. -/
theorem spelling_cases {w : List Char} (hw : w ∈ spellings c) :
    (c ≠ '\\' ∧ w = [c]) ∨
      ∃ e b, w = ['\\', e] ∧ escaped? e = some b ∧ String.utf8EncodeChar c = [b] := by
  unfold spellings at hw
  split at hw
  case h_1 => exact .inr ⟨'\\', 92, List.mem_singleton.1 hw, rfl, rfl⟩
  case h_6 hb _ _ _ _ => exact .inl ⟨hb, List.mem_singleton.1 hw⟩
  case h_2 | h_3 | h_4 | h_5 =>
    rcases List.mem_cons.1 hw with rfl | hw
    · exact .inl ⟨by decide, rfl⟩
    · exact .inr ⟨_, _, List.mem_singleton.1 hw, rfl, rfl⟩

/-- **A spelling of a character is read as its octets.** -/
theorem decodeChars_spelling {w : List Char} (hw : w ∈ spellings c) (cs : List Char) :
    decodeChars (w ++ cs) = (decodeChars cs).map (String.utf8EncodeChar c ++ ·) := by
  rcases spelling_cases hw with ⟨hc, rfl⟩ | ⟨e, b, rfl, he, hb⟩
  · exact decodeChars_cons hc
  · rw [List.cons_append, List.singleton_append, decodeChars, he, hb]
    rfl

/-- **A spelling of a text is read as its octets.** -/
theorem decode_of_isSpelling {text spelled : String} (h : IsSpelling text spelled) :
    decode spelled = .ok (Text.utf8 text) := by
  obtain ⟨words, hwords, hspelled⟩ := h
  rw [decode, Text.utf8, hspelled]
  clear hspelled
  generalize text.toList = chars at hwords
  induction hwords with
  | nil => rfl
  | @cons c w chars words hw _ ih =>
    rw [List.flatten_cons, decodeChars_spelling hw, ih]
    rfl

/-- **A terminator is read by its escapes.** An escape opens at each backslash that is not itself
the second character of one. The terminator is at fault just if one of them may not have its second
character, and the leftmost of these decides the fault. Otherwise it gives its UTF-8 octets, with
each escape replaced by its octet and a backslash at the very end kept. So every spelling of a text
with doubled backslashes, whichever other escapes it uses, gives the octets of the text. -/
theorem decode_follows_escapes (raw : String) :
    (∀ fault, decode raw = .error fault ↔
      ∃ i c, IsFirstUnknown raw.toList i c ∧ fault = .unknownEscape c) ∧
      (∀ bs, decode raw = .ok bs ↔ (∀ i c, ¬ IsUnknown raw.toList i c) ∧ bs = octets raw.toList) ∧
      ∀ text, IsSpelling text raw → decode raw = .ok (Text.utf8 text) := by
  refine ⟨fun fault => ?_, fun bs => ?_, fun text => decode_of_isSpelling⟩
  · rw [decode]
    rcases decodeChars_cases raw.toList with ⟨i, c, hfirst, herror⟩ | ⟨hnone, hok⟩
    · rw [herror, Except.error.injEq]
      constructor
      · rintro rfl
        exact ⟨i, c, hfirst, rfl⟩
      · rintro ⟨j, d, hother, rfl⟩
        rw [hfirst.unique hother]
    · rw [hok]
      refine ⟨nofun, ?_⟩
      rintro ⟨i, c, hfirst, -⟩
      exact absurd hfirst.1 (hnone i c)
  · rw [decode]
    rcases decodeChars_cases raw.toList with ⟨i, c, hfirst, herror⟩ | ⟨hnone, hok⟩
    · rw [herror]
      refine ⟨nofun, ?_⟩
      rintro ⟨hnone, -⟩
      exact absurd hfirst.1 (hnone i c)
    · rw [hok, Except.ok.injEq]
      exact ⟨fun h => ⟨hnone, h.symm⟩, fun h => h.2.symm⟩

/-- A text with every character that has an escape, and one spelling of it: the carriage return is
kept. -/
def thorny : String := "\n\\n\u00e9\r\t\x00"

def thornySpelled : String := "\\n\\\\n\u00e9\r\\t\\0"

theorem thorny_isSpelling : IsSpelling thorny thornySpelled := by
  refine ⟨[['\\', 'n'], ['\\', '\\'], ['n'], ['\u00e9'], ['\r'], ['\\', 't'], ['\\', '0']],
    ?_, by decide⟩
  have htext : thorny.toList = ['\n', '\\', 'n', '\u00e9', '\r', '\t', '\x00'] := by decide
  rw [htext]
  simp [spellings]

/-- Two escapes that stand for nothing, the first one behind a doubled backslash. -/
def twoUnknown : String := "\\\\n\\q\\z"

theorem twoUnknown_isFirstUnknown : IsFirstUnknown twoUnknown.toList 3 'q' := by
  have hclosed : opens twoUnknown.toList 1 = false ∧ opens twoUnknown.toList 2 = false := by decide
  have hsecond : twoUnknown.toList[1]? = some '\\' := by decide
  refine ⟨by unfold IsUnknown; decide, ?_⟩
  rintro j hj d ⟨hopens, hd, hout⟩
  rcases j with _ | _ | _ | j
  · -- the first escape doubles a backslash
    obtain rfl : '\\' = d := Option.some.inj (hsecond.symm.trans hd)
    exact hout (by decide)
  · exact Bool.false_ne_true (hclosed.1.symm.trans hopens)
  · exact Bool.false_ne_true (hclosed.2.symm.trans hopens)
  · omega

theorem decode_follows_escapes_thorny :
    (IsSpelling thorny thornySpelled ∧ IsFirstUnknown twoUnknown.toList 3 'q') ∧
      decode thornySpelled = .ok [10, 92, 110, 195, 169, 13, 9, 0] ∧
      decode twoUnknown = .error (.unknownEscape 'q') := by
  have hread := (decode_follows_escapes thornySpelled).2.2 thorny thorny_isSpelling
  have hfault := ((decode_follows_escapes twoUnknown).1 (.unknownEscape 'q')).2
    ⟨3, 'q', twoUnknown_isFirstUnknown, rfl⟩
  exact ⟨⟨thorny_isSpelling, twoUnknown_isFirstUnknown⟩, hread, hfault⟩

end SerialRelay.Terminator

import Mathlib.Data.List.Basic
import Mathlib.Data.List.TakeWhile
import SerialRelay.Payload.Hex

/-!
# The words of a line and their places

A line is read word by word: over separators, and over each word up to the separator behind it. So a
line may be cut before any separator, and the runs of a line are its words, each in the column
behind what stands before it.

* `Hex.runs_induction`: induction over a line, one separator or one word at a time.
* `Hex.runs_append`: a line may be cut before a separator.
* `Hex.IsWordOf`: a word of a line, with what stands before and behind it.
* `Hex.IsWordOf.runs_eq`, `Hex.exists_isWordOf`: the runs of a line around one of its words, and a
  word for each run.
-/

namespace SerialRelay.Hex

/-- **A word of a line**, with what stands before and behind it. -/
structure IsWordOf (line before word behind : List Char) : Prop where
  line_eq : line = before ++ word ++ behind
  ne_nil : word ≠ []
  joined : ∀ c ∈ word, isSeparator c = false
  starts : ∀ c ∈ before.getLast?, isSeparator c = true
  ends : ∀ c ∈ behind.head?, isSeparator c = true

theorem runs_separator {c : Char} (h : isSeparator c = true) (column : ℕ) (cs : List Char) :
    runs column (c :: cs) = runs (column + 1) cs := by
  rw [runs, if_pos h]

theorem runs_word_append {word rest : List Char} (hne : word ≠ [])
    (hjoined : ∀ c ∈ word, isSeparator c = false) (hrest : ∀ c ∈ rest.head?, isSeparator c = true)
    (column : ℕ) :
    runs column (word ++ rest) = ⟨column, word⟩ :: runs (column + word.length) rest := by
  obtain ⟨c, cs, rfl⟩ := List.exists_cons_of_ne_nil hne
  have hall : ∀ d ∈ cs, (!isSeparator d) = true := fun d hd => by
    rw [hjoined d (List.mem_cons_of_mem c hd)]
    rfl
  have htake : rest.takeWhile (!isSeparator ·) = [] := by
    cases rest with
    | nil => rfl
    | cons d ds => simp [hrest d rfl]
  have hdrop : rest.dropWhile (!isSeparator ·) = rest := by
    cases rest with
    | nil => rfl
    | cons d ds => simp [hrest d rfl]
  rw [List.cons_append, runs, if_neg (Bool.eq_false_iff.1 (hjoined c List.mem_cons_self))]
  simp only [List.takeWhile_append_of_pos hall, List.dropWhile_append_of_pos hall, htake, hdrop,
    List.append_nil]

/-- **Induction over a line**: its end, a separator, or a word up to the separator behind it. -/
@[elab_as_elim]
theorem runs_induction {motive : ℕ → List Char → Prop} (nil : ∀ column, motive column [])
    (separator : ∀ column c cs, isSeparator c = true → motive (column + 1) cs →
      motive column (c :: cs))
    (word : ∀ column word rest, word ≠ [] → (∀ c ∈ word, isSeparator c = false) →
      (∀ c ∈ rest.head?, isSeparator c = true) → motive (column + word.length) rest →
        motive column (word ++ rest))
    (column : ℕ) (cs : List Char) : motive column cs := by
  induction column, cs using runs.induct with
  | case1 column => exact nil column
  | case2 column c cs hsep ih => exact separator column c cs hsep ih
  | case3 column c cs hsep first ih =>
    have hcut : c :: cs = first ++ cs.dropWhile (!isSeparator ·) := by
      simp [first, List.takeWhile_append_dropWhile]
    rw [hcut]
    refine word column first _ (List.cons_ne_nil _ _) ?_ ?_ ih
    · intro d hd
      rcases List.mem_cons.1 hd with rfl | hd
      · simpa using hsep
      · simpa using List.mem_takeWhile_imp hd
    · intro d hd
      have hhead := List.head?_dropWhile_not (!isSeparator ·) cs
      rw [hd] at hhead
      simpa using hhead

theorem head?_append_separator {cs ds : List Char} (hcs : ∀ c ∈ cs.head?, isSeparator c = true)
    (hds : ∀ c ∈ ds.head?, isSeparator c = true) :
    ∀ c ∈ (cs ++ ds).head?, isSeparator c = true := by
  cases cs with
  | nil => exact hds
  | cons c cs => exact hcs

/-- **A line may be cut before a separator.** -/
theorem runs_append {ys : List Char} (hys : ∀ c ∈ ys.head?, isSeparator c = true) (column : ℕ)
    (xs : List Char) :
    runs column (xs ++ ys) = runs column xs ++ runs (column + xs.length) ys := by
  induction column, xs using runs_induction with
  | nil column => simp [runs]
  | separator column c cs hsep ih =>
    rw [List.cons_append, runs_separator hsep, runs_separator hsep, ih, List.length_cons,
      Nat.add_assoc column, Nat.add_comm 1]
  | word column word rest hne hjoined hrest ih =>
    rw [List.append_assoc, runs_word_append hne hjoined (head?_append_separator hrest hys), ih,
      runs_word_append hne hjoined hrest, List.length_append, Nat.add_assoc]
    rfl

/-- A word alone is one run. -/
theorem runs_word {word : List Char} (hne : word ≠ []) (hjoined : ∀ c ∈ word, isSeparator c = false)
    (column : ℕ) :
    runs column word = [⟨column, word⟩] := by
  have hend : ∀ c ∈ ([] : List Char).head?, isSeparator c = true := nofun
  have h := runs_word_append hne hjoined hend column
  rwa [List.append_nil, runs] at h

namespace IsWordOf

variable {line before word behind : List Char}

/-- **The runs of a line around one of its words.** -/
theorem runs_eq (h : IsWordOf line before word behind) (column : ℕ) :
    runs column line = runs column before ++
      ⟨column + before.length, word⟩ :: runs (column + before.length + word.length) behind := by
  rw [h.line_eq, runs_append h.ends, List.length_append, ← Nat.add_assoc]
  -- the separator that ends what stands before the word is in no run
  rcases List.eq_nil_or_concat before with rfl | ⟨init, s, rfl⟩
  · rw [List.nil_append, runs_word h.ne_nil h.joined, runs]
    rfl
  · have hs : isSeparator s = true := h.starts s (by simp)
    have hhead : ∀ ys : List Char, ∀ c ∈ (s :: ys).head?, isSeparator c = true := fun ys c hc => by
      obtain rfl : s = c := Option.some.inj hc
      exact hs
    have hcut : init.concat s ++ word = init ++ s :: word := by simp
    rw [hcut, runs_append (hhead word), runs_separator hs, runs_word h.ne_nil h.joined,
      List.concat_eq_append, runs_append (hhead []), runs_separator hs, runs, List.append_nil,
      List.length_append, List.length_singleton, Nat.add_assoc column, List.append_assoc]
    rfl

theorem cons {s : Char} (hs : isSeparator s = true) (h : IsWordOf line before word behind) :
    IsWordOf (s :: line) (s :: before) word behind where
  line_eq := by rw [h.line_eq]; rfl
  ne_nil := h.ne_nil
  joined := h.joined
  starts c hc := by
    rw [List.getLast?_cons] at hc
    obtain rfl := Option.some.inj hc
    cases hlast : before.getLast? with
    | none => exact hs
    | some d => exact h.starts d hlast
  ends := h.ends

/-- Between two words there is a separator. -/
theorem head_before (h : IsWordOf line before word behind)
    (hline : ∀ c ∈ line.head?, isSeparator c = true) :
    before ≠ [] ∧ ∀ c ∈ before.head?, isSeparator c = true := by
  have hhead : line.head? = (before ++ word).head? := by
    obtain ⟨c, cs, hw⟩ := List.exists_cons_of_ne_nil h.ne_nil
    rw [h.line_eq, hw]
    cases before <;> rfl
  rw [hhead] at hline
  cases before with
  | nil =>
    obtain ⟨c, cs, rfl⟩ := List.exists_cons_of_ne_nil h.ne_nil
    have hsep := hline c rfl
    rw [h.joined c List.mem_cons_self] at hsep
    cases hsep
  | cons c cs => exact ⟨List.cons_ne_nil c cs, hline⟩

theorem append {first : List Char} (h : IsWordOf line before word behind) (hbefore : before ≠ []) :
    IsWordOf (first ++ line) (first ++ before) word behind where
  line_eq := by rw [h.line_eq]; simp
  ne_nil := h.ne_nil
  joined := h.joined
  starts := by
    rw [List.getLast?_append_of_ne_nil _ hbefore]
    exact h.starts
  ends := h.ends

end IsWordOf

/-- **Each run is a word of the line**, in the column behind what stands before it. -/
theorem exists_isWordOf {r : Run} {back : List Run} (column : ℕ) (line : List Char) :
    ∀ front, runs column line = front ++ r :: back →
      ∃ before behind, IsWordOf line before r.text behind ∧
      runs column before = front ∧ r.column = column + before.length := by
  induction column, line using runs_induction with
  | nil column => simp [runs]
  | separator column c cs hsep ih =>
    intro front h
    rw [runs_separator hsep] at h
    obtain ⟨before, behind, hword, hfront, hcolumn⟩ := ih front h
    refine ⟨c :: before, behind, hword.cons hsep, ?_, ?_⟩
    · rw [runs_separator hsep, hfront]
    · rw [hcolumn, List.length_cons, Nat.add_assoc, Nat.add_comm 1]
  | word column word rest hne hjoined hrest ih =>
    intro front h
    rw [runs_word_append hne hjoined hrest] at h
    cases front with
    | nil =>
      obtain ⟨rfl, -⟩ := List.cons.inj h
      exact ⟨[], rest, ⟨rfl, hne, hjoined, by simp, hrest⟩, by rw [runs], rfl⟩
    | cons f front =>
      rw [List.cons_append, List.cons.injEq] at h
      obtain ⟨rfl, hback⟩ := h
      obtain ⟨before, behind, hword, hfront, hcolumn⟩ := ih front hback
      obtain ⟨hne', hhead⟩ := hword.head_before hrest
      refine ⟨word ++ before, behind, hword.append hne', ?_, ?_⟩
      · rw [runs_word_append hne hjoined hhead, hfront]
      · rw [hcolumn, List.length_append, Nat.add_assoc]

end SerialRelay.Hex

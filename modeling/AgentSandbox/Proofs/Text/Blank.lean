import AgentSandbox.Text.Blank

/-!
# Trimming

A text is its trimmed form between two runs of blanks (`exists_blanks_trim`), and blanks added at
either end are not noticed (`trim_append_left`, `trim_append_right`).  Hence trimming a second time
changes nothing.
-/

namespace AgentSandbox.Text

theorem dropEndWhile_append {p : Char → Bool} {b : List Char} (hb : ∀ c ∈ b, p c = true)
    (cs : List Char) : dropEndWhile p (cs ++ b) = dropEndWhile p cs := by
  unfold dropEndWhile
  rw [List.reverse_append, List.dropWhile_append_of_pos fun c hc => hb c (List.mem_reverse.1 hc)]

theorem trim_append_left {a : List Char} (ha : ∀ c ∈ a, isBlank c = true) (cs : List Char) :
    trim (a ++ cs) = trim cs := by
  unfold trim
  rw [List.dropWhile_append_of_pos ha]

theorem trim_append_right {b : List Char} (hb : ∀ c ∈ b, isBlank c = true) (cs : List Char) :
    trim (cs ++ b) = trim cs := by
  unfold trim
  rw [List.dropWhile_append]
  split
  · next h =>
    have hnil : b.dropWhile isBlank = [] := by
      rw [← List.append_nil b, List.dropWhile_append_of_pos hb, List.dropWhile_nil]
    rw [hnil, List.isEmpty_iff.1 h]
  · exact dropEndWhile_append hb _

theorem exists_blanks_dropEndWhile (p : Char → Bool) (cs : List Char) :
    ∃ b, (∀ c ∈ b, p c = true) ∧ cs = dropEndWhile p cs ++ b := by
  refine ⟨(cs.reverse.takeWhile p).reverse, fun c hc => ?_, ?_⟩
  · exact List.all_eq_true.1 List.all_takeWhile c (List.mem_reverse.1 hc)
  · unfold dropEndWhile
    rw [← List.reverse_append, List.takeWhile_append_dropWhile, List.reverse_reverse]

/-- A text is its trimmed form between two runs of blanks. -/
theorem exists_blanks_trim (cs : List Char) :
    ∃ a b, (∀ c ∈ a, isBlank c = true) ∧ (∀ c ∈ b, isBlank c = true) ∧ cs = a ++ trim cs ++ b := by
  obtain ⟨b, hb, h⟩ := exists_blanks_dropEndWhile isBlank (cs.dropWhile isBlank)
  refine ⟨cs.takeWhile isBlank, b, List.all_eq_true.1 List.all_takeWhile, hb, ?_⟩
  rw [List.append_assoc]
  unfold trim
  rw [← h, List.takeWhile_append_dropWhile]

theorem trim_trim (cs : List Char) : trim (trim cs) = trim cs := by
  obtain ⟨a, b, ha, hb, h⟩ := exists_blanks_trim cs
  calc trim (trim cs) = trim (a ++ trim cs ++ b) := by
        rw [trim_append_right hb, trim_append_left ha]
    _ = trim cs := by rw [← h]

/-- A character that is not dropped ends the dropping, whatever follows it. -/
theorem dropWhile_append_cons {p : Char → Bool} {c : Char} (hc : p c = false) (cs ds : List Char) :
    (cs ++ c :: ds).dropWhile p = cs.dropWhile p ++ c :: ds := by
  rw [List.dropWhile_append]
  split
  · next h => rw [List.isEmpty_iff.1 h, List.dropWhile_cons_of_neg (by simp [hc]), List.nil_append]
  · rfl

theorem takeWhile_append_cons {p : Char → Bool} {c : Char} (hc : p c = false) (cs ds : List Char) :
    (cs ++ c :: ds).takeWhile p = cs.takeWhile p := by
  rw [List.takeWhile_append, List.takeWhile_cons_of_neg (by simp [hc]), List.append_nil]
  split
  · next h => exact ((List.takeWhile_prefix p).eq_of_length h).symm
  · rfl

theorem dropEndWhile_append_cons {p : Char → Bool} {c : Char} (hc : p c = false)
    (cs ds : List Char) : dropEndWhile p (cs ++ c :: ds) = cs ++ c :: dropEndWhile p ds := by
  unfold dropEndWhile
  rw [List.reverse_append, List.reverse_cons, List.append_assoc, List.singleton_append,
    dropWhile_append_cons hc, List.reverse_append, List.reverse_cons, List.reverse_reverse,
    List.append_assoc, List.singleton_append]

/-- Around a character that is not blank, only the outer ends are trimmed. -/
theorem trim_append_cons {c : Char} (hc : isBlank c = false) (cs ds : List Char) :
    trim (cs ++ c :: ds) = cs.dropWhile isBlank ++ c :: dropEndWhile isBlank ds := by
  rw [trim, dropWhile_append_cons hc, dropEndWhile_append_cons hc]

theorem trim_dropWhile (cs : List Char) : trim (cs.dropWhile isBlank) = trim cs := by
  have ha : ∀ c ∈ cs.takeWhile isBlank, isBlank c = true := List.all_eq_true.1 List.all_takeWhile
  rw [← trim_append_left ha, List.takeWhile_append_dropWhile]

theorem trim_dropEndWhile (cs : List Char) : trim (dropEndWhile isBlank cs) = trim cs := by
  obtain ⟨b, hb, h⟩ := exists_blanks_dropEndWhile isBlank cs
  rw [← trim_append_right hb, ← h]

theorem length_trim_le (cs : List Char) : (trim cs).length ≤ cs.length := by
  obtain ⟨a, b, -, -, h⟩ := exists_blanks_trim cs
  have := congrArg List.length h
  simp only [List.length_append] at this
  omega

/-- A text is trimmed if it neither begins nor ends with a blank. -/
theorem trim_eq_self_iff {cs : List Char} :
    trim cs = cs ↔ (∀ c ∈ cs.head?, isBlank c = false) ∧ ∀ c ∈ cs.getLast?, isBlank c = false := by
  constructor
  · intro h
    refine ⟨fun c hc => Bool.eq_false_iff.2 fun hb => ?_,
      fun c hc => Bool.eq_false_iff.2 fun hb => ?_⟩
    · obtain ⟨t, rfl⟩ := List.head?_eq_some_iff.1 hc
      have ht : trim (c :: t) = trim t := trim_append_left (a := [c]) (by simpa using hb) t
      have hle := length_trim_le t
      rw [← ht, h, List.length_cons] at hle
      omega
    · obtain ⟨t, rfl⟩ := List.getLast?_eq_some_iff.1 hc
      have ht : trim (t ++ [c]) = trim t := trim_append_right (by simpa using hb) t
      have hle := length_trim_le t
      rw [← ht, h, List.length_append, List.length_singleton] at hle
      omega
  · rintro ⟨hhead, hlast⟩
    have hd : cs.dropWhile isBlank = cs := by
      cases cs with
      | nil => rfl
      | cons c t => exact List.dropWhile_cons_of_neg (by simp [hhead c rfl])
    unfold trim dropEndWhile
    rw [hd]
    cases hr : cs.reverse with
    | nil => rw [List.reverse_eq_nil_iff.1 hr]; rfl
    | cons c t =>
      have hc : isBlank c = false := hlast c (by rw [← List.head?_reverse, hr]; rfl)
      rw [List.dropWhile_cons_of_neg (by simp [hc]), ← hr, List.reverse_reverse]

theorem mem_of_mem_trim {c : Char} {cs : List Char} (h : c ∈ trim cs) : c ∈ cs := by
  obtain ⟨a, b, -, -, hcs⟩ := exists_blanks_trim cs
  rw [hcs]
  exact List.mem_append_left _ (List.mem_append_right _ h)

theorem nonEmpty_ne (s : Option String) : nonEmpty s ≠ some "" := by
  intro h
  have := (Option.filter_eq_some_iff.1 h).2
  exact absurd this (by decide)

theorem nonEmpty_eq_self_iff {s : Option String} : nonEmpty s = s ↔ s ≠ some "" := by
  constructor
  · intro h
    exact h ▸ nonEmpty_ne s
  · intro h
    cases s with
    | none => rfl
    | some s =>
      have hs : s ≠ "" := fun hempty => h (congrArg some hempty)
      rw [nonEmpty, Option.filter_some_pos (by simpa using hs)]

theorem nonEmpty_nonEmpty (s : Option String) : nonEmpty (nonEmpty s) = nonEmpty s := by
  simp only [nonEmpty, Option.filter_filter, Bool.and_self]

theorem getD_nonEmpty (s : Option String) : (nonEmpty s).getD "" = s.getD "" := by
  cases s with
  | none => rfl
  | some s =>
    by_cases h : s = ""
    · rw [h]
      rfl
    · rw [nonEmpty, Option.filter_some_pos (by simpa using h)]

end AgentSandbox.Text

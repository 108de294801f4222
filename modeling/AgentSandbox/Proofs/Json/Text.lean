import AgentSandbox.Json.Printer
import AgentSandbox.Json.Reader

/-!
# Strings in quotes

A string is read back from its text (`exists_printText`): every character is, whether it stands for
itself or is escaped (`escaped_cases`).  What is printed holds no control character
(`le_toNat_of_mem_printText`).
-/

namespace AgentSandbox.Json

/-! ## Escapes -/

theorem hexValue?_digitChar {d : Nat} (h : d < 16) : hexValue? (Nat.digitChar d) = some d := by
  revert d
  decide

theorem le_toNat_digitChar {d : Nat} (h : d < 16) : 0x20 ≤ (Nat.digitChar d).toNat := by
  revert d
  decide

/-- The escape of a control character spells its number. -/
theorem escape?_unitEscape {c : Char} (h : c.toNat < 0x20) (rest : List Char) :
    escape? ((unitEscape c).tail ++ rest) = some (some c, rest) := by
  have hhigh := hexValue?_digitChar (d := c.toNat / 16) (by omega)
  have hlow := hexValue?_digitChar (d := c.toNat % 16) (by omega)
  have hzero : hexValue? '0' = some 0 := by decide
  have hvalue : ((0 * 16 + 0) * 16 + c.toNat / 16) * 16 + c.toNat % 16 = c.toNat := by omega
  have hunit : unit? ('0' :: '0' :: Nat.digitChar (c.toNat / 16) :: Nat.digitChar (c.toNat % 16) ::
      rest) = some (c.toNat, rest) := by
    simp only [unit?, hhigh, hlow, hzero, hvalue, Option.bind_eq_bind, Option.bind_some]
  have hplain : c.toNat < 0xD800 ∨ 0xDFFF < c.toNat := by omega
  simp only [unitEscape, List.tail_cons, List.cons_append, List.nil_append, escape?, hunit,
    if_pos hplain, Char.ofNat_toNat]

theorem le_toNat_of_mem_unitEscape {c x : Char} (h : c.toNat < 0x20)
    (hx : x ∈ (unitEscape c).tail) : 0x20 ≤ x.toNat := by
  simp only [unitEscape, List.tail_cons, List.mem_cons, List.not_mem_nil, or_false] at hx
  rcases hx with rfl | rfl | rfl | rfl | rfl
  · decide
  · decide
  · decide
  · exact le_toNat_digitChar (by omega)
  · exact le_toNat_digitChar (by omega)

/-- The text behind a backslash is an escape of the character. -/
def Escapes (e : List Char) (c : Char) : Prop :=
  (∀ rest, escape? (e ++ rest) = some (some c, rest)) ∧ ∀ x ∈ e, 0x20 ≤ x.toNat

theorem Escapes.single {x c : Char} (h : ∀ rest, escape? (x :: rest) = some (some c, rest))
    (hx : 0x20 ≤ x.toNat) : Escapes [x] c :=
  ⟨h, List.forall_mem_singleton.2 hx⟩

/-- A character stands for itself or is escaped. -/
theorem escaped_cases (c : Char) :
    (escaped c = [c] ∧ c ≠ '"' ∧ c ≠ '\\' ∧ 0x20 ≤ c.toNat) ∨
      ∃ e, escaped c = '\\' :: e ∧ Escapes e c := by
  unfold escaped
  split
  · next h => subst h; exact .inr ⟨_, rfl, .single (fun _ => rfl) (by decide)⟩
  split
  · next h => subst h; exact .inr ⟨_, rfl, .single (fun _ => rfl) (by decide)⟩
  split
  · next h => subst h; exact .inr ⟨_, rfl, .single (fun _ => rfl) (by decide)⟩
  split
  · next h => subst h; exact .inr ⟨_, rfl, .single (fun _ => rfl) (by decide)⟩
  split
  · next h => subst h; exact .inr ⟨_, rfl, .single (fun _ => rfl) (by decide)⟩
  split
  · next h => subst h; exact .inr ⟨_, rfl, .single (fun _ => rfl) (by decide)⟩
  split
  · next h => subst h; exact .inr ⟨_, rfl, .single (fun _ => rfl) (by decide)⟩
  split
  · next h =>
    exact .inr ⟨_, rfl, escape?_unitEscape h, fun x hx => le_toNat_of_mem_unitEscape h hx⟩
  · next hquote hslash _ _ _ _ _ h => exact .inl ⟨rfl, hquote, hslash, Nat.le_of_not_lt h⟩

/-! ## Strings -/

theorem characters?_escape {cs rest : List Char} {x : Option Char}
    (h : escape? cs = some (x, rest)) :
    characters? ('\\' :: cs) = (characters? rest).map fun (xs, rest) => (x :: xs, rest) := by
  rw [characters?, if_neg (by decide), if_pos rfl]
  split
  · next hnone => rw [h] at hnone; cases hnone
  · next x' rest' hsome =>
    rw [h] at hsome
    cases hsome
    rfl

/-- The characters that stand for a character are read as this character. -/
theorem characters?_escaped (c : Char) (rest : List Char) :
    characters? (escaped c ++ rest) =
      (characters? rest).map fun (xs, rest) => (some c :: xs, rest) := by
  rcases escaped_cases c with ⟨h, hquote, hslash, hle⟩ | ⟨e, h, hread, -⟩
  · have hmark : c ≠ illFormed := by
      rintro rfl
      exact absurd hle (by decide)
    rw [h, List.cons_append, List.nil_append, characters?, if_neg hquote, if_neg hslash,
      if_neg hmark, if_neg (Nat.not_lt.2 hle)]
  · rw [h, List.cons_append, characters?_escape (hread rest)]

theorem characters?_flatMap_escaped (cs rest : List Char) :
    characters? (cs.flatMap escaped ++ '"' :: rest) = some (cs.map some, rest) := by
  induction cs with
  | nil => rw [List.flatMap_nil, List.nil_append, characters?, if_pos rfl]; rfl
  | cons c cs ih =>
    rw [List.flatMap_cons, List.append_assoc, characters?_escaped, ih]
    rfl

/-- A string is read back from its text, whatever follows it. -/
theorem exists_printText (s : String) :
    ∃ body, printText s = '"' :: body ∧ ∀ rest, string? (body ++ rest) = some (some s, rest) := by
  refine ⟨s.toList.flatMap escaped ++ ['"'], rfl, fun rest => ?_⟩
  have hread := characters?_flatMap_escaped s.toList rest
  have hall : (s.toList.map some).mapM id = some s.toList := by
    simpa using List.mapM_pure (m := Option) (f := id) (l := s.toList)
  simp only [List.append_assoc, List.cons_append, List.nil_append, string?, hread, Option.map_some,
    hall, String.ofList_toList]

/-- What stands for a string holds no control character. -/
theorem le_toNat_of_mem_printText {s : String} {x : Char} (h : x ∈ printText s) :
    0x20 ≤ x.toNat := by
  simp only [printText, List.mem_append, List.mem_cons, List.mem_flatMap, List.not_mem_nil,
    or_false] at h
  rcases h with (rfl | ⟨c, -, hx⟩) | rfl
  · decide
  · rcases escaped_cases c with ⟨h, -, -, hle⟩ | ⟨e, h, -, hle⟩
    · rw [h, List.mem_singleton] at hx
      exact hx ▸ hle
    · rw [h] at hx
      rcases List.mem_cons.1 hx with rfl | hx
      · decide
      · exact hle x hx
  · decide

end AgentSandbox.Json

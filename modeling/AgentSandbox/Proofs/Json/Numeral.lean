import AgentSandbox.Json.Numeral
import AgentSandbox.Json.Printer

/-!
# Numerals of integers

The text of an integer reads as its numeral (`Numeral.read?_print`), whatever follows it that does
not go on with a numeral, and the numeral of an integer that fits 64 bits means that integer
(`Numeral.number?_ofInt`).
-/

namespace AgentSandbox.Json

/-- The integer fits 64 bits, with a sign or without. -/
def IsWord (n : Int) : Prop := -0x8000000000000000 ≤ n ∧ n < 0x10000000000000000

instance (n : Int) : Decidable (IsWord n) := inferInstanceAs (Decidable (_ ∧ _))

/-- The text does not go on with a numeral that ends in front of it. -/
def EndsNumeral (rest : List Char) : Prop :=
  ∀ c ∈ rest.head?, c.isDigit = false ∧ c ≠ '.' ∧ c ≠ 'e' ∧ c ≠ 'E'

theorem endsNumeral_nil : EndsNumeral [] := by
  intro c hc
  cases hc

theorem endsNumeral_cons {c : Char} (hd : c.isDigit = false) (hpoint : c ≠ '.') (he : c ≠ 'e')
    (hE : c ≠ 'E') (rest : List Char) : EndsNumeral (c :: rest) := by
  intro x hx
  obtain rfl := Option.some.inj hx
  exact ⟨hd, hpoint, he, hE⟩

namespace Numeral

/-- The numeral of an integer. -/
def ofInt (n : Int) : Numeral := ⟨decide (n < 0), Nat.toDigits 10 n.natAbs, none, none⟩

/-! ## Reading digits -/

theorem isDigit_of_mem_toDigits {n : Nat} {c : Char} (h : c ∈ Nat.toDigits 10 n) :
    c.isDigit = true :=
  Nat.isDigit_of_mem_toDigits (by decide) (by decide) h

theorem toDigits_inj {n m : Nat} (h : Nat.toDigits 10 n = Nat.toDigits 10 m) : n = m := by
  calc n = Nat.ofDigitChars 10 (Nat.toDigits 10 n) 0 := Nat.ofDigitChars_ten_toDigits.symm
    _ = Nat.ofDigitChars 10 (Nat.toDigits 10 m) 0 := by rw [h]
    _ = m := Nat.ofDigitChars_ten_toDigits

theorem takeWhile_isDigit_of_ends {rest : List Char} (h : EndsNumeral rest) :
    rest.takeWhile Char.isDigit = [] ∧ rest.dropWhile Char.isDigit = rest := by
  cases rest with
  | nil => exact ⟨rfl, rfl⟩
  | cons c rest =>
    have hc : ¬c.isDigit = true := by simp [(h c rfl).1]
    exact ⟨List.takeWhile_cons_of_neg hc, List.dropWhile_cons_of_neg hc⟩

theorem digits?_append {ds rest : List Char} (hne : ds ≠ []) (hd : ∀ c ∈ ds, c.isDigit = true)
    (hr : EndsNumeral rest) : digits? (ds ++ rest) = some (ds, rest) := by
  obtain ⟨htake, hdrop⟩ := takeWhile_isDigit_of_ends hr
  have ht : (ds ++ rest).takeWhile Char.isDigit = ds := by
    rw [List.takeWhile_append_of_pos hd, htake, List.append_nil]
  have hw : (ds ++ rest).dropWhile Char.isDigit = rest := by
    rw [List.dropWhile_append_of_pos hd, hdrop]
  unfold digits?
  rw [ht, hw]
  cases ds with
  | nil => exact absurd rfl hne
  | cons c ds => rfl

/-- No number but zero is written with a zero in front. -/
theorem head?_toDigits_ne {n : Nat} (hn : 0 < n) : (Nat.toDigits 10 n).head? ≠ some '0' := by
  induction n using Nat.strongRecOn with
  | ind n ih =>
    by_cases h : n < 10
    · rw [Nat.toDigits_of_lt_base h]
      simp
      omega
    · have hd := ih (n / 10) (by omega) (by omega)
      rw [Nat.toDigits_of_base_le (by decide) (Nat.le_of_not_lt h)]
      cases hds : Nat.toDigits 10 (n / 10) with
      | nil => exact absurd hds Nat.toDigits_ne_nil
      | cons c ds =>
        rw [hds] at hd
        exact hd

theorem whole?_toDigits {rest : List Char} (h : EndsNumeral rest) (n : Nat) :
    whole? (Nat.toDigits 10 n ++ rest) = some (Nat.toDigits 10 n, rest) := by
  rcases Nat.eq_zero_or_pos n with rfl | hn
  · have hno : rest.head?.any Char.isDigit = false := by
      cases rest with
      | nil => rfl
      | cons c rest => exact (h c rfl).1
    simp [whole?, hno]
  · have hread : digits? (Nat.toDigits 10 n ++ rest) = some (Nat.toDigits 10 n, rest) :=
      digits?_append Nat.toDigits_ne_nil (fun c hc => isDigit_of_mem_toDigits hc) h
    have hhead := head?_toDigits_ne hn
    cases hds : Nat.toDigits 10 n with
    | nil => exact absurd hds Nat.toDigits_ne_nil
    | cons c ds =>
      rw [hds] at hread hhead
      have hc : c ≠ '0' := fun he => hhead (congrArg some he)
      rw [← hread]
      unfold whole?
      split
      · next cs hcs => exact absurd (List.cons.inj hcs).1 hc
      · rfl

theorem fraction?_of_ends {rest : List Char} (h : EndsNumeral rest) :
    fraction? rest = some (none, rest) := by
  unfold fraction?
  split
  · next cs => exact absurd rfl (h '.' rfl).2.1
  · rfl

theorem exponent?_of_ends {rest : List Char} (h : EndsNumeral rest) :
    exponent? rest = some (none, rest) := by
  cases rest with
  | nil => rfl
  | cons c rest =>
    obtain ⟨-, -, he, hE⟩ := h c rfl
    have hc : ¬(c = 'e' ∨ c = 'E') := by simp [he, hE]
    exact if_neg hc

theorem unsigned?_toDigits {rest : List Char} (h : EndsNumeral rest) (negative : Bool) (n : Nat) :
    unsigned? negative (Nat.toDigits 10 n ++ rest) =
      some (⟨negative, Nat.toDigits 10 n, none, none⟩, rest) := by
  simp [unsigned?, whole?_toDigits h, fraction?_of_ends h, exponent?_of_ends h]

theorem print_int (n : Int) :
    (Number.int n).print = (if n < 0 then ['-'] else []) ++ Nat.toDigits 10 n.natAbs := by
  have hrepr : (Number.int n).print = n.repr.toList := rfl
  rw [hrepr, Int.repr_eq_if]
  by_cases hn : n < 0
  · have habs : (-n).toNat = n.natAbs := by omega
    rw [if_neg (by omega), if_pos hn, String.toList_append, Nat.toList_repr, habs]
    rfl
  · have habs : n.toNat = n.natAbs := by omega
    rw [if_pos (by omega), if_neg hn, Nat.toList_repr, habs, List.nil_append]

/-- The text of an integer begins with its sign or a digit. -/
theorem exists_print_int (n : Int) :
    ∃ c cs, (Number.int n).print = c :: cs ∧ (c = '-' ∨ c.isDigit = true) := by
  rw [print_int]
  by_cases hn : n < 0
  · exact ⟨'-', _, by rw [if_pos hn]; rfl, .inl rfl⟩
  · cases hds : Nat.toDigits 10 n.natAbs with
    | nil => exact absurd hds Nat.toDigits_ne_nil
    | cons c ds =>
      have hc : c ∈ Nat.toDigits 10 n.natAbs := by
        rw [hds]
        exact List.mem_cons_self
      exact ⟨c, ds, by rw [if_neg hn]; rfl, .inr (isDigit_of_mem_toDigits hc)⟩

/-- The text of an integer reads as its numeral. -/
theorem read?_print {rest : List Char} (h : EndsNumeral rest) (n : Int) :
    read? ((Number.int n).print ++ rest) = some (ofInt n, rest) := by
  rw [print_int]
  by_cases hn : n < 0
  · simp [hn, read?, ofInt, unsigned?_toDigits h]
  · have hread := unsigned?_toDigits h false n.natAbs
    have hneg : decide (n < 0) = false := by simp [hn]
    rw [if_neg hn, List.nil_append, ofInt, hneg, ← hread]
    cases hds : Nat.toDigits 10 n.natAbs with
    | nil => exact absurd hds Nat.toDigits_ne_nil
    | cons c ds =>
      have hc : c.isDigit = true := isDigit_of_mem_toDigits (n := n.natAbs) (by simp [hds])
      unfold read?
      split
      · next cs hcs =>
        -- a digit is no sign
        rw [(List.cons.inj hcs).1] at hc
        exact absurd hc (by decide)
      · rfl

/-! ## The meaning of digits -/

theorem le_ofDigitChars (ds : List Char) (n : Nat) : n ≤ Nat.ofDigitChars 10 ds n := by
  induction ds generalizing n with
  | nil => simp
  | cons c ds ih =>
    have := ih (10 * n + (c.toNat - '0'.toNat))
    rw [Nat.ofDigitChars_cons]
    omega

/-- Digits that spell a number of 64 bits are all taken. -/
theorem gather_eq {ds : List Char} {n : Nat}
    (h : Nat.ofDigitChars 10 ds n < 0x10000000000000000) :
    gather n ds = (Nat.ofDigitChars 10 ds n, []) := by
  induction ds generalizing n with
  | nil => simp [gather]
  | cons c ds ih =>
    have hnext : n * 10 + digitValue c = 10 * n + (c.toNat - '0'.toNat) := by
      rw [digitValue, Nat.mul_comm]
    rw [Nat.ofDigitChars_cons] at h ⊢
    have hle := le_ofDigitChars ds (10 * n + (c.toNat - '0'.toNat))
    rw [gather, hnext, if_pos (by omega), ih h]

/-- The numeral of an integer that fits 64 bits means the integer. -/
theorem number?_ofInt {n : Int} (h : IsWord n) : (ofInt n).number? = some (.int n) := by
  obtain ⟨hlow, hhigh⟩ := h
  have hvalue : Nat.ofDigitChars 10 (Nat.toDigits 10 n.natAbs) 0 = n.natAbs :=
    Nat.ofDigitChars_ten_toDigits
  have hgather : gather 0 (Nat.toDigits 10 n.natAbs) = (n.natAbs, []) := by
    rw [gather_eq (by omega), hvalue]
  have hinteger : integer? (decide (n < 0)) n.natAbs = some (.int n) := by
    by_cases hn : n < 0
    · have hout : ¬(n.natAbs = 0 ∨ 0x8000000000000000 < n.natAbs) := by omega
      have habs : -(n.natAbs : Int) = n := by omega
      simp only [integer?, decide_eq_true hn, if_true, if_neg hout, habs]
    · have habs : (n.natAbs : Int) = n := by omega
      simp [integer?, hn, habs]
  simp [number?, ofInt, hgather, hinteger]

end Numeral

end AgentSandbox.Json

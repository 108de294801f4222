import AgentSandbox.Proofs.Dictionary
import AgentSandbox.Proofs.Json.Numeral
import AgentSandbox.Proofs.Json.Text

/-!
# Reading what was printed

`Value.Fits` says which values a text can carry, and `Value.IsOrdered` that every object has its
members in order.  The text of a value that fits is read as the document that spells the value
(`Document.read?_print`), and the meaning of this document is the value again if it is in order
(`Document.value?_ofValue`).  The text is one line of printable characters (`Value.Fits.le_toNat`).
-/

namespace AgentSandbox.Json

/-! ## Values -/

/-- The values that a text can carry: numbers are integers of 64 bits, and no more than `room`
containers are nested in each other. -/
inductive Value.Fits : Nat → Value → Prop where
  | null (room : Nat) : Fits room .null
  | bool (room : Nat) (b : Bool) : Fits room (.bool b)
  | int (room : Nat) {n : Int} (h : IsWord n) : Fits room (.number (.int n))
  | text (room : Nat) (s : String) : Fits room (.text s)
  | list {room : Nat} {items : List Value} (h : ∀ v ∈ items, Fits room v) :
      Fits (room + 1) (.list items)
  | object {room : Nat} {members : List (String × Value)} (h : ∀ m ∈ members, Fits room m.2) :
      Fits (room + 1) (.object members)

/-- The members of every object in the value are in increasing order of their names. -/
inductive Value.IsOrdered : Value → Prop where
  | null : IsOrdered .null
  | bool (b : Bool) : IsOrdered (.bool b)
  | number (n : Number) : IsOrdered (.number n)
  | text (s : String) : IsOrdered (.text s)
  | list {items : List Value} (h : ∀ v ∈ items, IsOrdered v) : IsOrdered (.list items)
  | object {members : List (String × Value)} (increasing : Increasing members)
      (h : ∀ m ∈ members, IsOrdered m.2) : IsOrdered (.object members)

/-! ## The meaning of a spelling -/

theorem itemValues?_itemDocuments {vs : List Value}
    (h : ∀ v ∈ vs, (Document.ofValue v).value? = some v) :
    itemValues? (itemDocuments vs) = some vs := by
  induction vs with
  | nil => rw [itemDocuments, itemValues?]
  | cons v vs ih =>
    rw [itemDocuments, itemValues?, h v List.mem_cons_self,
      ih fun x hx => h x (List.mem_cons_of_mem _ hx)]

theorem memberValues?_memberDocuments {ms : List (String × Value)}
    (h : ∀ m ∈ ms, (Document.ofValue m.2).value? = some m.2) :
    memberValues? (memberDocuments ms) = some ms := by
  induction ms with
  | nil => rw [memberDocuments, memberValues?]
  | cons m ms ih =>
    have hm := h m List.mem_cons_self
    have hms := ih fun x hx => h x (List.mem_cons_of_mem _ hx)
    simp only [memberDocuments, memberValues?, hm, hms]

/-- A document that spells a value in order means this value. -/
theorem Document.value?_ofValue {v : Value} (h : v.IsOrdered) :
    (Document.ofValue v).value? = some v := by
  induction h with
  | null => rw [ofValue, value?]
  | bool b => rw [ofValue, value?]
  | number n => rw [ofValue, value?]
  | text s => rw [ofValue, value?]
  | list _ ih => rw [ofValue, value?, itemValues?_itemDocuments ih, Option.map_some]
  | object hinc _ ih =>
    rw [ofValue, value?, memberValues?_memberDocuments ih, Option.map_some,
      Dictionary.entries_ofList hinc]

/-! ## The front of a text -/

theorem skipSpace_cons {c : Char} (h : 0x20 < c.toNat) (cs : List Char) :
    skipSpace (c :: cs) = c :: cs := by
  have hc : ¬(c = ' ' || c = '\t' || c = '\n' || c = '\r') = true := by
    simp only [Bool.or_eq_true, decide_eq_true_eq]
    rintro (((rfl | rfl) | rfl) | rfl)
    · exact absurd h (by decide)
    · exact absurd h (by decide)
    · exact absurd h (by decide)
    · exact absurd h (by decide)
  exact List.dropWhile_cons_of_neg hc

theorem lt_toNat_of_isDigit {c : Char} (h : c.isDigit = true) : 0x20 < c.toNat := by
  have := (Char.isDigit_iff_toNat.1 h).1
  have h0 : '0'.toNat = 48 := rfl
  omega

/-- The text of a value begins with a character that is neither blank nor closes a list. -/
theorem Value.Fits.exists_print {room : Nat} {v : Value} (h : v.Fits room) :
    ∃ c cs, v.print = c :: cs ∧ 0x20 < c.toNat ∧ c ≠ ']' := by
  cases h with
  | null => exact ⟨_, _, by rw [print], by decide, by decide⟩
  | bool _ b => cases b <;> exact ⟨_, _, by rw [print], by decide, by decide⟩
  | text _ s => exact ⟨'"', _, by rw [print]; rfl, by decide, by decide⟩
  | list h => exact ⟨'[', _, by rw [print]; rfl, by decide, by decide⟩
  | object h => exact ⟨'{', _, by rw [print]; rfl, by decide, by decide⟩
  | @int _ n h =>
    obtain ⟨c, cs, hprint, hc⟩ := Numeral.exists_print_int n
    refine ⟨c, cs, by rw [print, hprint], ?_, ?_⟩
    · rcases hc with rfl | hd
      · decide
      · exact lt_toNat_of_isDigit hd
    · rcases hc with rfl | hd
      · decide
      · rintro rfl
        exact absurd hd (by decide)

/-! ## Reading scalars -/

/-- An integer is read back from its text. -/
theorem value?_print_int {n : Int} (h : IsWord n) {rest : List Char} (hr : EndsNumeral rest)
    (fuel room : Nat) :
    value? (fuel + 1) room ((Number.int n).print ++ rest) = some (.number (.int n), rest) := by
  have hread := Numeral.read?_print hr n
  obtain ⟨c, cs, hprint, hc⟩ := Numeral.exists_print_int n
  have hne (x : Char) (hd : x.isDigit = false) (hm : x ≠ '-') : c ≠ x := by
    rintro rfl
    rcases hc with rfl | hc
    · exact hm rfl
    · rw [hd] at hc
      cases hc
  have hspace : 0x20 < c.toNat := by
    rcases hc with rfl | hd
    · decide
    · exact lt_toNat_of_isDigit hd
  rw [hprint, List.cons_append] at hread ⊢
  rw [value?, skipSpace_cons hspace]
  split
  · next hcs => exact absurd (List.cons.inj hcs).1 (hne _ (by decide) (by decide))
  · next hcs => exact absurd (List.cons.inj hcs).1 (hne _ (by decide) (by decide))
  · next hcs => exact absurd (List.cons.inj hcs).1 (hne _ (by decide) (by decide))
  · unfold scalar?
    split
    · next hcs => exact absurd (List.cons.inj hcs).1 (hne _ (by decide) (by decide))
    · next hcs => exact absurd (List.cons.inj hcs).1 (hne _ (by decide) (by decide))
    · next hcs => exact absurd (List.cons.inj hcs).1 (hne _ (by decide) (by decide))
    · simp only [hread, Option.map_some, Numeral.number?_ofInt h, Option.getD_some]

/-! ## Reading containers -/

/-- The value is read back from its text with `room` for nesting. -/
def Value.IsRead (room : Nat) (v : Value) : Prop :=
  ∀ fuel rest, EndsNumeral rest → 2 * v.print.length ≤ fuel →
    value? fuel room (v.print ++ rest) = some (Document.ofValue v, rest)

theorem items?_printItems {room : Nat} {vs : List Value} (hvs : ∀ v ∈ vs, v.IsRead room)
    (hne : vs ≠ []) (rest : List Char) (fuel : Nat) (hf : 2 * (printItems vs).length < fuel) :
    items? fuel room (printItems vs ++ ']' :: rest) = some (itemDocuments vs, rest) := by
  induction vs generalizing fuel with
  | nil => exact absurd rfl hne
  | cons v vs ih =>
    have hv := hvs v List.mem_cons_self
    obtain ⟨fuel, rfl⟩ := Nat.exists_eq_add_of_lt (Nat.zero_lt_of_lt hf)
    rw [Nat.zero_add] at hf ⊢
    cases vs with
    | nil =>
      rw [printItems] at hf ⊢
      have hread := hv fuel (']' :: rest)
        (endsNumeral_cons (by decide) (by decide) (by decide) (by decide) rest) (by omega)
      simp only [items?, hread, skipSpace_cons (show 0x20 < ']'.toNat by decide), itemDocuments]
    | cons w ws =>
      simp only [printItems, List.length_append, List.length_cons] at hf
      have hread := hv fuel (',' :: (printItems (w :: ws) ++ ']' :: rest))
        (endsNumeral_cons (by decide) (by decide) (by decide) (by decide) _) (by omega)
      have htail := ih (fun x hx => hvs x (List.mem_cons_of_mem _ hx)) (by simp) fuel
        (by omega)
      simp only [printItems, List.append_assoc, List.cons_append, items?, hread,
        skipSpace_cons (show 0x20 < ','.toNat by decide), itemDocuments] at htail ⊢
      rw [htail]
      rfl

theorem members?_printMembers {room : Nat} {ms : List (String × Value)}
    (hms : ∀ m ∈ ms, m.2.IsRead room) (hne : ms ≠ []) (rest : List Char) (fuel : Nat)
    (hf : 2 * (printMembers ms).length < fuel) :
    members? fuel room (printMembers ms ++ '}' :: rest) = some (memberDocuments ms, rest) := by
  induction ms generalizing fuel with
  | nil => exact absurd rfl hne
  | cons m ms ih =>
    obtain ⟨k, v⟩ := m
    have hv : v.IsRead room := hms (k, v) List.mem_cons_self
    obtain ⟨name, hprint, hname⟩ := exists_printText k
    obtain ⟨fuel, rfl⟩ := Nat.exists_eq_add_of_lt (Nat.zero_lt_of_lt hf)
    rw [Nat.zero_add] at hf ⊢
    cases ms with
    | nil =>
      simp only [printMembers, List.length_append, List.length_cons] at hf
      have hread := hv fuel ('}' :: rest)
        (endsNumeral_cons (by decide) (by decide) (by decide) (by decide) rest) (by omega)
      simp only [printMembers, hprint, List.append_assoc, List.cons_append, members?, hname,
        hread, skipSpace_cons (show 0x20 < '"'.toNat by decide),
        skipSpace_cons (show 0x20 < ':'.toNat by decide),
        skipSpace_cons (show 0x20 < '}'.toNat by decide), memberDocuments]
    | cons m ms =>
      simp only [printMembers, List.length_append, List.length_cons] at hf
      have hread := hv fuel (',' :: (printMembers (m :: ms) ++ '}' :: rest))
        (endsNumeral_cons (by decide) (by decide) (by decide) (by decide) _) (by omega)
      have htail := ih (fun x hx => hms x (List.mem_cons_of_mem _ hx)) (by simp) fuel
        (by omega)
      simp only [printMembers, hprint, List.append_assoc, List.cons_append, members?, hname,
        hread, skipSpace_cons (show 0x20 < '"'.toNat by decide),
        skipSpace_cons (show 0x20 < ':'.toNat by decide),
        skipSpace_cons (show 0x20 < ','.toNat by decide), htail, Option.map_some, memberDocuments]

theorem Value.Fits.exists_fuel {room : Nat} {v : Value} (h : v.Fits room) {fuel : Nat}
    (hf : 2 * v.print.length ≤ fuel) : ∃ k, fuel = k + 1 := by
  obtain ⟨c, cs, hprint, -⟩ := h.exists_print
  rw [hprint, List.length_cons] at hf
  exact ⟨fuel - 1, by omega⟩

theorem Value.Fits.exists_printItems {room : Nat} {v : Value} (h : v.Fits room) (vs : List Value) :
    ∃ c cs, printItems (v :: vs) = c :: cs ∧ 0x20 < c.toNat ∧ c ≠ ']' := by
  obtain ⟨c, cs, hprint, hc⟩ := h.exists_print
  cases vs with
  | nil => exact ⟨c, cs, by rw [printItems, hprint], hc⟩
  | cons w ws =>
    refine ⟨c, cs ++ ',' :: printItems (w :: ws), ?_, hc⟩
    simp only [printItems, hprint, List.cons_append]

theorem exists_printMembers (m : String × Value) (ms : List (String × Value)) :
    ∃ cs, printMembers (m :: ms) = '"' :: cs := by
  obtain ⟨name, hprint, -⟩ := exists_printText m.1
  cases ms with
  | nil => exact ⟨name ++ ':' :: m.2.print, by rw [printMembers, hprint]; rfl⟩
  | cons n ns =>
    exact ⟨name ++ ':' :: m.2.print ++ ',' :: printMembers (n :: ns), by
      simp only [printMembers, hprint, List.cons_append]⟩

theorem nested_succ (room : Nat) (d : Document) : nested (room + 1) d = d :=
  if_neg (Nat.succ_ne_zero room)

/-- The text of a value that fits is read as the document that spells it. -/
theorem Value.Fits.isRead {room : Nat} {v : Value} (h : v.Fits room) : v.IsRead room := by
  induction h with
  | null room =>
    intro fuel rest _ hf
    obtain ⟨fuel, rfl⟩ := (Fits.null room).exists_fuel hf
    simp [print, value?, skipSpace_cons, scalar?, Document.ofValue]
  | bool room b =>
    intro fuel rest _ hf
    obtain ⟨fuel, rfl⟩ := (Fits.bool room b).exists_fuel hf
    cases b <;> simp [print, value?, skipSpace_cons, scalar?, Document.ofValue]
  | int room h =>
    intro fuel rest hr hf
    obtain ⟨fuel, rfl⟩ := (Fits.int room h).exists_fuel hf
    simp only [print, value?_print_int h hr, Document.ofValue]
  | text room s =>
    intro fuel rest _ hf
    obtain ⟨fuel, rfl⟩ := (Fits.text room s).exists_fuel hf
    obtain ⟨body, hprint, hread⟩ := exists_printText s
    simp [print, hprint, value?, skipSpace_cons, hread, Document.ofValue]
  | @list room items h ih =>
    intro fuel rest _ hf
    obtain ⟨fuel, rfl⟩ := (Fits.list h).exists_fuel hf
    simp only [print, List.length_append, List.length_cons] at hf
    cases items with
    | nil => simp [print, printItems, value?, skipSpace_cons, Document.ofValue, itemDocuments,
        nested_succ]
    | cons v vs =>
      have hitems := items?_printItems ih (List.cons_ne_nil v vs) rest fuel (by omega)
      obtain ⟨c, cs, hprint, hc, hclose⟩ := (h v List.mem_cons_self).exists_printItems vs
      rw [hprint, List.cons_append] at hitems
      simp only [print, hprint, List.cons_append, List.append_assoc, List.nil_append, value?,
        skipSpace_cons (show 0x20 < '['.toNat by decide), skipSpace_cons hc, Document.ofValue]
      split
      · next hcs => exact absurd (List.cons.inj hcs).1 hclose
      · rw [Nat.add_sub_cancel, hitems, Option.map_some, nested_succ]
  | @object room members h ih =>
    intro fuel rest _ hf
    obtain ⟨fuel, rfl⟩ := (Fits.object h).exists_fuel hf
    simp only [print, List.length_append, List.length_cons] at hf
    cases members with
    | nil =>
      simp [print, printMembers, value?, skipSpace_cons, Document.ofValue, memberDocuments,
        nested_succ]
    | cons m ms =>
      have hmembers := members?_printMembers ih (List.cons_ne_nil m ms) rest fuel (by omega)
      obtain ⟨cs, hprint⟩ := exists_printMembers m ms
      rw [hprint, List.cons_append] at hmembers
      simp only [print, hprint, List.cons_append, List.append_assoc, List.nil_append, value?,
        skipSpace_cons (show 0x20 < '{'.toNat by decide),
        skipSpace_cons (show 0x20 < '"'.toNat by decide), Document.ofValue]
      split
      · next hcs => exact absurd (List.cons.inj hcs).1 (by decide)
      · rw [Nat.add_sub_cancel, hmembers, Option.map_some, nested_succ]

/-! ## The characters of a text -/

theorem mem_printItems {x : Char} {vs : List Value} (h : x ∈ printItems vs) :
    x = ',' ∨ ∃ v ∈ vs, x ∈ v.print := by
  induction vs with
  | nil => rw [printItems] at h; cases h
  | cons v vs ih =>
    cases vs with
    | nil =>
      rw [printItems] at h
      exact .inr ⟨v, List.mem_cons_self, h⟩
    | cons w ws =>
      simp only [printItems, List.mem_append, List.mem_cons] at h
      rcases h with h | h | h
      · exact .inr ⟨v, List.mem_cons_self, h⟩
      · exact .inl h
      · exact (ih h).imp_right fun ⟨u, hu, hx⟩ => ⟨u, List.mem_cons_of_mem _ hu, hx⟩

theorem mem_printMembers {x : Char} {ms : List (String × Value)} (h : x ∈ printMembers ms) :
    x = ',' ∨ x = ':' ∨ ∃ m ∈ ms, x ∈ printText m.1 ∨ x ∈ m.2.print := by
  induction ms with
  | nil => rw [printMembers] at h; cases h
  | cons m ms ih =>
    cases ms with
    | nil =>
      simp only [printMembers, List.mem_append, List.mem_cons] at h
      rcases h with h | h | h
      · exact .inr (.inr ⟨m, List.mem_cons_self, .inl h⟩)
      · exact .inr (.inl h)
      · exact .inr (.inr ⟨m, List.mem_cons_self, .inr h⟩)
    | cons n ns =>
      simp only [printMembers, List.mem_append, List.mem_cons] at h
      rcases h with (h | h | h) | h | h
      · exact .inr (.inr ⟨m, List.mem_cons_self, .inl h⟩)
      · exact .inr (.inl h)
      · exact .inr (.inr ⟨m, List.mem_cons_self, .inr h⟩)
      · exact .inl h
      · exact (ih h).imp_right (·.imp_right fun ⟨u, hu, hx⟩ =>
          ⟨u, List.mem_cons_of_mem _ hu, hx⟩)

theorem le_toNat_of_all {cs : List Char} (h : (cs.all fun x => decide (0x20 ≤ x.toNat)) = true) :
    ∀ x ∈ cs, 0x20 ≤ x.toNat :=
  fun x hx => of_decide_eq_true (List.all_eq_true.1 h x hx)

/-- The text of a value that fits holds no control character, and so no newline. -/
theorem Value.Fits.le_toNat {room : Nat} {v : Value} (h : v.Fits room) :
    ∀ x ∈ v.print, 0x20 ≤ x.toNat := by
  induction h with
  | null => exact le_toNat_of_all (by rw [print]; decide)
  | bool _ b => cases b <;> exact le_toNat_of_all (by rw [print]; decide)
  | @int _ n h =>
    intro x hx
    rw [print, Numeral.print_int] at hx
    rcases List.mem_append.1 hx with hx | hx
    · split at hx
      · rw [List.mem_singleton.1 hx]; decide
      · cases hx
    · exact Nat.le_of_lt (lt_toNat_of_isDigit (Numeral.isDigit_of_mem_toDigits hx))
  | text _ s =>
    intro x hx
    rw [print] at hx
    exact le_toNat_of_mem_printText hx
  | list _ ih =>
    intro x hx
    simp only [print, List.mem_cons, List.mem_append, List.not_mem_nil, or_false] at hx
    rcases hx with (rfl | hx) | rfl
    · decide
    · rcases mem_printItems hx with rfl | ⟨v, hv, hx⟩
      · decide
      · exact ih v hv x hx
    · decide
  | object _ ih =>
    intro x hx
    simp only [print, List.mem_cons, List.mem_append, List.not_mem_nil, or_false] at hx
    rcases hx with (rfl | hx) | rfl
    · decide
    · rcases mem_printMembers hx with rfl | rfl | ⟨m, hm, hx | hx⟩
      · decide
      · decide
      · exact le_toNat_of_mem_printText hx
      · exact ih m hm x hx
    · decide

/-! ## The text of a document -/

/-- The text of a value that fits is a text of the document that spells the value. -/
theorem Document.read?_print {v : Value} (h : v.Fits maxNesting) :
    read? v.print = some (ofValue v) := by
  have hread := h.isRead (2 * v.print.length + 2) [] endsNumeral_nil (by omega)
  rw [List.append_nil] at hread
  have hmark : illFormed ∉ v.print := fun hmem => absurd (h.le_toNat _ hmem) (by decide)
  rw [read?, if_neg hmark, scan?, hread]
  rfl

end AgentSandbox.Json

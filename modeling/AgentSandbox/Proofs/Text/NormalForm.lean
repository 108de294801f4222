import AgentSandbox.Text.NormalForm

/-!
# Normal forms around ASCII

A character before U+00C0 has no parts but itself, is no mark, and goes with nothing before it.  So a
text may be cut in front of one that follows another (`normalForm_cons_cons`), and a text of such
characters is its own normal form (`normalForm_of_forall`).
-/

namespace AgentSandbox.Text

variable {c d : Char}

theorem parts_of_lt (hc : c.toNat < 0xC0) : parts c = [c] := by
  rw [parts, partsTo, if_pos hc]

theorem combiningClass_of_lt (hc : c.toNat < 0xC0) : combiningClass c = 0 := by
  rw [combiningClass, if_pos (by omega)]

theorem composed?_of_lt (c : Char) (hd : d.toNat < 0xC0) : composed? c d = none := by
  rw [composed?, if_pos (by omega)]

/-- Only a mark takes its place behind others. -/
theorem insertMark_of_lt (hc : c.toNat < 0xC0) (ds : List Char) : insertMark c ds = c :: ds := by
  cases ds with
  | nil => rfl
  | cons d ds =>
    rw [insertMark, combiningClass_of_lt hc, if_neg fun h => absurd h.2 (Nat.not_lt_zero _)]

theorem orderMarks_parts_cons (hc : c.toNat < 0xC0) (cs : List Char) :
    orderMarks ((c :: cs).flatMap parts) = c :: orderMarks (cs.flatMap parts) := by
  rw [List.flatMap_cons, parts_of_lt hc, List.singleton_append, orderMarks, insertMark_of_lt hc]

theorem compose_cons_cons (hc : c.toNat < 0xC0) (hd : d.toNat < 0xC0) (cs : List Char) :
    compose (c :: d :: cs) = c :: compose (d :: cs) := by
  have hclass := combiningClass_of_lt hd
  rw [compose, if_pos (combiningClass_of_lt hc), compose, if_pos hclass, composeFrom]
  simp only [composed?_of_lt c hd, ite_self, if_pos hclass, List.nil_append]

/-- A text may be cut between two such characters. -/
theorem normalForm_cons_cons (hc : c.toNat < 0xC0) (hd : d.toNat < 0xC0) (cs : List Char) :
    normalForm (c :: d :: cs) = c :: normalForm (d :: cs) := by
  rw [normalForm, normalForm, orderMarks_parts_cons hc, orderMarks_parts_cons hd,
    compose_cons_cons hc hd]

theorem normalForm_append {cs : List Char} (hcs : ∀ c ∈ cs, c.toNat < 0xC0) (hd : d.toNat < 0xC0)
    (ds : List Char) : normalForm (cs ++ d :: ds) = cs ++ normalForm (d :: ds) := by
  induction cs with
  | nil => rfl
  | cons c cs ih =>
    obtain ⟨hc, hcs⟩ := List.forall_mem_cons.1 hcs
    have hcut : normalForm (c :: (cs ++ d :: ds)) = c :: normalForm (cs ++ d :: ds) := by
      cases cs with
      | nil => exact normalForm_cons_cons hc hd ds
      | cons e cs => exact normalForm_cons_cons hc (hcs e List.mem_cons_self) _
    rw [List.cons_append, hcut, ih hcs, List.cons_append]

theorem normalForm_singleton (hc : c.toNat < 0xC0) : normalForm [c] = [c] := by
  rw [normalForm, orderMarks_parts_cons hc]
  show (if combiningClass c = 0 then composeFrom c [] [] else c :: compose []) = [c]
  rw [if_pos (combiningClass_of_lt hc), composeFrom]

/-- A text of such characters is its own normal form. -/
theorem normalForm_of_forall {cs : List Char} (hcs : ∀ c ∈ cs, c.toNat < 0xC0) :
    normalForm cs = cs := by
  rcases List.eq_nil_or_concat cs with rfl | ⟨cs, d, rfl⟩
  · rfl
  · rw [List.concat_eq_append] at hcs ⊢
    have hd := hcs d (List.mem_append_right _ List.mem_cons_self)
    rw [normalForm_append (fun c hc => hcs c (List.mem_append_left _ hc)) hd,
      normalForm_singleton hd]

end AgentSandbox.Text

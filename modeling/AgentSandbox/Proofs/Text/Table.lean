import AgentSandbox.Text.Table

/-!
# Cutting texts

The parts of a text that is cut hold no character at which it is cut (`eq_false_of_mem_cut`), and
the part in front of the first such character is the first part (`cut_append`).  At any such
character the text falls into two whose parts are those of the text (`cut_append_cons`), and what
stands in front of the first one is told apart from the rest (`append_mark_inj`).
-/

namespace AgentSandbox.Text

variable {p : Char → Bool}

theorem eq_false_of_mem_cut {cs part : List Char} (h : part ∈ cut p cs) {c : Char}
    (hc : c ∈ part) : p c = false := by
  induction cs generalizing part with
  | nil =>
    obtain rfl := List.mem_singleton.1 h
    cases hc
  | cons d cs ih =>
    unfold cut at h
    split at h
    · rcases List.mem_cons.1 h with rfl | h
      · cases hc
      · exact ih h hc
    · next hd =>
      have hd : p d = false := Bool.eq_false_iff.2 hd
      cases hcut : cut p cs with
      | nil =>
        rw [hcut] at h
        obtain rfl := List.mem_singleton.1 h
        obtain rfl := List.mem_singleton.1 hc
        exact hd
      | cons first parts =>
        rw [hcut] at h ih
        rcases List.mem_cons.1 h with rfl | h
        · rcases List.mem_cons.1 hc with rfl | hc
          · exact hd
          · exact ih List.mem_cons_self hc
        · exact ih (List.mem_cons_of_mem _ h) hc

theorem cut_ne_nil (p : Char → Bool) (cs : List Char) : cut p cs ≠ [] := by
  cases cs with
  | nil => exact List.cons_ne_nil _ _
  | cons c cs =>
    unfold cut
    split
    · exact List.cons_ne_nil _ _
    · split
      · exact List.cons_ne_nil _ _
      · exact List.cons_ne_nil _ _

theorem cut_cons_of_neg {c : Char} (hc : p c = false) {cs part : List Char}
    {parts : List (List Char)} (hcs : cut p cs = part :: parts) :
    cut p (c :: cs) = (c :: part) :: parts := by
  rw [cut, if_neg (Bool.eq_false_iff.1 hc), hcs]

theorem cut_append_cons {d : Char} (hd : p d = true) (cs ds : List Char) :
    cut p (cs ++ d :: ds) = cut p cs ++ cut p ds := by
  induction cs with
  | nil => exact if_pos hd
  | cons c cs ih =>
    rw [List.cons_append]
    cases hc : p c with
    | true => rw [cut, if_pos hc, ih, cut, if_pos hc, List.cons_append]
    | false =>
      obtain ⟨part, parts, hcs⟩ := List.exists_cons_of_ne_nil (cut_ne_nil p cs)
      rw [hcs, List.cons_append] at ih
      rw [cut_cons_of_neg hc ih, cut_cons_of_neg hc hcs, List.cons_append]

/-- What is put in front of a text without such a character belongs to its first part. -/
theorem cut_append_of_forall {cs : List Char} (hcs : ∀ c ∈ cs, p c = false) {ds part : List Char}
    {parts : List (List Char)} (hds : cut p ds = part :: parts) :
    cut p (cs ++ ds) = (cs ++ part) :: parts := by
  induction cs with
  | nil => exact hds
  | cons c cs ih =>
    obtain ⟨hc, hcs⟩ := List.forall_mem_cons.1 hcs
    exact cut_cons_of_neg hc (ih hcs)

theorem cut_of_forall {cs : List Char} (hcs : ∀ c ∈ cs, p c = false) : cut p cs = [cs] := by
  have hcut : cut p (cs ++ []) = [cs ++ []] := cut_append_of_forall hcs rfl
  rwa [List.append_nil] at hcut

theorem mem_of_mem_cut {cs part : List Char} (h : part ∈ cut p cs) {c : Char} (hc : c ∈ part) :
    c ∈ cs := by
  induction cs generalizing part with
  | nil =>
    obtain rfl := List.mem_singleton.1 h
    exact hc
  | cons d cs ih =>
    cases hd : p d with
    | true =>
      rw [cut, if_pos hd] at h
      rcases List.mem_cons.1 h with rfl | h
      · exact absurd hc List.not_mem_nil
      · exact List.mem_cons_of_mem _ (ih h hc)
    | false =>
      obtain ⟨first, parts, hcs⟩ := List.exists_cons_of_ne_nil (cut_ne_nil p cs)
      rw [hcs] at ih
      rw [cut_cons_of_neg hd hcs] at h
      rcases List.mem_cons.1 h with rfl | h
      · rcases List.mem_cons.1 hc with rfl | hc
        · exact List.mem_cons_self
        · exact List.mem_cons_of_mem _ (ih List.mem_cons_self hc)
      · exact List.mem_cons_of_mem _ (ih (List.mem_cons_of_mem _ h) hc)

theorem cut_map {f : Char → Char} (hf : ∀ c, p (f c) = p c) (cs : List Char) :
    cut p (cs.map f) = (cut p cs).map (List.map f) := by
  induction cs with
  | nil => rfl
  | cons c cs ih =>
    rw [List.map_cons]
    cases hc : p c with
    | true =>
      rw [cut, if_pos ((hf c).trans hc), ih, cut, if_pos hc, List.map_cons, List.map_nil]
    | false =>
      obtain ⟨part, parts, hcs⟩ := List.exists_cons_of_ne_nil (cut_ne_nil p cs)
      rw [hcs, List.map_cons] at ih
      rw [cut_cons_of_neg ((hf c).trans hc) ih, cut_cons_of_neg hc hcs, List.map_cons, List.map_cons]

theorem cut_append {part : List Char} (hpart : ∀ c ∈ part, p c = false) {d : Char}
    (hd : p d = true) (cs : List Char) : cut p (part ++ d :: cs) = part :: cut p cs := by
  have hcut : cut p (d :: cs) = [] :: cut p cs := if_pos hd
  rw [cut_append_of_forall hpart hcut, List.append_nil]

/-- What stands in front of the first mark of a text is told apart from what follows. -/
theorem append_mark_inj {mark s s' rest rest' : String} {c : Char} (hmark : mark.toList = [c])
    (hs : c ∉ s.toList) (hs' : c ∉ s'.toList) (h : s ++ (mark ++ rest) = s' ++ (mark ++ rest')) :
    s = s' ∧ rest = rest' := by
  have hlist : s.toList ++ c :: rest.toList = s'.toList ++ c :: rest'.toList := by
    simp only [← String.toList_inj, String.toList_append, hmark] at h
    exact h
  have hcut (a b : List Char) (ha : c ∉ a) : cut (· == c) (a ++ c :: b) = a :: cut (· == c) b :=
    cut_append (fun d hd => beq_false_of_ne (ne_of_mem_of_not_mem hd ha)) (beq_self_eq_true c) b
  have hparts := congrArg (cut (· == c)) hlist
  rw [hcut _ _ hs, hcut _ _ hs'] at hparts
  have hsame := (List.cons.inj hparts).1
  rw [hsame] at hlist
  exact ⟨String.toList_inj.1 hsame,
    String.toList_inj.1 (List.cons.inj (List.append_cancel_left hlist)).2⟩

end AgentSandbox.Text

import AgentSandbox.Mount.Bindings
import AgentSandbox.Proofs.Text.Blank

/-!
# Reading and writing bindings

`IsPlain` is what a text must be to stand as it is between the commas of a specification: it holds
no comma and no blank at its ends.  Whatever a specification binds a key to is plain
(`isPlain_of_mem_bindings`).  `Writes` relates parts to the bindings that they are written for, and
these are read back when the parts are joined with commas (`Writes.bindings_intercalate`).
-/

namespace AgentSandbox.Mount

/-- A text without a comma and without a blank at its ends. -/
def IsPlain (cs : List Char) : Prop := ',' ∉ cs ∧ Text.trim cs = cs

instance (cs : List Char) : Decidable (IsPlain cs) := inferInstanceAs (Decidable (_ ∧ _))

theorem isPlain_trim {cs : List Char} (h : ',' ∉ cs) : IsPlain (Text.trim cs) :=
  ⟨fun hc => h (Text.mem_of_mem_trim hc), Text.trim_trim cs⟩

/-! ## Pieces -/

theorem pieces_of_notMem {separator : Char} {cs : List Char} (h : separator ∉ cs) :
    pieces separator cs = [cs] := by
  induction cs with
  | nil => rfl
  | cons c cs ih =>
    obtain ⟨hc, hcs⟩ := List.ne_and_not_mem_of_not_mem_cons h
    rw [pieces, if_neg (Ne.symm hc), ih hcs]

theorem pieces_append {separator : Char} {p : List Char} (h : separator ∉ p) (cs : List Char) :
    pieces separator (p ++ separator :: cs) = p :: pieces separator cs := by
  induction p with
  | nil => rw [List.nil_append, pieces, if_pos rfl]
  | cons c p ih =>
    obtain ⟨hc, hp⟩ := List.ne_and_not_mem_of_not_mem_cons h
    rw [List.cons_append, pieces, if_neg (Ne.symm hc), ih hp]

theorem pieces_intercalate {separator : Char} {ps : List (List Char)} (hne : ps ≠ [])
    (h : ∀ p ∈ ps, separator ∉ p) : pieces separator ([separator].intercalate ps) = ps := by
  induction ps with
  | nil => exact absurd rfl hne
  | cons p ps ih =>
    have hp := h p List.mem_cons_self
    cases ps with
    | nil => rw [List.intercalate_singleton, pieces_of_notMem hp]
    | cons q qs =>
      rw [List.intercalate_cons_cons, List.append_assoc, List.singleton_append, pieces_append hp,
        ih (List.cons_ne_nil _ _) fun r hr => h r (List.mem_cons_of_mem _ hr)]

theorem notMem_of_mem_pieces {separator : Char} {cs p : List Char}
    (h : p ∈ pieces separator cs) : separator ∉ p := by
  induction cs generalizing p with
  | nil =>
    rw [pieces, List.mem_singleton] at h
    exact h ▸ List.not_mem_nil
  | cons c cs ih =>
    rw [pieces] at h
    split at h
    · rcases List.mem_cons.1 h with rfl | h
      · exact List.not_mem_nil
      · exact ih h
    · next hc =>
      split at h
      · rw [List.mem_singleton.1 h]
        exact List.not_mem_cons_of_ne_of_not_mem (Ne.symm hc) List.not_mem_nil
      · next q qs heq =>
        rcases List.mem_cons.1 h with rfl | h
        · exact List.not_mem_cons_of_ne_of_not_mem (Ne.symm hc) (ih (heq ▸ List.mem_cons_self))
        · exact ih (heq ▸ List.mem_cons_of_mem _ h)

/-! ## Parts -/

theorem isPlain_of_mem_parts {spec p : List Char} (h : p ∈ parts spec) : IsPlain p := by
  obtain ⟨q, hq, rfl⟩ := List.mem_map.1 (List.mem_filter.1 h).1
  exact isPlain_trim (notMem_of_mem_pieces hq)

/-- Plain parts are read back as they were joined. -/
theorem parts_intercalate {ps : List (List Char)} (hne : ps ≠ [])
    (h : ∀ p ∈ ps, IsPlain p ∧ p ≠ []) : parts ([','].intercalate ps) = ps := by
  have htrim : ps.map Text.trim = ps :=
    (List.map_congr_left fun p hp => (h p hp).1.2).trans (List.map_id' ps)
  rw [parts, pieces_intercalate hne fun p hp => (h p hp).1.1, htrim]
  exact List.filter_eq_self.2 fun p hp => by simpa using (h p hp).2

/-! ## Bindings -/

theorem isPlain_of_mem_bindings {spec : List Char} {b : List Char × List Char}
    (h : b ∈ bindings spec) : IsPlain b.2 := by
  obtain ⟨p, hp, rfl⟩ := List.mem_map.1 h
  unfold binding
  split
  · show IsPlain ['t', 'r', 'u', 'e']
    decide
  · next c value heq =>
    refine isPlain_trim fun hc => (isPlain_of_mem_parts hp).1 ?_
    exact (List.dropWhile_suffix _).subset (heq ▸ List.mem_cons_of_mem _ hc)

/-- A part is cut at its first equals sign. -/
theorem binding_pair {key : List Char} (hkey : '=' ∉ key) (value : List Char) :
    binding (key ++ '=' :: value) = (Text.trim key, Text.trim value) := by
  have hall : ∀ c ∈ key, (c != '=') = true := fun c hc => bne_iff_ne.2 fun h => hkey (h ▸ hc)
  have hdrop : (key ++ '=' :: value).dropWhile (· != '=') = '=' :: value := by
    rw [List.dropWhile_append_of_pos hall]
    exact List.dropWhile_cons_of_neg (by simp)
  have htake : (key ++ '=' :: value).takeWhile (· != '=') = key := by
    rw [List.takeWhile_append_of_pos hall, List.takeWhile_cons_of_neg (by simp), List.append_nil]
  simp only [binding, hdrop, htake]

/-- A key and a value that are plain are read back from the part that binds them. -/
theorem binding_append {key value : List Char} (hkey : '=' ∉ key) (hk : Text.trim key = key)
    (hv : Text.trim value = value) : binding (key ++ '=' :: value) = (key, value) := by
  rw [binding_pair hkey, hk, hv]

theorem isPlain_append {key value : List Char} (hne : key ≠ []) (hk : IsPlain key)
    (hv : IsPlain value) : IsPlain (key ++ '=' :: value) := by
  obtain ⟨hhead, -⟩ := Text.trim_eq_self_iff.1 hk.2
  obtain ⟨-, hlast⟩ := Text.trim_eq_self_iff.1 hv.2
  refine ⟨?_, Text.trim_eq_self_iff.2 ⟨?_, ?_⟩⟩
  · simp only [List.mem_append, List.mem_cons, not_or]
    exact ⟨hk.1, by decide, hv.1⟩
  · obtain ⟨c, cs, rfl⟩ := List.exists_cons_of_ne_nil hne
    exact hhead
  · intro c hc
    rw [List.getLast?_append, List.getLast?_cons] at hc
    cases hl : value.getLast? with
    | none =>
      rw [hl] at hc
      obtain rfl : '=' = c := by simpa using hc
      decide
    | some d =>
      rw [hl] at hc
      obtain rfl : d = c := by simpa using hc
      exact hlast d hl

theorem binding_of_notMem {key : List Char} (h : '=' ∉ key) :
    binding key = (key, "true".toList) := by
  have hdrop : key.dropWhile (· != '=') = [] := by
    rw [← List.append_nil key, List.dropWhile_append_of_pos, List.dropWhile_nil]
    exact fun c hc => bne_iff_ne.2 fun hceq => h (hceq ▸ hc)
  rw [binding, hdrop]
  rfl

/-- A text that can be written as a key. -/
def IsKey (cs : List Char) : Prop := IsPlain cs ∧ cs ≠ [] ∧ '=' ∉ cs

instance (cs : List Char) : Decidable (IsKey cs) := inferInstanceAs (Decidable (_ ∧ _))

/-- The parts that are written for some bindings: a bare key, or a key with a plain value. -/
inductive Writes : List (List Char) → List (List Char × List Char) → Prop
  | nil : Writes [] []
  | bare {key : List Char} {ps : List (List Char)} {bs : List (List Char × List Char)}
      (hk : IsKey key) (h : Writes ps bs) : Writes (key :: ps) ((key, "true".toList) :: bs)
  | value {key value : List Char} {ps : List (List Char)} {bs : List (List Char × List Char)}
      (hk : IsKey key) (hv : IsPlain value) (h : Writes ps bs) :
      Writes ((key ++ '=' :: value) :: ps) ((key, value) :: bs)

theorem Writes.isPlain {ps : List (List Char)} {bs : List (List Char × List Char)}
    (h : Writes ps bs) : ∀ p ∈ ps, IsPlain p ∧ p ≠ [] := by
  induction h with
  | nil => exact fun p hp => absurd hp List.not_mem_nil
  | bare hk _ ih => exact List.forall_mem_cons.2 ⟨⟨hk.1, hk.2.1⟩, ih⟩
  | value hk hv _ ih =>
    exact List.forall_mem_cons.2 ⟨⟨isPlain_append hk.2.1 hk.1 hv, by simp⟩, ih⟩

theorem Writes.map_binding {ps : List (List Char)} {bs : List (List Char × List Char)}
    (h : Writes ps bs) : ps.map binding = bs := by
  induction h with
  | nil => rfl
  | bare hk _ ih => rw [List.map_cons, binding_of_notMem hk.2.2, ih]
  | value hk hv _ ih => rw [List.map_cons, binding_append hk.2.2 hk.1.2 hv.2, ih]

/-- Bindings are read back from the parts that were written for them. -/
theorem Writes.bindings_intercalate {ps : List (List Char)} {bs : List (List Char × List Char)}
    (h : Writes ps bs) (hne : ps ≠ []) : bindings ([','].intercalate ps) = bs := by
  rw [bindings, parts_intercalate hne h.isPlain, h.map_binding]

/-! ## Looking up a key -/

theorem lastValue?_append (key : List Char) (as bs : List (List Char × List Char)) :
    lastValue? key (as ++ bs) = (lastValue? key bs).or (lastValue? key as) := by
  simp only [lastValue?, List.reverse_append, List.find?_append, Option.map_or]

theorem lastValue?_singleton_of_ne {key other : List Char} (h : other ≠ key) (v : List Char) :
    lastValue? key [(other, v)] = none := by
  rw [lastValue?, List.reverse_singleton, List.find?_cons_of_neg (by simpa using h),
    List.find?_nil, Option.map_none]

theorem mem_of_lastValue? {key v : List Char} {bs : List (List Char × List Char)}
    (h : lastValue? key bs = some v) : ∃ b ∈ bs, b.2 = v := by
  obtain ⟨b, hb, rfl⟩ := Option.map_eq_some_iff.1 h
  exact ⟨b, List.mem_reverse.1 (List.mem_of_find?_eq_some hb), rfl⟩

end AgentSandbox.Mount

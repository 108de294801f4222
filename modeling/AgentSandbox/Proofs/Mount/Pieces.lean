import AgentSandbox.Proofs.Mount.Bindings

/-!
# What the pieces of a specification bind

`Binds` relates a piece between two commas to the key and the value that it binds, and `bound?`
computes them.  The value that a specification gives a key is the one that the last of its pieces
with this key binds it to (`lastValue?_bindings`, `lastFor?_eq_some_iff`).
-/

namespace AgentSandbox.Mount

/-! ## One piece -/

/-- The key and the value that a piece binds; blanks around the piece, its key and its value do not
count, and a piece of blanks only binds nothing. -/
inductive Binds : List Char → List Char → List Char → Prop
  | bare {piece : List Char} (heq : '=' ∉ piece) (hne : Text.trim piece ≠ []) :
      Binds piece (Text.trim piece) "true".toList
  | pair {key value : List Char} (heq : '=' ∉ key) :
      Binds (key ++ '=' :: value) (Text.trim key) (Text.trim value)

/-- The binding of a piece, if it is not blank. -/
def bound? (piece : List Char) : Option (List Char × List Char) :=
  if Text.trim piece = [] then none else some (binding (Text.trim piece))

theorem bound?_of_notMem {piece : List Char} (heq : '=' ∉ piece) (hne : Text.trim piece ≠ []) :
    bound? piece = some (Text.trim piece, "true".toList) := by
  rw [bound?, if_neg hne, binding_of_notMem fun h => heq (Text.mem_of_mem_trim h)]

theorem bound?_pair {key : List Char} (heq : '=' ∉ key) (value : List Char) :
    bound? (key ++ '=' :: value) = some (Text.trim key, Text.trim value) := by
  have hkey : '=' ∉ key.dropWhile Text.isBlank := fun h => heq ((List.dropWhile_suffix _).subset h)
  rw [bound?, Text.trim_append_cons (by decide), if_neg (by simp), binding_pair hkey,
    Text.trim_dropWhile, Text.trim_dropEndWhile]

theorem bound?_eq_some_iff {piece key value : List Char} :
    bound? piece = some (key, value) ↔ Binds piece key value := by
  constructor
  · intro h
    by_cases heq : '=' ∈ piece
    · obtain ⟨k, v, rfl, hk⟩ := List.eq_append_cons_of_mem heq
      rw [bound?_pair hk] at h
      cases h
      exact .pair hk
    · have hne : Text.trim piece ≠ [] := by
        intro hnil
        rw [bound?, if_pos hnil] at h
        cases h
      rw [bound?_of_notMem heq hne] at h
      cases h
      exact .bare heq hne
  · intro h
    cases h with
    | bare heq hne => exact bound?_of_notMem heq hne
    | pair heq => exact bound?_pair heq _

/-- The value that a piece binds `key` to, if it binds this key. -/
def valueFor? (key piece : List Char) : Option (List Char) :=
  (bound? piece).bind fun b => if b.1 = key then some b.2 else none

theorem valueFor?_eq_some_iff {piece key value : List Char} :
    valueFor? key piece = some value ↔ Binds piece key value := by
  rw [← bound?_eq_some_iff, valueFor?, Option.bind_eq_some_iff]
  constructor
  · rintro ⟨⟨k, v⟩, hb, h⟩
    split at h
    · next hk =>
      cases h
      rw [hb, ← hk]
    · cases h
  · exact fun h => ⟨_, h, if_pos rfl⟩

theorem valueFor?_eq_none_iff {piece key : List Char} :
    valueFor? key piece = none ↔ ∀ value, ¬Binds piece key value := by
  simp only [Option.eq_none_iff_forall_ne_some, ne_eq, valueFor?_eq_some_iff]

/-! ## All pieces -/

theorem pieces_eq_splitOn (separator : Char) (cs : List Char) :
    pieces separator cs = cs.splitOn separator := by
  induction cs with
  | nil => rfl
  | cons c cs ih =>
    have hcons := List.splitOnP_cons_eq_if_modifyHead (p := (· == separator)) c cs
    rw [List.splitOn] at ih ⊢
    rw [hcons, pieces, ih]
    by_cases h : c = separator
    · rw [if_pos h, if_pos (beq_iff_eq.2 h)]
    · rw [if_neg h, if_neg (by simpa using h)]
      cases hp : cs.splitOnP (· == separator) with
      | nil => exact absurd hp (List.splitOnP_ne_nil _ _)
      | cons p ps => rfl

theorem pieces_ne_nil (separator : Char) (cs : List Char) : pieces separator cs ≠ [] := by
  rw [pieces_eq_splitOn]
  exact List.splitOnP_ne_nil _ _

/-- The pieces on both sides of a separator are cut apart from each other. -/
theorem pieces_append_cons (separator : Char) (a b : List Char) :
    pieces separator (a ++ separator :: b) = pieces separator a ++ pieces separator b := by
  induction a with
  | nil => simp [pieces]
  | cons c a ih =>
    obtain ⟨p, ps, hp⟩ := List.exists_cons_of_ne_nil (pieces_ne_nil separator a)
    rw [List.cons_append, pieces, pieces, ih, hp]
    split
    · rfl
    · rfl

/-- A text without the separator lengthens the first piece of the text that it is put in front of. -/
theorem pieces_append_left {separator : Char} {a : List Char} (ha : separator ∉ a) (b : List Char) :
    ∃ p ps, pieces separator b = p :: ps ∧ pieces separator (a ++ b) = (a ++ p) :: ps := by
  induction a with
  | nil =>
    obtain ⟨p, ps, hp⟩ := List.exists_cons_of_ne_nil (pieces_ne_nil separator b)
    exact ⟨p, ps, hp, hp⟩
  | cons c a ih =>
    obtain ⟨hc, ha⟩ := List.ne_and_not_mem_of_not_mem_cons ha
    obtain ⟨p, ps, hp, hap⟩ := ih ha
    refine ⟨p, ps, hp, ?_⟩
    rw [List.cons_append, pieces, if_neg (Ne.symm hc), hap]
    rfl

/-- A text is its pieces joined by the separator, and in no other way. -/
theorem pieces_eq_iff {separator : Char} {cs : List Char} {ps : List (List Char)} (hne : ps ≠ []) :
    pieces separator cs = ps ↔ [separator].intercalate ps = cs ∧ ∀ p ∈ ps, separator ∉ p := by
  constructor
  · rintro rfl
    exact ⟨by rw [pieces_eq_splitOn, List.intercalate_splitOn], fun p => notMem_of_mem_pieces⟩
  · rintro ⟨rfl, h⟩
    exact pieces_intercalate hne h

theorem bindings_eq_filterMap (spec : List Char) :
    bindings spec = (pieces ',' spec).filterMap bound? := by
  unfold bindings parts
  induction pieces ',' spec with
  | nil => rfl
  | cons p ps ih =>
    by_cases h : Text.trim p = []
    · simpa [bound?, h] using ih
    · simpa [bound?, h] using ih

/-- The value that the last of some pieces with this key binds it to. -/
def lastFor? (key : List Char) (ps : List (List Char)) : Option (List Char) :=
  ps.reverse.findSome? (valueFor? key)

theorem map_find?_filterMap_bound? (key : List Char) (ps : List (List Char)) :
    ((ps.filterMap bound?).find? (·.1 == key)).map (·.2) = ps.findSome? (valueFor? key) := by
  induction ps with
  | nil => rfl
  | cons p ps ih =>
    rw [List.findSome?_cons, valueFor?]
    cases hb : bound? p with
    | none => rw [List.filterMap_cons_none hb, ih, Option.bind_none]
    | some b =>
      rw [List.filterMap_cons_some hb, Option.bind_some]
      by_cases h : b.1 = key
      · rw [if_pos h, List.find?_cons_of_pos (by simpa using h), Option.map_some]
      · rw [if_neg h, List.find?_cons_of_neg (by simpa using h), ih]

theorem lastValue?_bindings (key spec : List Char) :
    lastValue? key (bindings spec) = lastFor? key (pieces ',' spec) := by
  rw [lastValue?, bindings_eq_filterMap, ← List.filterMap_reverse, map_find?_filterMap_bound?,
    lastFor?]

theorem lastFor?_eq_some_iff {key value : List Char} {ps : List (List Char)} :
    lastFor? key ps = some value ↔ ∃ before piece after, ps = before ++ piece :: after ∧
      Binds piece key value ∧ ∀ p ∈ after, ∀ v, ¬Binds p key v := by
  rw [lastFor?, List.findSome?_eq_some_iff]
  simp only [valueFor?_eq_some_iff, valueFor?_eq_none_iff]
  constructor
  · rintro ⟨after, piece, before, hps, hb, hafter⟩
    refine ⟨before.reverse, piece, after.reverse, ?_, hb, fun p hp => ?_⟩
    · rw [← List.reverse_reverse ps, hps]
      simp
    · exact hafter p (List.mem_reverse.1 hp)
  · rintro ⟨before, piece, after, rfl, hb, hafter⟩
    refine ⟨after.reverse, piece, before.reverse, by simp, hb, fun p hp => ?_⟩
    exact hafter p (List.mem_reverse.1 hp)

end AgentSandbox.Mount

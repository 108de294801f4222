import AgentSandbox.Proofs.Json.Meaning
import AgentSandbox.Proofs.Json.Rereading

/-!
# Values as a reader leaves them

A document that is given a meaning and then decoded has lost the order of its members: those of each
object are sorted by their names (`Value.sorted`).  `Document.respelled` is the document that is
decoded when a value was written, read and spelled again.  It gives a record its fields as they
were written, each of them respelled, if no two members have one name (`exists_fields?_respelled`).
-/

namespace AgentSandbox.Json

variable {α β : Type}

mutual

/-- The value with the members of every object in the order of their names, the last of each name. -/
def Value.sorted : Value → Value
  | .null => .null
  | .bool b => .bool b
  | .number n => .number n
  | .text s => .text s
  | .list items => .list (sortedItems items)
  | .object members => .object (Dictionary.ofList (sortedMembers members)).entries

/-- The items of a list, sorted inside. -/
def sortedItems : List Value → List Value
  | [] => []
  | v :: vs => v.sorted :: sortedItems vs

/-- The members of an object, sorted inside. -/
def sortedMembers : List (String × Value) → List (String × Value)
  | [] => []
  | (k, v) :: ms => (k, v.sorted) :: sortedMembers ms

end

mutual

/-- A document that spells a value means the value with sorted members. -/
theorem Document.value?_ofValue_sorted : (v : Value) → (Document.ofValue v).value? = some v.sorted
  | .null => rfl
  | .bool _ => rfl
  | .number _ => rfl
  | .text _ => rfl
  | .list items => by
    rw [Document.ofValue, Document.value?, itemValues?_sortedItems items, Value.sorted]
    rfl
  | .object members => by
    rw [Document.ofValue, Document.value?, memberValues?_sortedMembers members, Value.sorted]
    rfl

theorem itemValues?_sortedItems :
    (vs : List Value) → itemValues? (itemDocuments vs) = some (sortedItems vs)
  | [] => rfl
  | v :: vs => by
    rw [itemDocuments, itemValues?, Document.value?_ofValue_sorted v, itemValues?_sortedItems vs,
      sortedItems]

theorem memberValues?_sortedMembers :
    (ms : List (String × Value)) → memberValues? (memberDocuments ms) = some (sortedMembers ms)
  | [] => rfl
  | (k, v) :: ms => by
    rw [memberDocuments, memberValues?_cons, Document.value?_ofValue_sorted v,
      memberValues?_sortedMembers ms, sortedMembers]
    rfl

end

theorem sortedItems_eq_map (vs : List Value) : sortedItems vs = vs.map Value.sorted := by
  induction vs with
  | nil => rfl
  | cons v vs ih => rw [sortedItems, ih, List.map_cons]

theorem map_fst_sortedMembers (ms : List (String × Value)) :
    (sortedMembers ms).map (·.1) = ms.map (·.1) := by
  induction ms with
  | nil => rfl
  | cons m ms ih => rw [sortedMembers, List.map_cons, ih, List.map_cons]

theorem lookup?_sortedMembers (name : String) (ms : List (String × Value)) :
    lookup? name (sortedMembers ms) = (lookup? name ms).map Value.sorted := by
  induction ms with
  | nil => rfl
  | cons m ms ih =>
    obtain ⟨k, v⟩ := m
    rw [sortedMembers, lookup?, ih, lookup?]
    split <;> rfl

/-! ## Members that are given -/

theorem lookup?_filterMap_map {γ : Type} {ms : List (String × Option γ)}
    (h : (ms.map (·.1)).Pairwise (· ≠ ·)) (name : String) :
    lookup? name (ms.filterMap fun m => m.2.map (m.1, ·)) = (lookup? name ms).join := by
  induction ms with
  | nil => rfl
  | cons m ms ih =>
    obtain ⟨k, o⟩ := m
    obtain ⟨hne, hms⟩ := List.pairwise_cons.1 h
    have ih := ih hms
    by_cases hkey : name = k
    · subst hkey
      have hnone : lookup? name ms = none :=
        lookup?_eq_none fun x hx => hne x.1 (List.mem_map_of_mem hx)
      rw [hnone] at ih
      cases o with
      | none => simpa [lookup?] using ih
      | some v => simp [lookup?]
    · cases o with
      | none => simpa [lookup?, hkey] using ih
      | some v => simpa [lookup?, hkey] using ih

theorem map_fst_filterMap_sublist {γ : Type} (ms : List (String × Option γ)) :
    ((ms.filterMap fun m => m.2.map (m.1, ·)).map (·.1)).Sublist (ms.map (·.1)) := by
  induction ms with
  | nil => exact .slnil
  | cons m ms ih =>
    obtain ⟨k, o⟩ := m
    cases o with
    | none => exact ih.cons k
    | some v => exact ih.cons_cons k

theorem lookup?_givenMembers {ms : List (String × Option Value)}
    (h : (ms.map (·.1)).Pairwise (· ≠ ·)) (name : String) :
    lookup? name (givenMembers ms) = (lookup? name ms).join :=
  lookup?_filterMap_map h name

theorem map_fst_givenMembers_sublist (ms : List (String × Option Value)) :
    ((givenMembers ms).map (·.1)).Sublist (ms.map (·.1)) :=
  map_fst_filterMap_sublist ms

/-! ## Documents that are spelled again -/

namespace Document

/-- The document that spells the meaning of a value's text. -/
def respelled (v : Value) : Document := ofValue v.sorted

theorem respelled_ne_null {v : Value} (h : v ≠ .null) : respelled v ≠ .null := by
  cases v with
  | null => exact absurd rfl h
  | _ => nofun

/-- A list is decoded if its items are. -/
theorem listOf?_respelled {decode : Document → Option β} {form : α → Value} {g : α → β}
    {xs : List α} (h : ∀ x ∈ xs, decode (respelled (form x)) = some (g x)) :
    listOf? decode (respelled (.list (xs.map form))) = some (xs.map g) := by
  rw [respelled, Value.sorted, sortedItems_eq_map, ofValue_list, itemDocuments_eq_map, List.map_map,
    List.map_map]
  exact listOf?_list_map h

/-- The respelled object gives a record its fields, each of them respelled. -/
theorem exists_fields?_respelled {ms : List (String × Option Value)}
    (h : (ms.map (·.1)).Pairwise (· ≠ ·)) (names : List String) :
    ∃ fs, (respelled (.object (givenMembers ms))).fields? names = some fs ∧
      ∀ name ∈ names, lookup? name fs.given = (lookup? name ms).join.map respelled := by
  refine ⟨_, fields?_ofValue names _, fun name hname => ?_⟩
  have hdistinct : ((sortedMembers (givenMembers ms)).map (·.1)).Pairwise (· ≠ ·) := by
    rw [map_fst_sortedMembers]
    exact h.sublist (map_fst_givenMembers_sublist ms)
  rw [lookup?_knownMembers, if_pos (List.contains_iff_mem.2 hname),
    Dictionary.lookup?_ofList hdistinct, lookup?_sortedMembers, lookup?_givenMembers h,
    Option.map_map]
  rfl

/-- What is decoded of an optional field that was written, or left out. -/
def part? (decode : Document → Option α) : Option Value → Option (Option α)
  | none => some none
  | some v => (respelled v).nullable? decode

theorem part?_some {v : Value} (h : v ≠ .null) (decode : Document → Option α) :
    part? decode (some v) = (decode (respelled v)).map some :=
  nullable?_of_ne (respelled_ne_null h) decode

/-- An optional part is decoded if what it holds is. -/
theorem part?_map {decode : Document → Option β} {form : α → Value} {g : α → β} {o : Option α}
    (hnull : ∀ x, form x ≠ .null) (h : ∀ x, decode (respelled (form x)) = some (g x)) :
    part? decode (o.map form) = some (o.map g) := by
  cases o with
  | none => rfl
  | some x =>
    rw [Option.map_some, part?_some (hnull x), h x]
    rfl

/-- The optional fields of a respelled record are decoded from what was written for them. -/
theorem exists_fields?_optional (ms : List (String × Option Value))
    (h : (ms.map (·.1)).Pairwise (· ≠ ·)) (names : List String) :
    ∃ fs, (respelled (.object (givenMembers ms))).fields? names = some fs ∧
      ∀ name ∈ names, ∀ {α : Type} (decode : Document → Option α),
        fs.optional name decode = part? decode (lookup? name ms).join := by
  obtain ⟨fs, hfs, hlookup⟩ := exists_fields?_respelled h names
  refine ⟨fs, hfs, fun name hname α decode => ?_⟩
  rw [Fields.optional, Fields.orDefault, hlookup name hname]
  cases (lookup? name ms).join <;> rfl

end Document

end AgentSandbox.Json

/-!
# Dictionaries

A dictionary binds texts to values and keeps its bindings in increasing order of the keys, so two
dictionaries with the same bindings are equal.  `insertEntry`, `lookup?` and `eraseEntry` work on
a plain list of bindings; `Dictionary` pairs such a list with the proof that it is in order.
-/

namespace AgentSandbox

variable {α : Type}

/-- The list with `key` bound to `value`; an older binding of the key is replaced. -/
def insertEntry (key : String) (value : α) : List (String × α) → List (String × α)
  | [] => [(key, value)]
  | e :: es =>
    if key < e.1 then (key, value) :: e :: es
    else if key = e.1 then (key, value) :: es
    else e :: insertEntry key value es

/-- The value that the list binds to `key`. -/
def lookup? (key : String) : List (String × α) → Option α
  | [] => none
  | e :: es => if key = e.1 then some e.2 else lookup? key es

/-- The list without its first binding of `key`. -/
def eraseEntry (key : String) : List (String × α) → List (String × α)
  | [] => []
  | e :: es => if key = e.1 then es else e :: eraseEntry key es

/-- The keys of the list increase strictly. -/
def Increasing (entries : List (String × α)) : Prop :=
  entries.Pairwise fun a b => a.1 < b.1

theorem lt_of_not_lt_of_ne {a b : String} (h : ¬a < b) (hne : a ≠ b) : b < a := by
  rcases Decidable.em (b < a) with h' | h'
  · exact h'
  · exact absurd (String.le_antisymm (String.not_lt.1 h') (String.not_lt.1 h)) hne

theorem mem_insertEntry {key : String} {value : α} {e : String × α} {es : List (String × α)}
    (h : e ∈ insertEntry key value es) : e = (key, value) ∨ e ∈ es := by
  induction es with
  | nil => exact .inl (List.mem_singleton.1 h)
  | cons x xs ih =>
    unfold insertEntry at h
    split at h
    · exact List.mem_cons.1 h
    · split at h
      · exact (List.mem_cons.1 h).imp_right (List.mem_cons_of_mem _)
      · rcases List.mem_cons.1 h with rfl | h
        · exact .inr List.mem_cons_self
        · exact (ih h).imp_right (List.mem_cons_of_mem _)

theorem Increasing.insertEntry {es : List (String × α)} (h : Increasing es) (key : String)
    (value : α) : Increasing (insertEntry key value es) := by
  induction es with
  | nil => exact List.pairwise_singleton _ _
  | cons x xs ih =>
    obtain ⟨hx, hxs⟩ := List.pairwise_cons.1 h
    unfold AgentSandbox.insertEntry
    split
    · next hlt =>
      refine List.pairwise_cons.2 ⟨fun e he => ?_, h⟩
      rcases List.mem_cons.1 he with rfl | he
      · exact hlt
      · exact String.lt_trans hlt (hx e he)
    · next hlt =>
      split
      · next heq => exact List.pairwise_cons.2 ⟨fun e he => heq ▸ hx e he, hxs⟩
      · next hne =>
        refine List.pairwise_cons.2 ⟨fun e he => ?_, ih hxs⟩
        rcases mem_insertEntry he with rfl | he
        · exact lt_of_not_lt_of_ne hlt hne
        · exact hx e he

theorem eraseEntry_sublist (key : String) (es : List (String × α)) :
    (eraseEntry key es).Sublist es := by
  induction es with
  | nil => exact .slnil
  | cons x xs ih =>
    unfold eraseEntry
    split
    · exact List.sublist_cons_self _ _
    · exact ih.cons_cons _

/-- Bindings of texts to values, in increasing order of the texts. -/
structure Dictionary (α : Type) where
  entries : List (String × α)
  increasing : Increasing entries

namespace Dictionary

/-- The dictionary without bindings. -/
def empty : Dictionary α := ⟨[], List.Pairwise.nil⟩

instance : Inhabited (Dictionary α) := ⟨empty⟩

/-- The dictionary with `key` bound to `value`, whatever it was bound to before. -/
def insert (d : Dictionary α) (key : String) (value : α) : Dictionary α :=
  ⟨insertEntry key value d.entries, d.increasing.insertEntry key value⟩

/-- The dictionary without a binding of `key`. -/
def erase (d : Dictionary α) (key : String) : Dictionary α :=
  ⟨eraseEntry key d.entries, d.increasing.sublist (eraseEntry_sublist key d.entries)⟩

/-- The value bound to `key`. -/
def find? (d : Dictionary α) (key : String) : Option α :=
  lookup? key d.entries

/-- The number of bindings. -/
def size (d : Dictionary α) : Nat := d.entries.length

/-- The bindings of a list, the last one of each key. -/
def ofList (entries : List (String × α)) : Dictionary α :=
  entries.foldl (fun d e => d.insert e.1 e.2) empty

@[ext] theorem ext {d₁ d₂ : Dictionary α} (h : d₁.entries = d₂.entries) : d₁ = d₂ := by
  cases d₁; cases d₂; cases h; rfl

instance [DecidableEq α] : DecidableEq (Dictionary α) := fun d₁ d₂ =>
  decidable_of_iff (d₁.entries = d₂.entries) ⟨ext, fun h => h ▸ rfl⟩

end Dictionary

/-! ## Looking up after a change -/

@[simp] theorem lookup?_insertEntry_self (key : String) (value : α) (es : List (String × α)) :
    lookup? key (insertEntry key value es) = some value := by
  induction es with
  | nil => simp [insertEntry, lookup?]
  | cons x xs ih =>
    unfold insertEntry
    split
    · simp [lookup?]
    · split
      · simp [lookup?]
      · next hne => simp [lookup?, hne, ih]

theorem lookup?_insertEntry_of_ne {key other : String} (h : other ≠ key) (value : α)
    (es : List (String × α)) :
    lookup? other (insertEntry key value es) = lookup? other es := by
  induction es with
  | nil => simp [insertEntry, lookup?, h]
  | cons x xs ih =>
    unfold insertEntry
    split
    · simp [lookup?, h]
    · split
      · next heq => subst heq; simp [lookup?, h]
      · simp [lookup?, ih]

theorem Dictionary.find?_insert_self (d : Dictionary α) (key : String) (value : α) :
    (d.insert key value).find? key = some value :=
  lookup?_insertEntry_self key value d.entries

theorem Dictionary.find?_insert_of_ne (d : Dictionary α) {key other : String} (h : other ≠ key)
    (value : α) : (d.insert key value).find? other = d.find? other :=
  lookup?_insertEntry_of_ne h value d.entries

theorem lookup?_eraseEntry_of_ne {key other : String} (h : other ≠ key) (es : List (String × α)) :
    lookup? other (eraseEntry key es) = lookup? other es := by
  induction es with
  | nil => rfl
  | cons x xs ih =>
    unfold eraseEntry
    split
    · next heq => subst heq; simp [lookup?, h]
    · simp [lookup?, ih]

theorem lookup?_eq_none {key : String} {es : List (String × α)} (h : ∀ e ∈ es, key ≠ e.1) :
    lookup? key es = none := by
  induction es with
  | nil => rfl
  | cons e es ih =>
    rw [lookup?, if_neg (h e List.mem_cons_self)]
    exact ih fun x hx => h x (List.mem_cons_of_mem _ hx)

theorem mem_of_lookup? {key : String} {value : α} {es : List (String × α)}
    (h : lookup? key es = some value) : (key, value) ∈ es := by
  induction es with
  | nil => cases h
  | cons e es ih =>
    rw [lookup?] at h
    split at h
    · next heq =>
      cases h
      exact heq ▸ List.mem_cons_self
    · exact List.mem_cons_of_mem _ (ih h)

theorem lookup?_append (key : String) (es es' : List (String × α)) :
    lookup? key (es ++ es') = (lookup? key es).or (lookup? key es') := by
  induction es with
  | nil => rfl
  | cons e es ih =>
    by_cases h : key = e.1
    · rw [List.cons_append, lookup?, lookup?, if_pos h, if_pos h]
      rfl
    · rw [List.cons_append, lookup?, lookup?, if_neg h, if_neg h, ih]

theorem Increasing.lookup?_eraseEntry_self {es : List (String × α)} (h : Increasing es)
    (key : String) : lookup? key (eraseEntry key es) = none := by
  induction es with
  | nil => rfl
  | cons x xs ih =>
    obtain ⟨hx, hxs⟩ := List.pairwise_cons.1 h
    unfold eraseEntry
    split
    · next heq => exact lookup?_eq_none fun e he hkey => String.lt_irrefl _ (hkey ▸ heq ▸ hx e he)
    · next hne => rw [lookup?, if_neg hne, ih hxs]

theorem Dictionary.find?_erase_self (d : Dictionary α) (key : String) :
    (d.erase key).find? key = none :=
  d.increasing.lookup?_eraseEntry_self key

theorem Dictionary.find?_erase_of_ne (d : Dictionary α) {key other : String} (h : other ≠ key) :
    (d.erase key).find? other = d.find? other :=
  lookup?_eraseEntry_of_ne h d.entries

theorem eraseEntry_of_lookup?_eq_none {key : String} {es : List (String × α)}
    (h : lookup? key es = none) : eraseEntry key es = es := by
  induction es with
  | nil => rfl
  | cons x xs ih =>
    unfold lookup? at h
    split at h
    · cases h
    · next hne => rw [eraseEntry, if_neg hne, ih h]

theorem Dictionary.erase_of_find?_eq_none {d : Dictionary α} {key : String}
    (h : d.find? key = none) : d.erase key = d :=
  Dictionary.ext (eraseEntry_of_lookup?_eq_none h)

end AgentSandbox

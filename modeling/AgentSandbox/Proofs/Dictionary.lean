import AgentSandbox.Dictionary

/-!
# Dictionaries as finite maps

A dictionary is known by what it binds (`Dictionary.ext_find?`), and its size is the number of its
keys, none of which is bound twice (`Dictionary.length_keys`, `Dictionary.nodup_keys`).  One that is
made of bindings binds each key to the last value it comes with (`Dictionary.find?_ofList`): it
binds what they do if no key comes twice (`Dictionary.lookup?_ofList`), and has just these bindings
if they are in order (`Dictionary.entries_ofList`).
-/

namespace AgentSandbox

variable {α : Type} {es : List (String × α)}

/-! ## Bindings with different keys -/

theorem lookup?_eq_none_iff {key : String} : lookup? key es = none ↔ key ∉ es.map (·.1) := by
  induction es with
  | nil => exact ⟨fun _ => List.not_mem_nil, fun _ => rfl⟩
  | cons e es ih =>
    rw [lookup?, List.map_cons, List.mem_cons, not_or, ← ih]
    by_cases hkey : key = e.1
    · rw [if_pos hkey]
      exact ⟨fun h => absurd h (Option.some_ne_none _), fun h => absurd hkey h.1⟩
    · rw [if_neg hkey]
      exact ⟨fun h => ⟨hkey, h⟩, And.right⟩

theorem lookup?_of_nodup (h : (es.map (·.1)).Nodup) {key : String} {value : α}
    (hmem : (key, value) ∈ es) : lookup? key es = some value := by
  induction es with
  | nil => cases hmem
  | cons e es ih =>
    obtain ⟨he, hes⟩ := List.nodup_cons.1 h
    rw [lookup?]
    rcases List.mem_cons.1 hmem with rfl | hmem
    · exact if_pos rfl
    · have hne : key ≠ e.1 := by
        rintro rfl
        exact he (List.mem_map.2 ⟨_, hmem, rfl⟩)
      rw [if_neg hne]
      exact ih hes hmem

/-- The order of bindings does not matter if no key is bound twice. -/
theorem lookup?_reverse (h : (es.map (·.1)).Nodup) (key : String) :
    lookup? key es.reverse = lookup? key es := by
  cases hlookup : lookup? key es with
  | none =>
    rw [lookup?_eq_none_iff, List.map_reverse, List.mem_reverse]
    exact lookup?_eq_none_iff.1 hlookup
  | some value =>
    refine lookup?_of_nodup ?_ (List.mem_reverse.2 (mem_of_lookup? hlookup))
    rw [List.map_reverse]
    exact List.pairwise_reverse.2 (h.imp Ne.symm)

theorem insertEntry_of_forall_lt {key : String} (h : ∀ e ∈ es, e.1 < key) (value : α) :
    insertEntry key value es = es ++ [(key, value)] := by
  induction es with
  | nil => rfl
  | cons e es ih =>
    have he : e.1 < key := h e List.mem_cons_self
    have hlt : ¬key < e.1 := fun h => String.lt_irrefl _ (String.lt_trans h he)
    have hne : key ≠ e.1 := fun heq => String.lt_irrefl _ (heq ▸ he)
    rw [insertEntry, if_neg hlt, if_neg hne, ih fun x hx => h x (List.mem_cons_of_mem _ hx),
      List.cons_append]

namespace Dictionary

/-! ## Keys -/

/-- The keys that a dictionary binds, in their order. -/
def keys (d : Dictionary α) : List String := d.entries.map (·.1)

theorem nodup_keys (d : Dictionary α) : d.keys.Nodup :=
  List.pairwise_map.2 (d.increasing.imp fun h => String.ne_of_lt h)

theorem length_keys (d : Dictionary α) : d.keys.length = d.size := List.length_map ..

theorem nodup_entries (d : Dictionary α) : d.entries.Nodup :=
  (List.pairwise_map.1 d.nodup_keys).imp fun h heq => h (congrArg Prod.fst heq)

theorem mem_entries_iff {d : Dictionary α} {key : String} {value : α} :
    (key, value) ∈ d.entries ↔ d.find? key = some value :=
  ⟨lookup?_of_nodup d.nodup_keys, mem_of_lookup?⟩

theorem mem_keys_iff {d : Dictionary α} {key : String} :
    key ∈ d.keys ↔ ∃ value, d.find? key = some value := by
  rw [← Option.ne_none_iff_exists']
  exact (Decidable.not_iff_comm.1 lookup?_eq_none_iff.symm).symm

/-- Dictionaries that bind the same are equal. -/
theorem ext_find? {d d' : Dictionary α}
    (h : ∀ key value, d.find? key = some value ↔ d'.find? key = some value) : d = d' := by
  have hmem (e : String × α) : e ∈ d.entries ↔ e ∈ d'.entries :=
    mem_entries_iff.trans ((h e.1 e.2).trans mem_entries_iff.symm)
  have hperm : d.entries.Perm d'.entries :=
    (List.perm_ext_iff_of_nodup d.nodup_entries d'.nodup_entries).2 hmem
  exact ext (hperm.eq_of_pairwise (fun _ _ _ _ hlt hlt' =>
    absurd (String.lt_trans hlt hlt') (String.lt_irrefl _)) d.increasing d'.increasing)

/-! ## Dictionaries made of bindings -/

/-- Bindings that are in order are those of their dictionary. -/
theorem entries_ofList (h : Increasing es) : (ofList es).entries = es := by
  suffices hfold : ∀ d : Dictionary α, Increasing (d.entries ++ es) →
      (es.foldl (fun d e => d.insert e.1 e.2) d).entries = d.entries ++ es from hfold empty h
  clear h
  induction es with
  | nil => intro d _; simp
  | cons e es ih =>
    intro d hd
    have hlt : ∀ x ∈ d.entries, x.1 < e.1 := by
      intro x hx
      exact (List.pairwise_append.1 hd).2.2 x hx e List.mem_cons_self
    have hentries : (d.insert e.1 e.2).entries = d.entries ++ [e] :=
      insertEntry_of_forall_lt hlt e.2
    have happend : (d.insert e.1 e.2).entries ++ es = d.entries ++ e :: es := by
      rw [hentries, List.append_assoc]
      rfl
    rw [List.foldl_cons, ih _ (by rwa [happend]), happend]

/-- A dictionary is made of its own bindings. -/
theorem ofList_entries (d : Dictionary α) : ofList d.entries = d :=
  ext (entries_ofList d.increasing)

/-- Of the bindings that a dictionary is made of, the last one of each key counts. -/
theorem find?_ofList (es : List (String × α)) (key : String) :
    (ofList es).find? key = lookup? key es.reverse := by
  suffices hfold : ∀ d : Dictionary α, (es.foldl (fun d e => d.insert e.1 e.2) d).find? key =
      (lookup? key es.reverse).or (d.find? key) from (hfold empty).trans (Option.or_none)
  induction es with
  | nil => exact fun d => rfl
  | cons e es ih =>
    intro d
    rw [List.foldl_cons, ih, List.reverse_cons, lookup?_append, Option.or_assoc, lookup?]
    by_cases hkey : key = e.1
    · rw [if_pos hkey, hkey, find?_insert_self]
      rfl
    · rw [if_neg hkey, find?_insert_of_ne d hkey]
      rfl

/-- A dictionary binds what the bindings do that it is made of, if no key is bound twice. -/
theorem lookup?_ofList (h : (es.map (·.1)).Pairwise (· ≠ ·)) (key : String) :
    lookup? key (ofList es).entries = lookup? key es :=
  (find?_ofList es key).trans (lookup?_reverse h key)

/-- Of bindings with the same key, a dictionary has the last one. -/
theorem mem_entries_ofList_iff {key : String} {value : α} :
    (key, value) ∈ (ofList es).entries ↔ lookup? key es.reverse = some value := by
  rw [mem_entries_iff, find?_ofList]

theorem mem_of_mem_ofList {e : String × α} (h : e ∈ (ofList es).entries) : e ∈ es :=
  List.mem_reverse.1 (mem_of_lookup? (mem_entries_ofList_iff.1 h))

end Dictionary

end AgentSandbox

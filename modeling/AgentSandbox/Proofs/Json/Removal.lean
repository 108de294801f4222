import AgentSandbox.Proofs.Json.Holding
import AgentSandbox.Proofs.Json.Rereading

/-!
# Members that are left out

A path of names leads to a member of an object at any depth.  `Value.without` leaves out the members at
some paths, with all that they hold.  What is left fits into a text if the value does
(`Value.Fits.without`), and it gives a record the fields that are still there
(`Document.exists_fields?_without`).
-/

namespace AgentSandbox.Json

variable {gone : List String → Bool}

namespace Value

/-- The member at a path. -/
def at? : List String → Value → Option Value
  | [], v => some v
  | name :: path, v => (v.member? name).bind (at? path)

end Value

mutual

/-- The paths that lead to a part of a value that is no object. -/
def Value.leaves : Value → List (List String)
  | .null => [[]]
  | .bool _ => [[]]
  | .number _ => [[]]
  | .text _ => [[]]
  | .list _ => [[]]
  | .object members => memberLeaves members

/-- The paths that lead there through some members. -/
def memberLeaves : List (String × Value) → List (List String)
  | [] => []
  | (k, v) :: ms => v.leaves.map (k :: ·) ++ memberLeaves ms

end

mutual

/-- The value without the members at the paths that are gone. -/
def Value.without (gone : List String → Bool) : Value → Value
  | .null => .null
  | .bool b => .bool b
  | .number n => .number n
  | .text s => .text s
  | .list items => .list items
  | .object members => .object (membersWithout gone members)

/-- The members whose paths are not gone, without what is gone of them. -/
def membersWithout (gone : List String → Bool) : List (String × Value) → List (String × Value)
  | [] => []
  | (k, v) :: ms =>
    if gone [k] then membersWithout gone ms
    else (k, v.without fun path => gone (k :: path)) :: membersWithout gone ms

end

@[simp] theorem Value.leaves_nat (n : Nat) : (nat n).leaves = [[]] := rfl

@[simp] theorem Value.leaves_textOrNull (s : Option String) : (textOrNull s).leaves = [[]] := by
  cases s <;> rfl

@[simp] theorem Value.leaves_natOrNull (n : Option Nat) : (natOrNull n).leaves = [[]] := by
  cases n <;> rfl

/-! ## What is removed -/

/-- The member at a path is gone, or one that holds it is. -/
def Removed (gone : List String → Bool) (path : List String) : Prop :=
  ∃ p, p ≠ [] ∧ p <+: path ∧ gone p = true

theorem not_removed_nil : ¬ Removed gone [] := by
  rintro ⟨p, hp, hprefix, -⟩
  exact hp (List.prefix_nil.1 hprefix)

theorem removed_cons_iff {name : String} {path : List String} :
    Removed gone (name :: path) ↔
      gone [name] = true ∨ Removed (fun p => gone (name :: p)) path := by
  constructor
  · rintro ⟨_ | ⟨k, p⟩, hp, hprefix, hgone⟩
    · exact absurd rfl hp
    · obtain ⟨rfl, htail⟩ := List.cons_prefix_cons.1 hprefix
      cases p with
      | nil => exact .inl hgone
      | cons k p => exact .inr ⟨k :: p, List.cons_ne_nil _ _, htail, hgone⟩
  · rintro (hgone | ⟨p, -, hprefix, hgone⟩)
    · exact ⟨[name], List.cons_ne_nil _ _, List.cons_prefix_cons.2 ⟨rfl, List.nil_prefix⟩, hgone⟩
    · exact ⟨name :: p, List.cons_ne_nil _ _, List.cons_prefix_cons.2 ⟨rfl, hprefix⟩, hgone⟩

theorem removed_singleton_iff {name : String} : Removed gone [name] ↔ gone [name] = true :=
  removed_cons_iff.trans (or_iff_left not_removed_nil)

/-- A member of a table in the whole is removed if the table is or the member is. -/
theorem removed_pair_iff {table name : String} :
    Removed gone [table, name] ↔ gone [table] = true ∨ gone [table, name] = true :=
  removed_cons_iff.trans (or_congr_right removed_singleton_iff)

/-! ## What is left -/

theorem exists_of_mem_membersWithout {ms : List (String × Value)} {m : String × Value}
    (h : m ∈ membersWithout gone ms) :
    ∃ v, (m.1, v) ∈ ms ∧ m.2 = v.without fun path => gone (m.1 :: path) := by
  induction ms with
  | nil => cases h
  | cons e ms ih =>
    obtain ⟨k, v⟩ := e
    rw [membersWithout] at h
    split at h
    · obtain ⟨v', hmem, hv'⟩ := ih h
      exact ⟨v', List.mem_cons_of_mem _ hmem, hv'⟩
    · rcases List.mem_cons.1 h with rfl | h
      · exact ⟨v, List.mem_cons_self, rfl⟩
      · obtain ⟨v', hmem, hv'⟩ := ih h
        exact ⟨v', List.mem_cons_of_mem _ hmem, hv'⟩

theorem map_fst_membersWithout_sublist (ms : List (String × Value)) :
    ((membersWithout gone ms).map (·.1)).Sublist (ms.map (·.1)) := by
  induction ms with
  | nil => exact .slnil
  | cons m ms ih =>
    obtain ⟨k, v⟩ := m
    rw [membersWithout]
    split
    · exact ih.cons k
    · exact ih.cons_cons k

theorem lookup?_membersWithout (name : String) (ms : List (String × Value)) :
    lookup? name (membersWithout gone ms) =
      if gone [name] then none
      else (lookup? name ms).map (Value.without fun path => gone (name :: path)) := by
  induction ms with
  | nil => exact (ite_self none).symm
  | cons m ms ih =>
    obtain ⟨k, v⟩ := m
    rw [membersWithout, lookup?]
    by_cases hk : name = k
    · subst hk
      rw [if_pos rfl]
      split
      · next hgone => rw [ih, if_pos hgone]
      · rw [lookup?, if_pos rfl]
        rfl
    · rw [if_neg hk, ← ih]
      split
      · rfl
      · rw [lookup?, if_neg hk]

theorem Value.Fits.without {room : Nat} {v : Value} (h : v.Fits room) (gone : List String → Bool) :
    (v.without gone).Fits room := by
  induction h generalizing gone with
  | object _ ih =>
    refine .object fun m hm => ?_
    obtain ⟨v, hmem, hv⟩ := exists_of_mem_membersWithout hm
    rw [hv]
    exact ih _ hmem _
  | null room => exact .null room
  | bool room b => exact .bool room b
  | int room hn => exact .int room hn
  | text room s => exact .text room s
  | list hitems => exact .list hitems

namespace Document

theorem map_fst_knownMembers_sublist (names : List String) (ms : List (String × Value)) :
    ((knownMembers names ms).map (·.1)).Sublist (ms.map (·.1)) := by
  rw [knownMembers, List.map_map]
  exact List.filter_sublist.map _

/-- What is left of an object gives a record its fields: one that is gone has its default, and any
other is decoded of what is left of it. -/
theorem exists_fields?_without {v : Value} {ms : List (String × Value)} (names : List String)
    (h : names.Nodup) (hv : v.members? = some ms) (hnames : ms.map (·.1) = names)
    (gone : List String → Bool) :
    ∃ fs, (ofValue (v.without gone)).fields? names = some fs ∧
      ∀ name ∈ names, ∀ {α : Type} (decode : Document → Option α) (default : α) {v : Value} {x : α},
        lookup? name ms = some v →
        decode (ofValue (v.without fun path => gone (name :: path))) = some x →
        fs.orDefault name decode default = some (if gone [name] then default else x) := by
  obtain rfl : v = .object ms := by
    cases v with
    | object members => exact congrArg Value.object (Option.some.inj hv)
    | _ => cases hv
  have hdistinct : distinctNames (knownMembers names (membersWithout gone ms)) = true :=
    (distinctNames_iff _).2 ((hnames ▸ h).sublist
      ((map_fst_knownMembers_sublist _ _).trans (map_fst_membersWithout_sublist ms)))
  refine ⟨⟨knownMembers names (membersWithout gone ms), false⟩, ?_, ?_⟩
  · rw [Value.without, ofValue, fields?_record (knownMembers?_memberDocuments names _),
      if_pos hdistinct]
  · intro name hname α decode default v x hv hx
    rw [Fields.orDefault, lookup?_knownMembers, if_pos (List.contains_iff_mem.2 hname),
      lookup?_membersWithout, hv]
    by_cases hgone : gone [name] = true
    · rw [if_pos hgone, if_pos hgone]
      rfl
    · rw [if_neg hgone, if_neg hgone]
      exact hx

theorem nullable?_textOrNull_without (gone : List String → Bool) (s : Option String) :
    nullable? text? (ofValue ((Value.textOrNull s).without gone)) = some s := by
  cases s <;> rfl

theorem nullable?_natOrNull_without (gone : List String → Bool) (n : Option Nat) :
    nullable? nat? (ofValue ((Value.natOrNull n).without gone)) = some n := by
  cases n <;> rfl

end Document

end AgentSandbox.Json

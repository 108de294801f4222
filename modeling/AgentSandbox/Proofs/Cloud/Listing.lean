import AgentSandbox.Cloud.Answering
import AgentSandbox.Proofs.Cloud.Envelope
import AgentSandbox.Proofs.Json.Rereading

/-!
# Pages without objects

A response lists its objects in the first field of its record.  The page that is decoded of it has no
objects just if this field is missing, `null` or an empty list (`tools_eq_nil_iff`,
`instances_eq_nil_iff`).
-/

namespace AgentSandbox.Cloud

open Json

variable {α : Type} {set : String} {rest : List String} {decode : Document → Option α}
  {response v : Value}

/-- The field with which a record begins, by its name or by its position. -/
def leading? (name : String) : Value → Option Value
  | .object ms => lookup? name ms
  | .list vs => vs.head?
  | _ => none

/-- The response lists no objects: their set is missing, `null` or empty. -/
def ListsNone (set : String) (response : Value) : Prop :=
  ∀ objects, leading? set (recordIn response) = some objects → objects = .null ∨ objects = .list []

/-- A list is decoded as empty just if it is missing, `null` or empty. -/
theorem listOf_eq_nil_iff {fs : Fields} {xs : List α} (h : listOf fs set decode = some xs) :
    xs = [] ↔ ∀ d, lookup? set fs.given = some d → d = .null ∨ d = .list [] := by
  unfold listOf Fields.optional Fields.orDefault at h
  cases hgiven : lookup? set fs.given with
  | none =>
    rw [hgiven] at h
    cases h
    exact ⟨fun _ d hd => absurd hd.symm (Option.some_ne_none d), fun _ => rfl⟩
  | some d =>
    rw [hgiven] at h
    simp only [Option.some.injEq, forall_eq']
    cases d with
    | null =>
      cases h
      exact ⟨fun _ => .inl rfl, fun _ => rfl⟩
    | list items =>
      have hitems : items.mapM decode = some xs := by
        simpa [Document.nullable?, Document.listOf?] using h
      cases items with
      | nil =>
        cases hitems
        exact ⟨fun _ => .inr rfl, fun _ => rfl⟩
      | cons item items =>
        rw [List.mapM_cons] at hitems
        obtain ⟨x, -, hitems⟩ := Option.bind_eq_some_iff.1 hitems
        obtain ⟨ys, -, hitems⟩ := Option.bind_eq_some_iff.1 hitems
        cases hitems
        exact ⟨fun h => absurd h (List.cons_ne_nil x ys), fun h => by simp at h⟩
    | _ => cases h

theorem ofValue_eq_null_iff : Document.ofValue v = .null ↔ v = .null := by
  cases v <;> simp [Document.ofValue]

theorem ofValue_eq_nil_iff : Document.ofValue v = .list [] ↔ v = .list [] := by
  cases v <;> simp [Document.ofValue, Document.itemDocuments_eq_map]

/-- The first field of a record is the one with which it begins. -/
theorem lookup?_fields?_ofValue {fs : Fields} (hv : v.IsOrdered)
    (h : (Document.ofValue v).fields? (set :: rest) = some fs) :
    lookup? set fs.given = (leading? set v).map Document.ofValue := by
  cases hv with
  | @object ms increasing _ =>
    have hfields := fields?_ofValue (set :: rest) ⟨ms, increasing⟩
    cases hfields.symm.trans h
    rw [lookup?_knownMembers, if_pos (List.contains_iff_mem.2 List.mem_cons_self)]
    rfl
  | @list vs _ =>
    rw [Document.ofValue_list, Document.itemDocuments_eq_map, Document.fields?] at h
    split at h
    · cases h
      cases vs with
      | nil => rfl
      | cons v vs => exact if_pos rfl
    · cases h
  | _ => cases h

theorem isOrdered_recordIn (h : response.IsOrdered) : (recordIn response).IsOrdered := by
  cases h with
  | null => exact .object .nil nofun
  | bool b => exact .bool b
  | number n => exact .number n
  | text s => exact .text s
  | list h => exact .list h
  | object increasing h => exact .object increasing h

/-- The objects that are decoded of the first field of a response are none just if it lists none. -/
theorem objects_eq_nil_iff {fs : Fields} {xs : List α} (hresponse : response.IsOrdered)
    (hfs : (Document.ofValue (recordIn response)).fields? (set :: rest) = some fs)
    (h : listOf fs set decode = some xs) : xs = [] ↔ ListsNone set response := by
  rw [listOf_eq_nil_iff h, lookup?_fields?_ofValue (isOrdered_recordIn hresponse) hfs]
  simp only [Option.map_eq_some_iff, forall_exists_index, and_imp, forall_apply_eq_imp_iff₂,
    ofValue_eq_null_iff, ofValue_eq_nil_iff]
  exact Iff.rfl

theorem tools_eq_nil_iff {page : ToolPage} (hresponse : response.IsOrdered)
    (h : toolPageOfDocument? (.ofValue (recordIn response)) = some page) :
    page.tools = [] ↔ ListsNone "SandboxToolSet" response := by
  obtain ⟨fs, hfs, h⟩ := Option.bind_eq_some_iff.1 h
  obtain ⟨tools, htools, h⟩ := Option.bind_eq_some_iff.1 h
  obtain ⟨totalCount, -, h⟩ := Option.bind_eq_some_iff.1 h
  cases h
  exact objects_eq_nil_iff hresponse hfs htools

theorem instances_eq_nil_iff {page : InstancePage} (hresponse : response.IsOrdered)
    (h : instancePageOfDocument? (.ofValue (recordIn response)) = some page) :
    page.instances = [] ↔ ListsNone "InstanceSet" response := by
  obtain ⟨fs, hfs, h⟩ := Option.bind_eq_some_iff.1 h
  obtain ⟨instances, hinstances, h⟩ := Option.bind_eq_some_iff.1 h
  obtain ⟨totalCount, -, h⟩ := Option.bind_eq_some_iff.1 h
  cases h
  exact objects_eq_nil_iff hresponse hfs hinstances

end AgentSandbox.Cloud

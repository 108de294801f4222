import AgentSandbox.Cloud.Asking
import AgentSandbox.Proofs.Dictionary
import AgentSandbox.Proofs.Json.Holding
import AgentSandbox.Proofs.Json.Sorting
import AgentSandbox.Proofs.Model.Query

/-!
# The criteria of queries

A query without ids asks for what has certain properties (`ToolQuery.Asks`, `InstanceQuery.Asks`).
Its criteria, in the order in which they are sent, are these properties (`mem_toolCriteria_iff`,
`mem_instanceCriteria_iff`), each of them once (`nodup_toolCriteria`, `nodup_instanceCriteria`),
because no tag is sent under the name of another property (`tag_ne_of_mem`).
-/

namespace AgentSandbox

open Json

/-! ## Criteria -/

/-- The criteria whose value is given. -/
def Cloud.given (cs : List (String × Option String)) : List (String × String) :=
  cs.filterMap fun c => c.2.map (c.1, ·)

namespace ToolQuery

/-- The query asks for the tools whose property of this name has this value. -/
inductive Asks (q : ToolQuery) : String → String → Prop where
  | status {value : String} (given : Text.nonEmpty q.status = some value) : Asks q "Status" value
  | toolType {value : String} (given : Text.nonEmpty q.toolType = some value) :
      Asks q "ToolType" value
  | createdSince {value : String} (given : Text.nonEmpty q.createdSince = some value) :
      Asks q "created-since" value
  | createdSinceTime {value : String} (given : Text.nonEmpty q.createdSinceTime = some value) :
      Asks q "created-since-time" value
  | tag {key value : String} (given : q.tags.find? key = some value) : Asks q ("tag:" ++ key) value

/-- The texts by which tools can be chosen, apart from their tags. -/
def texts (q : ToolQuery) : List (String × Option String) :=
  [("Status", Text.nonEmpty q.status), ("ToolType", Text.nonEmpty q.toolType),
    ("created-since", Text.nonEmpty q.createdSince),
    ("created-since-time", Text.nonEmpty q.createdSinceTime)]

/-- The criteria of a query in the order in which they are sent, the tags in that of their keys. -/
def criteria (q : ToolQuery) : List (String × String) :=
  Cloud.given q.texts ++ q.tags.entries.map fun tag => ("tag:" ++ tag.1, tag.2)

end ToolQuery

namespace InstanceQuery

/-- The query asks for the instances whose property of this name has this value. -/
inductive Asks (q : InstanceQuery) : String → String → Prop where
  | toolId {value : String} (given : Text.nonEmpty q.toolId = some value) : Asks q "ToolId" value
  | status {value : String} (given : Text.nonEmpty q.status = some value) : Asks q "Status" value

/-- The texts by which instances can be chosen. -/
def texts (q : InstanceQuery) : List (String × Option String) :=
  [("ToolId", Text.nonEmpty q.toolId), ("Status", Text.nonEmpty q.status)]

/-- The criteria of a query in the order in which they are sent. -/
def criteria (q : InstanceQuery) : List (String × String) := Cloud.given q.texts

end InstanceQuery

namespace Cloud

theorem mem_given_iff {cs : List (String × Option String)} {name value : String} :
    (name, value) ∈ given cs ↔ (name, some value) ∈ cs := by
  simp only [given, List.mem_filterMap, Option.map_eq_some_iff, Prod.mk.injEq, Prod.exists]
  constructor
  · rintro ⟨_, _, hmem, _, rfl, rfl, rfl⟩
    exact hmem
  · exact fun hmem => ⟨name, some value, hmem, value, rfl, rfl, rfl⟩

theorem tag_ne {name : String} (h : name.toList.head? ≠ some 't') (key : String) :
    "tag:" ++ key ≠ name := by
  rintro rfl
  exact h (by rw [String.toList_append]; rfl)

theorem nodup_toolTexts (q : ToolQuery) : (q.texts.map (·.1)).Nodup :=
  show ["Status", "ToolType", "created-since", "created-since-time"].Nodup by decide

theorem nodup_instanceTexts (q : InstanceQuery) : (q.texts.map (·.1)).Nodup :=
  show ["ToolId", "Status"].Nodup by decide

/-- No name of a tag is that of another criterion. -/
theorem tag_ne_of_mem {q : ToolQuery} {name : String} (h : name ∈ (given q.texts).map (·.1))
    (key : String) : "tag:" ++ key ≠ name := by
  have hname := (map_fst_filterMap_sublist q.texts).subset h
  simp only [ToolQuery.texts, List.map_cons, List.map_nil, List.mem_cons, List.not_mem_nil,
    or_false] at hname
  rcases hname with rfl | rfl | rfl | rfl <;> exact tag_ne (by decide) key

theorem mem_toolCriteria_iff {q : ToolQuery} {name value : String} :
    (name, value) ∈ q.criteria ↔ q.Asks name value := by
  rw [ToolQuery.criteria, List.mem_append, mem_given_iff]
  constructor
  · rintro (hmem | hmem)
    · simp only [ToolQuery.texts, List.mem_cons, List.not_mem_nil, or_false, Prod.mk.injEq] at hmem
      rcases hmem with ⟨rfl, hvalue⟩ | ⟨rfl, hvalue⟩ | ⟨rfl, hvalue⟩ | ⟨rfl, hvalue⟩
      · exact .status hvalue.symm
      · exact .toolType hvalue.symm
      · exact .createdSince hvalue.symm
      · exact .createdSinceTime hvalue.symm
    · obtain ⟨tag, htag, heq⟩ := List.mem_map.1 hmem
      cases heq
      exact .tag (Dictionary.mem_entries_iff.1 htag)
  · rintro (hvalue | hvalue | hvalue | hvalue | hvalue)
    · exact .inl (by simp [ToolQuery.texts, hvalue])
    · exact .inl (by simp [ToolQuery.texts, hvalue])
    · exact .inl (by simp [ToolQuery.texts, hvalue])
    · exact .inl (by simp [ToolQuery.texts, hvalue])
    · exact .inr (List.mem_map.2 ⟨_, Dictionary.mem_entries_iff.2 hvalue, rfl⟩)

theorem mem_instanceCriteria_iff {q : InstanceQuery} {name value : String} :
    (name, value) ∈ q.criteria ↔ q.Asks name value := by
  rw [InstanceQuery.criteria, mem_given_iff]
  constructor
  · intro hmem
    simp only [InstanceQuery.texts, List.mem_cons, List.not_mem_nil, or_false, Prod.mk.injEq]
      at hmem
    rcases hmem with ⟨rfl, hvalue⟩ | ⟨rfl, hvalue⟩
    · exact .toolId hvalue.symm
    · exact .status hvalue.symm
  · rintro (hvalue | hvalue)
    · simp [InstanceQuery.texts, hvalue]
    · simp [InstanceQuery.texts, hvalue]

/-- No property is asked for twice. -/
theorem nodup_toolCriteria (q : ToolQuery) : (q.criteria.map (·.1)).Nodup := by
  have hkeys : ((q.tags.entries.map fun tag => ("tag:" ++ tag.1, tag.2)).map (·.1)) =
      (q.tags.entries.map (·.1)).map ("tag:" ++ ·) := by
    rw [List.map_map, List.map_map]
    rfl
  rw [ToolQuery.criteria, List.map_append, hkeys]
  refine List.nodup_append.2 ⟨(nodup_toolTexts q).sublist (map_fst_filterMap_sublist _), ?_, ?_⟩
  · exact List.pairwise_map.2
      (q.tags.nodup_keys.imp fun hne h => hne ((String.append_right_inj _).1 h))
  · intro name hname tag htag heq
    obtain ⟨key, -, rfl⟩ := List.mem_map.1 htag
    exact tag_ne_of_mem hname key heq.symm

theorem nodup_instanceCriteria (q : InstanceQuery) : (q.criteria.map (·.1)).Nodup :=
  (nodup_instanceTexts q).sublist (map_fst_filterMap_sublist _)

/-! ### The value of a criterion -/

theorem lookup?_tag (key : String) (es : List (String × String)) :
    lookup? ("tag:" ++ key) (es.map fun tag => ("tag:" ++ tag.1, tag.2)) = lookup? key es := by
  induction es with
  | nil => rfl
  | cons e es ih =>
    rw [List.map_cons, lookup?, lookup?, ih]
    simp only [String.append_right_inj]

theorem lookup?_tag_of_ne {name : String} (h : name.toList.head? ≠ some 't')
    (es : List (String × String)) :
    lookup? name (es.map fun tag => ("tag:" ++ tag.1, tag.2)) = none := by
  refine lookup?_eq_none fun e he heq => ?_
  obtain ⟨tag, -, rfl⟩ := List.mem_map.1 he
  exact tag_ne h tag.1 heq.symm

/-- The value that a query asks for under a name that is not that of a tag. -/
theorem lookup?_toolCriteria (q : ToolQuery) {name : String} (h : name.toList.head? ≠ some 't') :
    lookup? name q.criteria = (lookup? name q.texts).join := by
  rw [ToolQuery.criteria, lookup?_append, lookup?_tag_of_ne h, Option.or_none,
    given, lookup?_filterMap_map (nodup_toolTexts q)]

theorem lookup?_toolCriteria_tag (q : ToolQuery) (key : String) :
    lookup? ("tag:" ++ key) q.criteria = q.tags.find? key := by
  have hnone : lookup? ("tag:" ++ key) (given q.texts) = none :=
    lookup?_eq_none fun _ hc => tag_ne_of_mem (List.mem_map_of_mem hc) key
  rw [ToolQuery.criteria, lookup?_append, hnone, Option.none_or, lookup?_tag]
  rfl

theorem lookup?_instanceCriteria (q : InstanceQuery) (name : String) :
    lookup? name q.criteria = (lookup? name q.texts).join :=
  lookup?_filterMap_map (nodup_instanceTexts q) name

end Cloud

end AgentSandbox

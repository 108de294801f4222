import AgentSandbox.Client.Basic
import AgentSandbox.Proofs.Cloud.Criteria
import AgentSandbox.Proofs.Exchange.Requests
import AgentSandbox.Proofs.Json.Unambiguity

/-!
# What queries are sent as

A query is sent as its ids or, without ids, as a page and one filter for each criterion that it asks
for (`queryBody_of_ids`, `member?_queryBody`).  Nothing that a query asks is lost on the way, so two
queries have one body just if they ask the same (`faithful_queries`).
-/

namespace AgentSandbox.Cloud

open Json

/-! ## Bodies -/

/-- A criterion as it is sent. -/
def filterForm (c : String × String) : Value :=
  .object [("Name", .text c.1), ("Values", .list [.text c.2])]

theorem filterForm_injective : Function.Injective filterForm := by
  rintro ⟨name, value⟩ ⟨name', value'⟩ h
  simpa [filterForm] using h

theorem criterionGiven_eq (name : String) (value : Option String) :
    criterionGiven name value = (given [(name, Text.nonEmpty value)]).map filterForm := by
  rw [criterionGiven, given, List.filterMap_cons, List.filterMap_nil]
  cases Text.nonEmpty value <;> rfl

theorem given_append (cs cs' : List (String × Option String)) :
    given (cs ++ cs') = given cs ++ given cs' := List.filterMap_append

theorem toolCriteria_eq (q : ToolQuery) : toolCriteria q = q.criteria.map filterForm := by
  have htexts : q.texts = [("Status", Text.nonEmpty q.status)] ++
      [("ToolType", Text.nonEmpty q.toolType)] ++
      [("created-since", Text.nonEmpty q.createdSince)] ++
      [("created-since-time", Text.nonEmpty q.createdSinceTime)] := rfl
  rw [toolCriteria, ToolQuery.criteria, htexts]
  simp only [criterionGiven_eq, given_append, List.map_append, List.map_map]
  rfl

theorem instanceCriteria_eq (q : InstanceQuery) :
    instanceCriteria q = q.criteria.map filterForm := by
  have htexts : q.texts = [("ToolId", Text.nonEmpty q.toolId)] ++
      [("Status", Text.nonEmpty q.status)] := rfl
  rw [instanceCriteria, InstanceQuery.criteria, htexts]
  simp only [criterionGiven_eq, given_append, List.map_append]

section

variable {idsName : String} {ids ids' : List String} {offset offset' limit limit' : Option Nat}
  {cs cs' : List Value}

theorem queryBody_of_ids (h : ids ≠ []) :
    queryBody idsName ids offset limit cs = .object [(idsName, .texts ids)] := by
  rw [queryBody, if_neg fun hempty => h (List.isEmpty_iff.1 hempty)]
  rfl

theorem member?_queryBody (name : String) :
    (queryBody idsName [] offset limit cs).member? name =
      (lookup? name [("Offset", natGiven offset), ("Limit", natGiven limit),
        ("Filters", listGiven id cs)]).join := by
  refine lookup?_givenMembers ?_ name
  exact show ["Offset", "Limit", "Filters"].Pairwise (· ≠ ·) by decide

theorem natGiven_inj {n m : Option Nat} : natGiven n = natGiven m ↔ nonZero n = nonZero m := by
  have hnat : Function.Injective Value.nat := fun a b h => by
    simpa only [Value.nat, Value.number.injEq, Number.int.injEq, Int.natCast_inj] using h
  exact (Option.map_injective hnat).eq_iff

theorem listGiven_inj (h : listGiven id cs = listGiven id cs') : cs = cs' := by
  cases cs <;> cases cs' <;> simp_all [listGiven]

theorem texts_injective : Function.Injective Value.texts := fun ss ss' h => by
  have htext (s s' : String) (hs : Value.text s = .text s') : s = s' := Value.text.inj hs
  exact (List.map_inj_right htext).1 (Value.list.inj h)

theorem member?_queryBody_ids (hname : idsName ∉ ["Offset", "Limit", "Filters"]) :
    (queryBody idsName ids offset limit cs).member? idsName =
      if ids = [] then none else some (.texts ids) := by
  split
  · next h =>
    subst h
    simp only [List.mem_cons, List.not_mem_nil, or_false, not_or] at hname
    rw [member?_queryBody]
    simp only [lookup?, if_neg hname.1, if_neg hname.2.1, if_neg hname.2.2, Option.join_none]
  · next h =>
    rw [queryBody_of_ids h]
    exact if_pos rfl

/-- The body of a query tells its ids and, without ids, its page and its criteria. -/
theorem queryBody_inj (hname : idsName ∉ ["Offset", "Limit", "Filters"])
    (h : queryBody idsName ids offset limit cs = queryBody idsName ids' offset' limit' cs') :
    ids = ids' ∧ (ids = [] →
      nonZero offset = nonZero offset' ∧ nonZero limit = nonZero limit' ∧ cs = cs') := by
  have hids : ids = ids' := by
    have hmember := congrArg (Value.member? idsName) h
    rw [member?_queryBody_ids hname, member?_queryBody_ids hname] at hmember
    split at hmember <;> split at hmember
    · next hn hn' => rw [hn, hn']
    · cases hmember
    · cases hmember
    · exact texts_injective (Option.some.inj hmember)
  refine ⟨hids, fun hnil => ?_⟩
  subst hids hnil
  have hmember (name : String) := congrArg (Value.member? name) h
  simp only [member?_queryBody] at hmember
  exact ⟨natGiven_inj.1 (hmember "Offset"), natGiven_inj.1 (hmember "Limit"),
    listGiven_inj (hmember "Filters")⟩

/-! ### Bodies hold no floating-point number -/

theorem isExact_record {ms : List (String × Option Value)}
    (h : ∀ m ∈ ms, ∀ v ∈ m.2, v.IsExact) : (record ms).IsExact := by
  refine .object fun m hm => ?_
  obtain ⟨m', hm', hm⟩ := List.mem_filterMap.1 hm
  obtain ⟨v, hv, rfl⟩ := Option.map_eq_some_iff.1 hm
  exact h m' hm' v hv

theorem isExact_texts (ss : List String) : (Value.texts ss).IsExact := by
  refine .list fun v hv => ?_
  obtain ⟨s, -, rfl⟩ := List.mem_map.1 hv
  exact .text s

theorem isExact_filterForm (c : String × String) : (filterForm c).IsExact := by
  refine .object fun m hm => ?_
  simp only [List.mem_cons, List.not_mem_nil, or_false] at hm
  rcases hm with rfl | rfl
  · exact .text c.1
  · exact isExact_texts [c.2]

theorem isExact_natGiven (n : Option Nat) : ∀ v ∈ natGiven n, v.IsExact := by
  intro v hv
  obtain ⟨n, -, rfl⟩ := Option.map_eq_some_iff.1 hv
  exact .int n

theorem isExact_listGiven (hcs : ∀ c ∈ cs, c.IsExact) : ∀ v ∈ listGiven id cs, v.IsExact := by
  intro v hv
  rw [listGiven, List.map_id] at hv
  split at hv
  · cases hv
  · cases hv
    exact .list hcs

theorem isExact_queryBody (hcs : ∀ c ∈ cs, c.IsExact) :
    (queryBody idsName ids offset limit cs).IsExact := by
  rw [queryBody]
  split
  · refine isExact_record fun m hm => ?_
    simp only [List.mem_cons, List.not_mem_nil, or_false] at hm
    rcases hm with rfl | rfl | rfl
    · exact isExact_natGiven offset
    · exact isExact_natGiven limit
    · exact isExact_listGiven hcs
  · refine isExact_record fun m hm v hv => ?_
    cases List.mem_singleton.1 hm
    cases hv
    exact isExact_texts ids

theorem queryBody_congr (h : ids = [] →
      nonZero offset = nonZero offset' ∧ nonZero limit = nonZero limit' ∧ cs = cs') :
    queryBody idsName ids offset limit cs = queryBody idsName ids offset' limit' cs' := by
  by_cases hnil : ids = []
  · obtain ⟨hoffset, hlimit, rfl⟩ := h hnil
    rw [queryBody, queryBody, natGiven_inj.2 hoffset, natGiven_inj.2 hlimit]
  · rw [queryBody_of_ids hnil, queryBody_of_ids hnil]

/-- Bodies have one text just if they ask for the same. -/
theorem toText_queryBody_eq_iff (hname : idsName ∉ ["Offset", "Limit", "Filters"])
    {fs fs' : List (String × String)} :
    (queryBody idsName ids offset limit (fs.map filterForm)).toText =
        (queryBody idsName ids' offset' limit' (fs'.map filterForm)).toText ↔
      ids = ids' ∧ (ids = [] →
        nonZero offset = nonZero offset' ∧ nonZero limit = nonZero limit' ∧ fs = fs') := by
  have hexact (fs : List (String × String)) : ∀ c ∈ fs.map filterForm, c.IsExact := by
    intro c hc
    obtain ⟨f, -, rfl⟩ := List.mem_map.1 hc
    exact isExact_filterForm f
  constructor
  · intro h
    have hbody := (isExact_queryBody (hexact fs)).eq_of_toText (isExact_queryBody (hexact fs')) h
    obtain ⟨hids, hnone⟩ := queryBody_inj hname hbody
    refine ⟨hids, fun hnil => ?_⟩
    obtain ⟨hoffset, hlimit, hcriteria⟩ := hnone hnil
    exact ⟨hoffset, hlimit,
      (List.map_inj_right fun c c' hc => filterForm_injective hc).1 hcriteria⟩
  · rintro ⟨rfl, hnone⟩
    refine congrArg Value.toText (queryBody_congr fun hnil => ?_)
    obtain ⟨hoffset, hlimit, rfl⟩ := hnone hnil
    exact ⟨hoffset, hlimit, rfl⟩

end

/-! ## Normal queries -/

theorem toolQueryBody_eq (q : ToolQuery) :
    toolQueryBody q = queryBody "ToolIds" q.toolIds q.offset q.limit (q.criteria.map filterForm) := by
  rw [toolQueryBody, toolCriteria_eq]

theorem instanceQueryBody_eq (q : InstanceQuery) :
    instanceQueryBody q =
      queryBody "InstanceIds" q.instanceIds q.offset q.limit (q.criteria.map filterForm) := by
  rw [instanceQueryBody, instanceCriteria_eq]

theorem criteria_toolTidy (q : ToolQuery) : q.tidy.criteria = q.criteria := by
  simp only [ToolQuery.criteria, ToolQuery.texts, ToolQuery.tidy, Text.nonEmpty_nonEmpty]

theorem criteria_instanceTidy (q : InstanceQuery) : q.tidy.criteria = q.criteria := by
  simp only [InstanceQuery.criteria, InstanceQuery.texts, InstanceQuery.tidy,
    Text.nonEmpty_nonEmpty]

/-- A query and the tidy one have one body. -/
theorem instanceQueryBody_tidy (q : InstanceQuery) :
    instanceQueryBody q.tidy = instanceQueryBody q := by
  rw [instanceQueryBody_eq, criteria_instanceTidy, instanceQueryBody_eq]
  exact queryBody_congr fun _ => ⟨nonZero_nonZero q.offset, nonZero_nonZero q.limit, rfl⟩

/-- What a query without ids asks is its page and its criteria. -/
theorem toolTidy_eq_iff {q q' : ToolQuery} (hids : q.toolIds = q'.toolIds) :
    q.tidy = q'.tidy ↔ nonZero q.offset = nonZero q'.offset ∧
      nonZero q.limit = nonZero q'.limit ∧ q.criteria = q'.criteria := by
  constructor
  · intro h
    refine ⟨congrArg ToolQuery.offset h, congrArg ToolQuery.limit h, ?_⟩
    rw [← criteria_toolTidy, h, criteria_toolTidy]
  · rintro ⟨hoffset, hlimit, hcriteria⟩
    have hlookup (name : String) : lookup? name q.criteria = lookup? name q'.criteria := by
      rw [hcriteria]
    have htext (name : String) (h : name.toList.head? ≠ some 't') :
        (lookup? name q.texts).join = (lookup? name q'.texts).join := by
      rw [← lookup?_toolCriteria q h, ← lookup?_toolCriteria q' h, hlookup]
    have htags : q.tags = q'.tags := by
      refine Dictionary.ext_find? fun key value => ?_
      rw [← lookup?_toolCriteria_tag, ← lookup?_toolCriteria_tag, hlookup]
    simp only [ToolQuery.tidy, ToolQuery.mk.injEq]
    exact ⟨hids, hoffset, hlimit, htext "Status" (by decide), htext "ToolType" (by decide),
      htext "created-since" (by decide), htext "created-since-time" (by decide), htags⟩

theorem instanceTidy_eq_iff {q q' : InstanceQuery} (hids : q.instanceIds = q'.instanceIds) :
    q.tidy = q'.tidy ↔ nonZero q.offset = nonZero q'.offset ∧
      nonZero q.limit = nonZero q'.limit ∧ q.criteria = q'.criteria := by
  constructor
  · intro h
    refine ⟨congrArg InstanceQuery.offset h, congrArg InstanceQuery.limit h, ?_⟩
    rw [← criteria_instanceTidy, h, criteria_instanceTidy]
  · rintro ⟨hoffset, hlimit, hcriteria⟩
    have htext (name : String) : (lookup? name q.texts).join = (lookup? name q'.texts).join := by
      rw [← lookup?_instanceCriteria, ← lookup?_instanceCriteria, hcriteria]
    simp only [InstanceQuery.tidy, InstanceQuery.mk.injEq]
    exact ⟨hids, htext "ToolId", htext "Status", hoffset, hlimit⟩

/-! ## Faithful bodies -/

/-- The bodies of queries of a kind say what the queries ask: `normal` is the query without what says
nothing, `ids` are its ids, `criteria` its criteria and `Asks` the properties that it asks for. -/
structure Faithful {Q : Type} (body : Q → Value) (normal : Q → Q) (idsName : String)
    (ids : Q → List String) (criteria : Q → List (String × String))
    (Asks : Q → String → String → Prop) : Prop where
  /-- Queries have one body just if they ask the same. -/
  same (q q' : Q) : (body q).toText = (body q').toText ↔ normal q = normal q'
  /-- A query with ids is sent as its ids. -/
  byIds (q : Q) : ids q ≠ [] → body q = .object [(idsName, .texts (ids q))]
  /-- A query without ids is sent with one filter for each criterion, in their order. -/
  byCriteria (q : Q) : ids q = [] →
    (body q).member? idsName = none ∧ (body q).member? "Filters" = listGiven filterForm (criteria q)
  /-- No two criteria have one name. -/
  distinct (q : Q) : ((criteria q).map (·.1)).Nodup
  /-- The criteria are what the query asks for. -/
  complete (q : Q) (name value : String) : (name, value) ∈ criteria q ↔ Asks q name value

section

variable {Q : Type} {body : Q → Value} {tidy : Q → Q} {named : List String → Q} {idsName : String}
  {ids : Q → List String} {offset limit : Q → Option Nat} {criteria : Q → List (String × String)}
  {Asks : Q → String → String → Prop}

/-- Two normal queries are equal just if they have the same ids or, without ids, are tidied to the
same. -/
theorem normal_eq_iff (htidy : ∀ q, ids (tidy q) = ids q) (hnamed : ∀ names, ids (named names) = names)
    (q q' : Q) :
    ((if (ids q).isEmpty then tidy q else named (ids q)) =
        if (ids q').isEmpty then tidy q' else named (ids q')) ↔
      ids q = ids q' ∧ (ids q = [] → tidy q = tidy q') := by
  have hids (q : Q) : ids (if (ids q).isEmpty then tidy q else named (ids q)) = ids q := by
    split
    · exact htidy q
    · exact hnamed (ids q)
  constructor
  · intro h
    have heq : ids q = ids q' := (hids q).symm.trans ((congrArg ids h).trans (hids q'))
    refine ⟨heq, fun hnil => ?_⟩
    rwa [← heq, hnil, List.isEmpty_nil, if_pos rfl, if_pos rfl] at h
  · rintro ⟨heq, hnone⟩
    rw [← heq]
    split
    · next hempty => exact hnone (List.isEmpty_iff.1 hempty)
    · rfl

/-- Bodies that are put together from ids, a page and criteria say what the queries ask, if the tidy
query is told by its page and its criteria. -/
theorem faithful_of_queryBody (hname : idsName ∉ ["Offset", "Limit", "Filters"])
    (hbody : ∀ q, body q =
      queryBody idsName (ids q) (offset q) (limit q) ((criteria q).map filterForm))
    (hids : ∀ q, ids (tidy q) = ids q) (hnamed : ∀ names, ids (named names) = names)
    (htidy : ∀ q q', ids q = ids q' → (tidy q = tidy q' ↔
      nonZero (offset q) = nonZero (offset q') ∧ nonZero (limit q) = nonZero (limit q') ∧
        criteria q = criteria q'))
    (hdistinct : ∀ q, ((criteria q).map (·.1)).Nodup)
    (hcomplete : ∀ q name value, (name, value) ∈ criteria q ↔ Asks q name value) :
    Faithful body (fun q => if (ids q).isEmpty then tidy q else named (ids q)) idsName ids criteria
      Asks where
  same q q' := by
    rw [hbody, hbody, toText_queryBody_eq_iff hname, normal_eq_iff hids hnamed]
    exact and_congr_right fun heq => imp_congr_right fun _ => (htidy q q' heq).symm
  byIds q h := (hbody q).trans (queryBody_of_ids h)
  byCriteria q h := by
    have hfilters : listGiven id ((criteria q).map filterForm) = listGiven filterForm (criteria q) := by
      rw [listGiven, listGiven, List.map_id, List.isEmpty_map]
    rw [hbody, member?_queryBody_ids hname, if_pos h, h, member?_queryBody, ← hfilters]
    exact ⟨rfl, rfl⟩
  distinct := hdistinct
  complete := hcomplete

end

theorem faithful_tools : Faithful toolQueryBody ToolQuery.normal "ToolIds" ToolQuery.toolIds
    ToolQuery.criteria ToolQuery.Asks := by
  let named (ids : List String) : ToolQuery := ⟨ids, none, none, none, none, none, none, .empty⟩
  have hids (q : ToolQuery) : (ToolQuery.tidy q).toolIds = q.toolIds := rfl
  have hnamed (ids : List String) : (named ids).toolIds = ids := rfl
  exact faithful_of_queryBody (by decide) toolQueryBody_eq hids hnamed
    (fun _ _ h => toolTidy_eq_iff h) nodup_toolCriteria fun _ _ _ => mem_toolCriteria_iff

theorem faithful_instances : Faithful instanceQueryBody InstanceQuery.normal "InstanceIds"
    InstanceQuery.instanceIds InstanceQuery.criteria InstanceQuery.Asks := by
  let named (ids : List String) : InstanceQuery := ⟨ids, none, none, none, none⟩
  have hids (q : InstanceQuery) : (InstanceQuery.tidy q).instanceIds = q.instanceIds := rfl
  have hnamed (ids : List String) : (named ids).instanceIds = ids := rfl
  exact faithful_of_queryBody (by decide) instanceQueryBody_eq hids hnamed
    (fun _ _ h => instanceTidy_eq_iff h) nodup_instanceCriteria fun _ _ _ => mem_instanceCriteria_iff

theorem sendsOnce_call {α : Type} (b : CloudBackend) (context action : String) (body : Value)
    (decode : Document → Option α) :
    (b.call context action body decode).SendsOnce (b.request action body.toText) :=
  .send rfl fun _ => ⟨_, rfl⟩

/-- A listing sends one request, and its body says what the query asks: nothing else makes a
difference, and nothing that is asked is lost. -/
theorem faithful_queries :
    Faithful toolQueryBody ToolQuery.normal "ToolIds" ToolQuery.toolIds ToolQuery.criteria
        ToolQuery.Asks ∧
      Faithful instanceQueryBody InstanceQuery.normal "InstanceIds" InstanceQuery.instanceIds
        InstanceQuery.criteria InstanceQuery.Asks ∧
      ∀ b : CloudBackend,
        (∀ q, (Backend.cloudAction b (.listTools q)).SendsOnce
          (b.request "DescribeSandboxToolList" (toolQueryBody q).toText)) ∧
        ∀ q, (Backend.cloudAction b (.listInstances q)).SendsOnce
          (b.request "DescribeSandboxInstanceList" (instanceQueryBody q).toText) := by
  refine ⟨faithful_tools, faithful_instances, fun b => ⟨fun q => ?_, fun q => ?_⟩⟩
  · exact (sendsOnce_call b _ _ _ _).map Answer.tools
  · exact (sendsOnce_call b _ _ _ _).map Answer.instances

end AgentSandbox.Cloud

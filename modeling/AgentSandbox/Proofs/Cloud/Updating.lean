import AgentSandbox.Proofs.Cloud.Carrying
import AgentSandbox.Proofs.Cloud.Criteria
import AgentSandbox.Proofs.Cloud.Expecting
import AgentSandbox.Proofs.Cloud.Listing

/-!
# What updates of tools say

The body of an update has the id and the members of the options that are present, and nothing else
(`toolUpdateBody_eq`), so the update is read back from it (`updateOf_sorted`).  A record of a tool that
reports a mode and tags is decoded as a tool with this mode and these tags, the last tag of each key
(`toolOfDocument?_reported`), and an update with both says them again (`sentTags`).
-/

namespace AgentSandbox.Cloud

open Json

/-! ## Bodies of updates -/

/-- A network mode as it is sent. -/
def sentMode (mode : String) : Value := .object [("NetworkMode", .text mode)]

/-- Tags as they are sent. -/
def sentTags (tags : List (String × String)) : Value :=
  .list (tags.map fun tag => .object [("Key", .text tag.1), ("Value", .text tag.2)])

/-- The members of an update are its id and what it has. -/
theorem toolUpdateBody_eq (u : ToolUpdate) :
    toolUpdateBody u = .object ([("ToolId", .text u.toolId)] ++
      (u.description.map fun s => ("Description", Value.text s)).toList ++
      (u.networkMode.map fun mode => ("NetworkConfiguration", sentMode mode.name)).toList ++
      (u.tags.map fun tags => ("Tags", sentTags tags.entries)).toList) := by
  obtain ⟨id, description, mode, tags⟩ := u
  cases description <;> cases mode <;> cases tags <;> rfl

/-! ### Reading them back -/

/-- The text of a member. -/
def textMember? (name : String) (v : Value) : Option String := (v.member? name).bind Value.text?

/-- The items of a list, none if it is no list. -/
def itemsOf : Option Value → List Value
  | some (.list vs) => vs
  | _ => []

/-- The tag that a record of a key and a value is for. -/
def tagOf (v : Value) : String × String :=
  ((textMember? "Key" v).getD "", (textMember? "Value" v).getD "")

/-- The update that a body asks for. -/
def updateOf (body : Value) : ToolUpdate where
  toolId := (textMember? "ToolId" body).getD ""
  description := textMember? "Description" body
  networkMode := (body.member? "NetworkConfiguration").bind fun network =>
    (textMember? "NetworkMode" network).map NetworkMode.ofName
  tags := (body.member? "Tags").map fun tags => .ofList ((itemsOf (some tags)).map tagOf)

/-- What was written for a member is found in the meaning of the text. -/
theorem member?_sorted_record (ms : List (String × Option Value))
    (h : (ms.map (·.1)).Pairwise (· ≠ ·)) (name : String) :
    (record ms).sorted.member? name = (lookup? name ms).join.map Value.sorted := by
  have hdistinct : ((sortedMembers (givenMembers ms)).map (·.1)).Pairwise (· ≠ ·) := by
    rw [map_fst_sortedMembers]
    exact h.sublist (map_fst_givenMembers_sublist ms)
  rw [record, Value.sorted, Value.member?, Dictionary.lookup?_ofList hdistinct,
    lookup?_sortedMembers, lookup?_givenMembers h]

theorem tagOf_sorted (tag : String × String) : tagOf (tagForm tag).sorted = tag := by
  have hmember := member?_sorted_record
    [("Key", some (.text tag.1)), ("Value", some (.text tag.2))]
    (show ["Key", "Value"].Pairwise (· ≠ ·) by decide)
  simp only [tagOf, textMember?, tagForm, hmember]
  rfl

theorem ofList_tagOf_sorted (tags : Dictionary String) :
    Dictionary.ofList ((itemsOf (some (tagsForm tags).sorted)).map tagOf) = tags := by
  have hitems : itemsOf (some (tagsForm tags).sorted) =
      tags.entries.map fun tag => (tagForm tag).sorted := by
    rw [tagsForm, Value.sorted, sortedItems_eq_map, itemsOf, List.map_map]
    rfl
  have htags : (tags.entries.map fun tag => (tagForm tag).sorted).map tagOf = tags.entries := by
    rw [List.map_map]
    exact (List.map_congr_left fun tag _ => tagOf_sorted tag).trans (List.map_id' _)
  rw [hitems, htags, tags.ofList_entries]

theorem networkMode_sorted (mode : NetworkMode) :
    textMember? "NetworkMode" (networkForm mode none).sorted = some mode.name := by
  have hmember := member?_sorted_record
    [("NetworkMode", some (.text mode.name)), ("VpcConfig", (none : Option VpcConfig).map vpcForm)]
    (show ["NetworkMode", "VpcConfig"].Pairwise (· ≠ ·) by decide)
  rw [textMember?, networkForm, hmember]
  rfl

/-- An update with a mode from a name is read back from the meaning of its body. -/
theorem updateOf_sorted {u : ToolUpdate} (h : ∀ mode ∈ u.networkMode, ∃ s, mode = .ofName s) :
    updateOf (toolUpdateBody u).sorted = u := by
  obtain ⟨id, description, mode, tags⟩ := u
  have hmember := member?_sorted_record
    [("ToolId", some (.text id)), ("Description", description.map .text),
      ("NetworkConfiguration", mode.map fun mode => networkForm mode none),
      ("Tags", tags.map tagsForm)]
    (show ["ToolId", "Description", "NetworkConfiguration", "Tags"].Pairwise (· ≠ ·) by decide)
  have hid : textMember? "ToolId" (toolUpdateBody ⟨id, description, mode, tags⟩).sorted = some id := by
    rw [textMember?, toolUpdateBody, hmember]
    rfl
  have hdescription : textMember? "Description" (toolUpdateBody ⟨id, description, mode, tags⟩).sorted =
      description := by
    rw [textMember?, toolUpdateBody, hmember]
    cases description <;> rfl
  have hmode : ((toolUpdateBody ⟨id, description, mode, tags⟩).sorted.member?
      "NetworkConfiguration").bind (fun network =>
        (textMember? "NetworkMode" network).map NetworkMode.ofName) = mode := by
    rw [toolUpdateBody, hmember]
    cases mode with
    | none => rfl
    | some mode =>
      obtain ⟨s, rfl⟩ := h mode rfl
      have hname := networkMode_sorted (.ofName s)
      rw [NetworkMode.name_ofName] at hname
      exact congrArg (Option.map NetworkMode.ofName) hname
  have htags : ((toolUpdateBody ⟨id, description, mode, tags⟩).sorted.member? "Tags").map
      (fun tags => Dictionary.ofList ((itemsOf (some tags)).map tagOf)) = tags := by
    rw [toolUpdateBody, hmember]
    cases tags with
    | none => rfl
    | some tags => exact congrArg some (ofList_tagOf_sorted tags)
  rw [updateOf, hid, hdescription, hmode, htags]
  rfl

/-! ## What records report -/

/-- The names of the fields of a record, in their order. -/
def names : Shape → List String
  | .record slots => fieldNames slots
  | _ => []

/-- What a record of a shape gives for a field: the member of this name or, if it is the list of its
fields, the item at the place of the field. -/
def field? (shape : Shape) (name : String) : Value → Option Value
  | .object ms => lookup? name ms
  | .list vs => lookup? name ((names shape).zip vs)
  | _ => none

/-- The record of a tool reports the mode, and these tags, each of them with a key and a value. -/
structure Reports (record : Value) (mode : String) (tags : List (String × String)) : Prop where
  mode : ∃ network, field? toolShape "NetworkConfiguration" record = some network ∧
    field? networkShape "NetworkMode" network = some (.text mode)
  tags : (itemsOf (field? toolShape "Tags" record)).map
      (fun item => (field? tagShape "Key" item, field? tagShape "Value" item)) =
    tags.map fun tag => (some (.text tag.1), some (.text tag.2))

theorem lookup?_zip_map {α β : Type} (f : α → β) (name : String) (ns : List String) (xs : List α) :
    lookup? name (ns.zip (xs.map f)) = (lookup? name (ns.zip xs)).map f := by
  induction ns generalizing xs with
  | nil => rfl
  | cons n ns ih =>
    cases xs with
    | nil => rfl
    | cons x xs =>
      rw [List.map_cons, List.zip_cons_cons, List.zip_cons_cons, lookup?, lookup?, ih]
      split <;> rfl

/-- What a record gives for a field is what a decoder finds. -/
theorem lookup?_given {shape : Shape} {name : String} {v : Value} {fs : Fields}
    (hv : v.IsOrdered) (hname : name ∈ names shape)
    (h : (Document.ofValue v).fields? (names shape) = some fs) :
    lookup? name fs.given = (field? shape name v).map Document.ofValue := by
  cases hv with
  | @object ms increasing _ =>
    cases (fields?_ofValue (names shape) ⟨ms, increasing⟩).symm.trans h
    rw [lookup?_knownMembers, if_pos (List.contains_iff_mem.2 hname)]
    rfl
  | @list vs _ =>
    rw [Document.ofValue_list, Document.itemDocuments_eq_map, Document.fields?] at h
    split at h
    · cases h
      exact lookup?_zip_map _ _ _ _
    · cases h
  | _ => cases h

theorem isOrdered_field? {shape : Shape} {name : String} {v w : Value} (hv : v.IsOrdered)
    (hw : field? shape name v = some w) : w.IsOrdered := by
  cases hv with
  | object _ h => exact h _ (mem_of_lookup? hw)
  | list h => exact h _ (List.of_mem_zip (mem_of_lookup? hw)).2
  | _ => cases hw

theorem isOrdered_of_mem_itemsOf {o : Option Value} (h : ∀ w, o = some w → w.IsOrdered) :
    ∀ v ∈ itemsOf o, v.IsOrdered := by
  intro v hv
  unfold itemsOf at hv
  split at hv
  · cases h _ rfl with
    | list h => exact h v hv
  · cases hv

section

variable {α : Type} {shape : Shape} {name : String} {v w : Value} {fs : Fields}

/-- A text that a record gives is decoded as it is. -/
theorem optional_text? (hv : v.IsOrdered) (hname : name ∈ names shape)
    (h : (Document.ofValue v).fields? (names shape) = some fs) {s : String}
    (hs : field? shape name v = some (.text s)) :
    fs.optional name Document.text? = some (some s) := by
  rw [Fields.optional, Fields.orDefault, lookup?_given hv hname h, hs]
  rfl

/-- A field that a record gives is decoded if it is not `null`. -/
theorem optional_eq (hv : v.IsOrdered) (hname : name ∈ names shape)
    (h : (Document.ofValue v).fields? (names shape) = some fs) (hw : field? shape name v = some w)
    (hnull : w ≠ .null) (decode : Document → Option α) :
    fs.optional name decode = (decode (.ofValue w)).map some := by
  have hne : Document.ofValue w ≠ .null := mt ofValue_eq_null_iff.1 hnull
  rw [Fields.optional, Fields.orDefault, lookup?_given hv hname h, hw]
  exact nullable?_of_ne hne decode

/-- A list that a record may give is decoded item by item. -/
theorem listOf_eq (hv : v.IsOrdered) (hname : name ∈ names shape)
    (h : (Document.ofValue v).fields? (names shape) = some fs) {decode : Document → Option α}
    {xs : List α} (hxs : listOf fs name decode = some xs) :
    ((itemsOf (field? shape name v)).map Document.ofValue).mapM decode = some xs := by
  rw [listOf, Fields.optional, Fields.orDefault, lookup?_given hv hname h] at hxs
  cases hfield : field? shape name v with
  | none =>
    rw [hfield] at hxs
    exact hxs
  | some w =>
    rw [hfield, Option.map_some] at hxs
    cases w with
    | null => exact hxs
    | list vs =>
      rw [Document.ofValue_list, Document.itemDocuments_eq_map] at hxs
      show (vs.map Document.ofValue).mapM decode = some xs
      simpa [Document.nullable?, Document.listOf?] using hxs
    | _ => cases hxs

end

theorem tagOfDocument?_reported {item : Value} (hitem : item.IsOrdered) {tag : String × String}
    (hkey : field? tagShape "Key" item = some (.text tag.1))
    (hvalue : field? tagShape "Value" item = some (.text tag.2))
    {r : Option (String × String)} (hr : tagOfDocument? (.ofValue item) = some r) : r = some tag := by
  obtain ⟨fs, hfs, hr⟩ := Option.bind_eq_some_iff.1 hr
  have hfs : (Document.ofValue item).fields? (names tagShape) = some fs := hfs
  have hkey' := optional_text? hitem (by decide) hfs hkey
  have hvalue' := optional_text? hitem (by decide) hfs hvalue
  simpa [hkey', hvalue'] using hr.symm

theorem tags_reported {items : List Value} (hitems : ∀ v ∈ items, v.IsOrdered)
    {tags : List (String × String)}
    (htags : items.map (fun item => (field? tagShape "Key" item, field? tagShape "Value" item)) =
      tags.map fun tag => (some (.text tag.1), some (.text tag.2)))
    {rs : List (Option (String × String))}
    (hrs : (items.map Document.ofValue).mapM tagOfDocument? = some rs) : rs = tags.map some := by
  induction items generalizing tags rs with
  | nil =>
    obtain rfl := List.map_eq_nil_iff.1 htags.symm
    cases hrs
    rfl
  | cons item items ih =>
    obtain ⟨hitem, hitems⟩ := List.forall_mem_cons.1 hitems
    obtain ⟨tag, tags, rfl, htag, htags⟩ := List.map_eq_cons_iff.1 htags.symm
    obtain ⟨hkey, hvalue⟩ := Prod.mk.inj htag
    rw [List.map_cons, List.mapM_cons] at hrs
    obtain ⟨r, hr, hrs⟩ := Option.bind_eq_some_iff.1 hrs
    obtain ⟨rest, hrest, hrs⟩ := Option.bind_eq_some_iff.1 hrs
    cases hrs
    rw [tagOfDocument?_reported hitem hkey.symm hvalue.symm hr, ih hitems htags.symm hrest]
    rfl

/-- The mode of a reported name, if it is not empty. -/
theorem networkOfDocument?_reported {network : Value} (hnetwork : network.IsOrdered) {mode : String}
    (hne : mode ≠ "") (hmode : field? networkShape "NetworkMode" network = some (.text mode))
    {r : NetworkMode × Option VpcConfig} (hr : networkOfDocument? (.ofValue network) = some r) :
    r.1 = .ofName mode := by
  obtain ⟨fs, hfs, hr⟩ := Option.bind_eq_some_iff.1 hr
  have hfs : (Document.ofValue network).fields? (names networkShape) = some fs := hfs
  obtain ⟨name, hname, hr⟩ := Option.bind_eq_some_iff.1 hr
  obtain ⟨vpc, -, hr⟩ := Option.bind_eq_some_iff.1 hr
  cases hr
  cases (optional_text? hnetwork (by decide) hfs hmode).symm.trans hname
  rw [modeOf, Text.nonEmpty, Option.filter_some_pos (by simpa using hne)]
  rfl

/-- A record that reports a mode and tags is decoded as a tool with this mode and these tags. -/
theorem toolOfDocument?_reported {record : Value} (hrecord : record.IsOrdered) {mode : String}
    {tags : List (String × String)} (hreports : Reports record mode tags) (hne : mode ≠ "") {t : Tool}
    (ht : toolOfDocument? (.ofValue record) = some t) :
    t.networkMode = .ofName mode ∧ t.tags = .ofList tags := by
  obtain ⟨⟨network, hnetwork, hmode⟩, htags⟩ := hreports
  unfold toolOfDocument? at ht
  simp only [Option.bind_eq_bind, Option.bind_eq_some_iff] at ht
  obtain ⟨fs, hfs, id, -, name, -, toolType, -, description, -, r, hr, tags', htags', roleArn, -,
    mounts, -, createdAt, -, ⟨⟩⟩ := ht
  have hfs : (Document.ofValue record).fields? (names toolShape) = some fs := hfs
  have hlist := listOf_eq hrecord (by decide) hfs htags'
  have hitems : ∀ v ∈ itemsOf (field? toolShape "Tags" record), v.IsOrdered :=
    isOrdered_of_mem_itemsOf fun _ => isOrdered_field? hrecord
  have hnull : network ≠ .null := by
    rintro rfl
    cases hmode
  rw [optional_eq hrecord (by decide) hfs hnetwork hnull] at hr
  obtain ⟨network', hnetwork', rfl⟩ := Option.map_eq_some_iff.1 hr
  have hmode' := networkOfDocument?_reported (isOrdered_field? hrecord hnetwork) hne hmode hnetwork'
  rw [tags_reported hitems htags hlist, List.filterMap_map]
  exact ⟨hmode', congrArg Dictionary.ofList (List.filterMap_some)⟩

/-- The first tool on a page is decoded of the first record. -/
theorem toolPageOfDocument?_listed {v record : Value} {rest : List Value} (hv : v.IsOrdered)
    (hset : field? toolPageShape "SandboxToolSet" v = some (.list (record :: rest)))
    {page : ToolPage} (hpage : toolPageOfDocument? (.ofValue v) = some page) :
    ∃ t ts, page.tools = t :: ts ∧ toolOfDocument? (.ofValue record) = some t := by
  obtain ⟨fs, hfs, hpage⟩ := Option.bind_eq_some_iff.1 hpage
  have hfs : (Document.ofValue v).fields? (names toolPageShape) = some fs := hfs
  obtain ⟨tools, htools, hpage⟩ := Option.bind_eq_some_iff.1 hpage
  obtain ⟨totalCount, -, hpage⟩ := Option.bind_eq_some_iff.1 hpage
  cases hpage
  have hlist := listOf_eq hv (by decide) hfs htools
  rw [hset, itemsOf, List.map_cons, List.mapM_cons] at hlist
  obtain ⟨t, ht, hlist⟩ := Option.bind_eq_some_iff.1 hlist
  obtain ⟨ts, -, hlist⟩ := Option.bind_eq_some_iff.1 hlist
  cases hlist
  exact ⟨t, ts, rfl, ht⟩

end AgentSandbox.Cloud

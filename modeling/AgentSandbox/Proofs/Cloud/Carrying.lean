import AgentSandbox.Cloud.Operations
import AgentSandbox.Proofs.Cloud.Envelope
import AgentSandbox.Proofs.Exchange.Bodies
import AgentSandbox.Proofs.Json.Sorting
import AgentSandbox.Proofs.Text.Blank

/-!
# What requests carry

The body of a request that makes or changes a tool is a record of the tool, too: members that have
nothing to say are left out of it, and a decoder takes a missing member for the empty value.  If such
a body stands in a response, the tool that is decoded has the tags, the mounts, the mode and the
private network that the request was made of (`carried_parts`); only an endpoint that is empty becomes
absent.
-/

namespace AgentSandbox

open Json

/-- The source, its endpoint absent if it is empty. -/
def StorageSource.settled : StorageSource → StorageSource
  | .cos bucketName bucketPath endpoint => .cos bucketName bucketPath (Text.nonEmpty endpoint)

/-- The mount, the endpoint of its source absent if it is empty. -/
def StorageMount.settled (m : StorageMount) : StorageMount :=
  { m with source := m.source.map StorageSource.settled }

/-- The tool as a request can say it: its private network only in the mode that uses one, no empty
role or endpoint, and the mode that its name means. -/
def Tool.settled (t : Tool) : Tool :=
  { t with
    networkMode := Cloud.modeOf (some t.networkMode.name)
    vpcConfig := if t.networkMode = .vpc then t.vpcConfig else none
    roleArn := Text.nonEmpty t.roleArn
    storageMounts := t.storageMounts.map StorageMount.settled }

namespace Cloud

open Document

/-! ## Members that are left out -/

theorem part?_textGiven (s : Option String) :
    part? text? (textGiven s) = some (Text.nonEmpty s) := by
  unfold textGiven
  cases Text.nonEmpty s <;> rfl

theorem part?_list {α β : Type} {decode : Document → Option β} {form : α → Value} {g : α → β}
    (h : ∀ x, decode (respelled (form x)) = some (g x)) (xs : List α) :
    part? (listOf? decode) (some (.list (xs.map form))) = some (some (xs.map g)) := by
  rw [part?_some (by nofun), listOf?_respelled fun x _ => h x]
  rfl

/-- A list that was left out because it is empty is decoded as the empty one. -/
theorem part?_listGiven {α β : Type} {decode : Document → Option β} {form : α → Value} {g : α → β}
    (h : ∀ x, decode (respelled (form x)) = some (g x)) (xs : List α) :
    (part? (listOf? decode) (listGiven form xs)).map (fun l => l.getD []) = some (xs.map g) := by
  unfold listGiven
  cases xs with
  | nil => rfl
  | cons x xs =>
    rw [if_neg (by nofun), part?_list h]
    rfl

theorem part?_textsGiven (ss : List String) :
    (part? (listOf? text?) (textsGiven ss)).map (fun l => l.getD []) = some ss := by
  have htext (s : String) : text? (respelled (.text s)) = some (id s) := rfl
  have h := part?_listGiven htext ss
  rwa [List.map_id] at h

/-! ## The parts of a tool -/

theorem tagOfDocument?_respelled (tag : String × String) :
    tagOfDocument? (respelled (tagForm tag)) = some (some tag) := by
  obtain ⟨fs, hfs, hpart⟩ := exists_fields?_optional
    [("Key", some (.text tag.1)), ("Value", some (.text tag.2))]
    (show ["Key", "Value"].Pairwise (· ≠ ·) by decide) ["Key", "Value"]
  have hkey : fs.optional "Key" text? = some (some tag.1) := hpart _ (by decide) _
  have hvalue : fs.optional "Value" text? = some (some tag.2) := hpart _ (by decide) _
  simp only [tagOfDocument?, tagForm, record, hfs, hkey, hvalue, Option.bind_eq_bind,
    Option.bind_some, Option.map_some]

theorem vpcOfDocument?_respelled (v : VpcConfig) :
    vpcOfDocument? (respelled (vpcForm v)) = some v := by
  obtain ⟨fs, hfs, hpart⟩ := exists_fields?_optional
    [("SubnetIds", textsGiven v.subnetIds), ("SecurityGroupIds", textsGiven v.securityGroupIds)]
    (show ["SubnetIds", "SecurityGroupIds"].Pairwise (· ≠ ·) by decide)
    ["SubnetIds", "SecurityGroupIds"]
  have hsubnets : listOf fs "SubnetIds" text? = some v.subnetIds := by
    rw [listOf, hpart _ (by decide)]
    exact part?_textsGiven v.subnetIds
  have hgroups : listOf fs "SecurityGroupIds" text? = some v.securityGroupIds := by
    rw [listOf, hpart _ (by decide)]
    exact part?_textsGiven v.securityGroupIds
  simp only [vpcOfDocument?, vpcForm, record, hfs, hsubnets, hgroups, Option.bind_eq_bind,
    Option.bind_some]

theorem networkOfDocument?_respelled (mode : NetworkMode) (vpc : Option VpcConfig) :
    networkOfDocument? (respelled (networkForm mode vpc)) = some (modeOf (some mode.name), vpc) := by
  obtain ⟨fs, hfs, hpart⟩ := exists_fields?_optional
    [("NetworkMode", some (.text mode.name)), ("VpcConfig", vpc.map vpcForm)]
    (show ["NetworkMode", "VpcConfig"].Pairwise (· ≠ ·) by decide) ["NetworkMode", "VpcConfig"]
  have hmode : fs.optional "NetworkMode" text? = some (some mode.name) := hpart _ (by decide) _
  have hvpc : fs.optional "VpcConfig" vpcOfDocument? = some vpc := by
    rw [hpart _ (by decide)]
    have h : part? vpcOfDocument? (vpc.map vpcForm) = some (vpc.map id) :=
      part?_map (fun _ => nofun) vpcOfDocument?_respelled
    rwa [Option.map_id] at h
  simp only [networkOfDocument?, networkForm, record, hfs, hmode, hvpc, Option.bind_eq_bind,
    Option.bind_some]

theorem cosOfDocument?_respelled (bucketName bucketPath : String) (endpoint : Option String) :
    cosOfDocument? (respelled (record
      [("BucketName", some (.text bucketName)), ("BucketPath", some (.text bucketPath)),
        ("Endpoint", textGiven endpoint)])) =
      some (.cos bucketName bucketPath (Text.nonEmpty endpoint)) := by
  obtain ⟨fs, hfs, hpart⟩ := exists_fields?_optional
    [("BucketName", some (.text bucketName)), ("BucketPath", some (.text bucketPath)),
      ("Endpoint", textGiven endpoint)]
    (show ["BucketName", "BucketPath", "Endpoint"].Pairwise (· ≠ ·) by decide)
    ["BucketName", "BucketPath", "Endpoint"]
  have hname : textOf fs "BucketName" = some bucketName := by
    rw [textOf, hpart _ (by decide)]
    rfl
  have hpath : textOf fs "BucketPath" = some bucketPath := by
    rw [textOf, hpart _ (by decide)]
    rfl
  have hendpoint : fs.optional "Endpoint" text? = some (Text.nonEmpty endpoint) := by
    rw [hpart _ (by decide)]
    exact part?_textGiven endpoint
  simp only [cosOfDocument?, record, hfs, hname, hpath, hendpoint, Option.bind_eq_bind,
    Option.bind_some, Text.nonEmpty_nonEmpty]

theorem sourceOfDocument?_respelled (s : StorageSource) :
    sourceOfDocument? (respelled (sourceForm s)) = some (some s.settled) := by
  obtain ⟨bucketName, bucketPath, endpoint⟩ := s
  obtain ⟨fs, hfs, hpart⟩ := exists_fields?_optional
    [("Cos", some (record
      [("BucketName", some (.text bucketName)), ("BucketPath", some (.text bucketPath)),
        ("Endpoint", textGiven endpoint)]))]
    (show ["Cos"].Pairwise (· ≠ ·) by decide) ["Cos"]
  have hcos : fs.optional "Cos" cosOfDocument? =
      some (some (.cos bucketName bucketPath (Text.nonEmpty endpoint))) := by
    rw [hpart _ (by decide)]
    refine (part?_some (by nofun) _).trans ?_
    rw [cosOfDocument?_respelled]
    rfl
  rw [sourceForm, record, sourceOfDocument?, hfs]
  exact hcos

theorem mountOfDocument?_respelled (m : StorageMount) :
    mountOfDocument? (respelled (mountForm m)) = some m.settled := by
  obtain ⟨fs, hfs, hpart⟩ := exists_fields?_optional
    [("Name", some (.text m.name)), ("MountPath", some (.text m.mountPath)),
      ("ReadOnly", some (.bool m.readOnly)), ("StorageSource", m.source.map sourceForm)]
    (show ["Name", "MountPath", "ReadOnly", "StorageSource"].Pairwise (· ≠ ·) by decide)
    ["Name", "MountPath", "ReadOnly", "StorageSource"]
  have hname : textOf fs "Name" = some m.name := by
    rw [textOf, hpart _ (by decide)]
    rfl
  have hpath : textOf fs "MountPath" = some m.mountPath := by
    rw [textOf, hpart _ (by decide)]
    rfl
  have hreadOnly : fs.optional "ReadOnly" bool? = some (some m.readOnly) := hpart _ (by decide) _
  have hsource : fs.optional "StorageSource" sourceOfDocument? =
      some (m.source.map fun s => some s.settled) := by
    rw [hpart _ (by decide)]
    exact part?_map (fun s => by cases s; nofun) sourceOfDocument?_respelled
  have hjoin : (m.source.map fun s => some s.settled).join = m.source.map StorageSource.settled := by
    cases m.source <;> rfl
  simp only [mountOfDocument?, mountForm, record, hfs, hname, hpath, hreadOnly, hsource, hjoin,
    Option.bind_eq_bind, Option.bind_some, Option.getD_some, StorageMount.settled]

/-! ## Records of tools -/

/-- The tool that is decoded of the respelled record with some members. -/
theorem toolOfDocument?_respelled (ms : List (String × Option Value))
    (hms : (ms.map (·.1)).Pairwise (· ≠ ·))
    {id name toolType description roleArn createdAt : Option String}
    {network : Option (NetworkMode × Option VpcConfig)} {tags : List (String × String)}
    {mounts : List StorageMount}
    (hid : part? text? (lookup? "ToolId" ms).join = some id)
    (hname : part? text? (lookup? "ToolName" ms).join = some name)
    (htoolType : part? text? (lookup? "ToolType" ms).join = some toolType)
    (hdescription : part? text? (lookup? "Description" ms).join = some description)
    (hnetwork : part? networkOfDocument? (lookup? "NetworkConfiguration" ms).join = some network)
    (htags : (part? (listOf? tagOfDocument?) (lookup? "Tags" ms).join).map (fun l => l.getD []) =
      some (tags.map some))
    (hroleArn : part? text? (lookup? "RoleArn" ms).join = some roleArn)
    (hmounts : (part? (listOf? mountOfDocument?) (lookup? "StorageMounts" ms).join).map
      (fun l => l.getD []) = some mounts)
    (hcreatedAt : part? text? (lookup? "CreateTime" ms).join = some createdAt) :
    toolOfDocument? (respelled (record ms)) = some
      ⟨id.getD "", name.getD "", toolType.getD "", description.getD "",
        (network.getD (modeOf none, none)).1, (network.getD (modeOf none, none)).2,
        Dictionary.ofList tags, Text.nonEmpty roleArn, mounts, createdAt.getD ""⟩ := by
  obtain ⟨fs, hfs, hpart⟩ := exists_fields?_optional ms hms
    ["ToolId", "ToolName", "ToolType", "Description", "NetworkConfiguration", "Tags", "RoleArn",
      "StorageMounts", "CreateTime"]
  have htagsOf : listOf fs "Tags" tagOfDocument? = some (tags.map some) := by
    rw [listOf, hpart _ (by decide), htags]
  have hmountsOf : listOf fs "StorageMounts" mountOfDocument? = some mounts := by
    rw [listOf, hpart _ (by decide), hmounts]
  have hgiven : (tags.map some).filterMap (fun tag => tag) = tags := by
    rw [List.filterMap_map]
    exact List.filterMap_some
  simp only [toolOfDocument?, record, hfs, textOf, htagsOf, hmountsOf, hgiven, Option.bind_eq_bind,
    Option.bind_some]
  rw [hpart "ToolId" (by decide), hpart "ToolName" (by decide), hpart "ToolType" (by decide),
    hpart "Description" (by decide), hpart "NetworkConfiguration" (by decide),
    hpart "RoleArn" (by decide), hpart "CreateTime" (by decide), hid, hname, htoolType,
    hdescription, hnetwork, hroleArn, hcreatedAt]
  rfl

theorem part?_tagsForm (tags : Dictionary String) :
    part? (listOf? tagOfDocument?) (some (tagsForm tags)) = some (some (tags.entries.map some)) :=
  part?_list tagOfDocument?_respelled tags.entries

theorem part?_networkForm (mode : NetworkMode) (vpc : Option VpcConfig) :
    part? networkOfDocument? (some (networkForm mode vpc)) =
      some (some (modeOf (some mode.name), vpc)) := by
  rw [part?_some (by nofun), networkOfDocument?_respelled]
  rfl

/-- The members of the request that makes a tool. -/
def creationMembers (c : ToolCreation) : List (String × Option Value) :=
  let mode := c.networkMode.getD default
  let vpc := if mode = .vpc then c.vpcConfig else none
  [("ToolName", some (.text c.name)), ("ToolType", some (.text c.toolType)),
    ("NetworkConfiguration", some (networkForm mode vpc)),
    ("Description", textGiven c.description), ("DefaultTimeout", textGiven c.defaultTimeout),
    ("Tags", if c.tags.entries.isEmpty then none else some (tagsForm c.tags)),
    ("RoleArn", textGiven c.roleArn), ("StorageMounts", listGiven mountForm c.storageMounts)]

/-- The request that makes a tool is a record of the tool as it is settled, with or without an id. -/
theorem toolOfDocument?_creation (c : ToolCreation) (id : Option String) :
    toolOfDocument? (respelled (record (creationMembers c ++ [("ToolId", id.map Value.text)]))) =
      some (CloudBackend.madeTool c (id.getD "")).settled := by
  have hid : part? text? (id.map .text) = some id := by cases id <;> rfl
  have htags : (part? (listOf? tagOfDocument?)
      (if c.tags.entries.isEmpty then none else some (tagsForm c.tags))).map (fun l => l.getD []) =
      some (c.tags.entries.map some) := by
    split
    · next hempty => rw [List.isEmpty_iff.1 hempty]; rfl
    · rw [part?_tagsForm]; rfl
  have htool := toolOfDocument?_respelled (creationMembers c ++ [("ToolId", id.map Value.text)])
    (show ["ToolName", "ToolType", "NetworkConfiguration", "Description", "DefaultTimeout", "Tags",
      "RoleArn", "StorageMounts", "ToolId"].Pairwise (· ≠ ·) by decide)
    hid rfl rfl (part?_textGiven c.description) (part?_networkForm _ _) htags
    (part?_textGiven c.roleArn) (part?_listGiven mountOfDocument?_respelled c.storageMounts) rfl
  rw [htool, Text.nonEmpty_nonEmpty, Text.getD_nonEmpty, c.tags.ofList_entries]
  rfl

/-- The request that changes a tool is a record of the tags and of the mode that it sets. -/
theorem toolOfDocument?_update (u : ToolUpdate) :
    ∃ t, toolOfDocument? (respelled (toolUpdateBody u)) = some t ∧
      t.tags = u.tags.getD .empty ∧
      t.networkMode = modeOf (u.networkMode.map NetworkMode.name) := by
  have hdescription : part? text? (u.description.map .text) = some u.description := by
    cases u.description <;> rfl
  have hnetwork : part? networkOfDocument? (u.networkMode.map fun mode => networkForm mode none) =
      some (u.networkMode.map fun mode => (modeOf (some mode.name), none)) :=
    part?_map (fun _ => nofun) fun mode => networkOfDocument?_respelled mode none
  have htags : (part? (listOf? tagOfDocument?) (u.tags.map tagsForm)).map (fun l => l.getD []) =
      some ((u.tags.getD .empty).entries.map some) := by
    cases u.tags with
    | none => rfl
    | some tags =>
      rw [Option.map_some, part?_tagsForm]
      rfl
  have hid : part? text? (some (.text u.toolId)) = some (some u.toolId) := rfl
  have htool := toolOfDocument?_respelled
    [("ToolId", some (.text u.toolId)), ("Description", u.description.map .text),
      ("NetworkConfiguration", u.networkMode.map fun mode => networkForm mode none),
      ("Tags", u.tags.map tagsForm)]
    (show ["ToolId", "Description", "NetworkConfiguration", "Tags"].Pairwise (· ≠ ·) by decide)
    hid rfl rfl hdescription hnetwork htags rfl rfl rfl
  refine ⟨_, htool, ?_, ?_⟩
  · exact (u.tags.getD .empty).ofList_entries
  · cases u.networkMode <;> rfl

/-! ## Texts of replies -/

/-- The text of a reply with a response. -/
def replyText (response : String) : String := "\x7b\"Response\":" ++ response ++ "\x7d"

/-- The text of a response that lists the record of one tool. -/
def listingText (record : String) : String := "\x7b\"SandboxToolSet\":[" ++ record ++ "]\x7d"

/-- The tools that a reply gives which lists the record of one tool. -/
def listed? (record : String) : Option (List Tool) :=
  (decodeText? (openDocument? toolPageOfDocument?) (replyText (listingText record))).map
    ToolPage.tools

theorem replyText_toText (v : Value) :
    replyText v.toText = (Value.object [("Response", v)]).toText := by
  have hfront : "\x7b\"Response\":".toList = '{' :: printText "Response" ++ [':'] := by
    decide +kernel
  have hback : "\x7d".toList = ['}'] := by decide
  show "\x7b\"Response\":" ++ v.toText ++ "\x7d" = _
  rw [← String.toList_inj]
  simp only [Value.toText, Value.print, printMembers, String.toList_append, String.toList_ofList,
    hfront, hback, List.append_assoc, List.cons_append, List.nil_append]

theorem listingText_toText (v : Value) :
    listingText v.toText = (Value.object [("SandboxToolSet", .list [v])]).toText := by
  have hfront : "\x7b\"SandboxToolSet\":[".toList =
      '{' :: printText "SandboxToolSet" ++ [':', '['] := by
    decide +kernel
  have hback : "]\x7d".toList = [']', '}'] := by decide
  show "\x7b\"SandboxToolSet\":[" ++ v.toText ++ "]\x7d" = _
  rw [← String.toList_inj]
  simp only [Value.toText, Value.print, printMembers, printItems, String.toList_append,
    String.toList_ofList, hfront, hback, List.append_assoc, List.cons_append, List.nil_append]

/-- The text of a response spells an envelope around it. -/
theorem documentOf?_replyText {v : Value} (h : v.Fits (maxNesting - 1)) :
    documentOf? (Utf8.encode (replyText v.toText)) =
      some (.ofValue (.object [("Response", v)])) := by
  have hfits : (Value.object [("Response", v)]).Fits maxNesting :=
    .object (List.forall_mem_singleton.2 h)
  rw [replyText_toText]
  exact documentOf?_toText hfits

theorem responseOfDocument?_ofValue (v : Value) :
    responseOfDocument? (.ofValue (.object [("Response", v)])) = some v.sorted :=
  value?_ofValue_sorted v

theorem isErrorFree_ofValue {v : Value} (h : v.sorted.member? "Error" = none) :
    IsErrorFree (.ofValue (.object [("Response", v)])) := by
  intro response hresponse
  rw [responseOfDocument?_ofValue] at hresponse
  cases hresponse
  exact h

/-- The response of a reply is decoded as the respelled value. -/
theorem openDocument?_ofValue {α : Type} {v : Value} (hv : v ≠ .null)
    (decode : Document → Option α) :
    openDocument? decode (.ofValue (.object [("Response", v)])) = decode (respelled v) := by
  have hsorted : v.sorted ≠ .null := by
    cases v with
    | null => exact absurd rfl hv
    | _ => nofun
  rw [openDocument?, responseOfDocument?_ofValue, Option.bind_some, recordIn_of_ne hsorted]
  rfl

theorem decodeText?_replyText {α : Type} {v : Value} (h : v.Fits (maxNesting - 1)) (hv : v ≠ .null)
    (decode : Document → Option α) :
    decodeText? (openDocument? decode) (replyText v.toText) = decode (respelled v) := by
  have hfits : (Value.object [("Response", v)]).Fits maxNesting :=
    .object (List.forall_mem_singleton.2 h)
  rw [replyText_toText, decodeText?_toText hfits, openDocument?_ofValue hv]

theorem fits_listing {v : Value} (h : v.Fits (maxNesting - 3)) :
    (Value.object [("SandboxToolSet", .list [v])]).Fits (maxNesting - 1) :=
  .object (List.forall_mem_singleton.2 (.list (List.forall_mem_singleton.2 h)))

/-- A response that lists a record is decoded as the page of the tool that is decoded of it. -/
theorem toolPageOfDocument?_listing {v : Value} {t : Tool}
    (ht : toolOfDocument? (respelled v) = some t) :
    toolPageOfDocument? (respelled (.object [("SandboxToolSet", .list [v])])) =
      some ⟨[t], 0⟩ := by
  obtain ⟨fs, hfs, hpart⟩ := exists_fields?_optional [("SandboxToolSet", some (.list [v]))]
    (List.pairwise_singleton _ _) ["SandboxToolSet", "TotalCount"]
  have hlist : part? (listOf? toolOfDocument?) (some (.list [v])) = some (some [t]) := by
    have hitem : ∀ w ∈ [v], toolOfDocument? (respelled w) = some t := List.forall_mem_singleton.2 ht
    rw [part?_some (by nofun)]
    exact congrArg _ (listOf?_respelled hitem)
  have htools : listOf fs "SandboxToolSet" toolOfDocument? = some [t] := by
    rw [listOf, hpart _ (by decide)]
    exact congrArg _ hlist
  have hcount : fs.optional "TotalCount" nat? = some none := hpart _ (by decide) _
  have hfs : (respelled (.object [("SandboxToolSet", .list [v])])).fields?
    ["SandboxToolSet", "TotalCount"] = some fs := hfs
  rw [toolPageOfDocument?, hfs]
  simp only [Option.bind_eq_bind, Option.bind_some, htools, hcount, Option.getD_none]

theorem listed?_toText {v : Value} (h : v.Fits (maxNesting - 3)) {t : Tool}
    (ht : toolOfDocument? (respelled v) = some t) : listed? v.toText = some [t] := by
  rw [listed?, listingText_toText, decodeText?_replyText (fits_listing h) (by nofun),
    toolPageOfDocument?_listing ht]
  rfl

/-! ## Texts of requests -/

theorem givenFits_textGiven (s : Option String) {room : Nat} : Value.GivenFits room (textGiven s) :=
  Value.givenFits_map fun s => Value.fits_text s

theorem givenFits_listGiven {α : Type} {form : α → Value} {room : Nat}
    (h : ∀ x, (form x).Fits room) (xs : List α) : Value.GivenFits (room + 1) (listGiven form xs) := by
  unfold listGiven
  split
  · exact Value.givenFits_none
  · rw [Value.givenFits_some_iff]
    refine .list fun v hv => ?_
    obtain ⟨x, -, rfl⟩ := List.mem_map.1 hv
    exact h x

theorem fits_tagsForm (tags : Dictionary String) {room : Nat} :
    (tagsForm tags).Fits (room + 2) := by
  refine .list fun v hv => ?_
  obtain ⟨tag, -, rfl⟩ := List.mem_map.1 hv
  exact Value.fits_givenMembers (by simp)

theorem fits_networkForm (mode : NetworkMode) (vpc : Option VpcConfig) {room : Nat} :
    (networkForm mode vpc).Fits (room + 3) := by
  have htexts (ss : List String) : Value.GivenFits (room + 1) (textsGiven ss) :=
    givenFits_listGiven Value.fits_text ss
  have hvpc : Value.GivenFits (room + 2) (vpc.map vpcForm) :=
    Value.givenFits_map fun v => Value.fits_givenMembers (by simp [htexts])
  exact Value.fits_givenMembers (by simp [hvpc])

theorem fits_mountForm (m : StorageMount) {room : Nat} : (mountForm m).Fits (room + 3) := by
  have hsource : Value.GivenFits (room + 2) (m.source.map sourceForm) := by
    refine Value.givenFits_map fun s => ?_
    cases s with
    | cos bucketName bucketPath endpoint =>
      have hcos : (record [("BucketName", some (.text bucketName)),
          ("BucketPath", some (.text bucketPath)), ("Endpoint", textGiven endpoint)]).Fits
            (room + 1) :=
        Value.fits_givenMembers (by simp [givenFits_textGiven])
      exact Value.fits_givenMembers (by simp [hcos])
  exact Value.fits_givenMembers (by simp [hsource])

theorem fits_creation (c : ToolCreation) (id : Option String) {room : Nat} :
    (record (creationMembers c ++ [("ToolId", id.map Value.text)])).Fits (room + 5) := by
  have hnetwork (vpc : Option VpcConfig) :
      (networkForm (c.networkMode.getD default) vpc).Fits (room + 4) :=
    fits_networkForm _ vpc
  have htags : (tagsForm c.tags).Fits (room + 4) := fits_tagsForm c.tags
  have hmounts : Value.GivenFits (room + 4) (listGiven mountForm c.storageMounts) :=
    givenFits_listGiven (fun m => fits_mountForm m) c.storageMounts
  have hid : Value.GivenFits (room + 4) (id.map Value.text) :=
    Value.givenFits_map Value.fits_text
  refine Value.fits_givenMembers ?_
  by_cases hempty : c.tags.entries = [] <;>
    simp [creationMembers, hnetwork, htags, hmounts, hid, hempty, givenFits_textGiven]

theorem fits_update (u : ToolUpdate) {room : Nat} : (toolUpdateBody u).Fits (room + 4) := by
  have hdescription : Value.GivenFits (room + 3) (u.description.map .text) :=
    Value.givenFits_map Value.fits_text
  have hnetwork : Value.GivenFits (room + 3) (u.networkMode.map fun mode => networkForm mode none) :=
    Value.givenFits_map fun mode => fits_networkForm mode none
  have htags : Value.GivenFits (room + 3) (u.tags.map tagsForm) :=
    Value.givenFits_map fun tags => fits_tagsForm tags
  exact Value.fits_givenMembers (by simp [hdescription, hnetwork, htags])

/-! ## What is carried -/

/-- The mode of any name but the empty one is found by its name. -/
theorem modeOf_name_ofName {s : String} (h : s ≠ "") :
    modeOf (some (NetworkMode.ofName s).name) = .ofName s := by
  rw [modeOf, NetworkMode.name_ofName, Text.nonEmpty, Option.filter_some_pos (by simpa using h)]
  rfl

theorem record_creationMembers (c : ToolCreation) :
    record (creationMembers c ++ [("ToolId", (none : Option String).map Value.text)]) =
      toolCreationBody c := by
  simp only [record, givenMembers, List.filterMap_append, Option.map_none, List.filterMap_cons,
    List.filterMap_nil, List.append_nil]
  rfl

/-- A reply that lists the request that makes a tool gives the tool as it is settled. -/
theorem listed?_creation (c : ToolCreation) :
    listed? (toolCreationBody c).toText = some [(CloudBackend.madeTool c "").settled] := by
  rw [← record_creationMembers]
  exact listed?_toText (fits_creation c none) (toolOfDocument?_creation c none)

/-- Tags, mounts, a private network and a mode with a name are decoded from a reply as they were
written in a request, but for an empty endpoint, which is decoded as none. -/
theorem carried_parts :
    (∀ c : ToolCreation, ∃ t, listed? (toolCreationBody c).toText = some [t] ∧
      t.tags = c.tags ∧ t.storageMounts = c.storageMounts.map StorageMount.settled ∧
      (∀ s, s ≠ "" → c.networkMode = some (.ofName s) → t.networkMode = .ofName s) ∧
      (c.networkMode = some .vpc → t.vpcConfig = c.vpcConfig)) ∧
    (∀ u : ToolUpdate, ∃ t, listed? (toolUpdateBody u).toText = some [t] ∧
      (∀ tags, u.tags = some tags → t.tags = tags) ∧
      ∀ s, s ≠ "" → u.networkMode = some (.ofName s) → t.networkMode = .ofName s) ∧
    ∀ (s : String) (vpc : Option VpcConfig), s ≠ "" →
      decodeText? (openDocument? networkOfDocument?)
        (replyText (networkForm (.ofName s) vpc).toText) = some (.ofName s, vpc) := by
  refine ⟨fun c => ?_, fun u => ?_, fun s vpc hs => ?_⟩
  · refine ⟨_, listed?_creation c, rfl, rfl, fun s hs hmode => ?_, fun hmode => ?_⟩
    · rw [Tool.settled, CloudBackend.madeTool, hmode]
      exact modeOf_name_ofName hs
    · rw [Tool.settled, CloudBackend.madeTool, hmode]
      rfl
  · obtain ⟨t, ht, htags, hmode⟩ := toolOfDocument?_update u
    refine ⟨t, listed?_toText (fits_update u) ht, fun tags h => ?_, fun s hs h => ?_⟩
    · rw [htags, h]
      rfl
    · rw [hmode, h]
      exact modeOf_name_ofName hs
  · rw [decodeText?_replyText (fits_networkForm _ _) (by nofun), networkOfDocument?_respelled,
      modeOf_name_ofName hs]

/-- A tool in its private network, two of its mounts without endpoints of their own, is carried. -/
theorem carried_parts_private_network :
    let mount : StorageMount := ⟨"data", "/data", true, some (.cos "b" "/" (some ""))⟩
    let c : ToolCreation :=
      ⟨"t", "x", none, some .vpc, some ⟨["s"], []⟩, none, .ofList [("b", "2"), ("a", "1")], none,
        [mount, { mount with source := none }]⟩
    ∃ t, listed? (toolCreationBody c).toText = some [t] ∧ t.networkMode = .vpc ∧
      t.vpcConfig = some ⟨["s"], []⟩ ∧ t.tags = .ofList [("b", "2"), ("a", "1")] ∧
      t.storageMounts =
        [{ mount with source := some (.cos "b" "/" none) }, { mount with source := none }] := by
  intro mount c
  obtain ⟨t, hlisted, htags, hmounts, hmode, hvpc⟩ := carried_parts.1 c
  exact ⟨t, hlisted, hmode "VPC" (by decide) rfl, hvpc rfl, htags, hmounts⟩

end Cloud

end AgentSandbox

import AgentSandbox.Cloud.Answering
import AgentSandbox.Proofs.Json.Decoding

/-!
# Fields of control plane responses

The shapes of the records that the control plane answers with.  Every decoder suits the shape of its
record: it takes a field that is missing, or `null`, for the zero value of its type or for none.
-/

namespace AgentSandbox.Cloud

open Json

/-! ## Fields -/

section

variable {α : Type} {exact : Bool} {slots : List (String × Shape × Bool)} {fs fs' : Fields}
  (h : SlotsFollow exact (Follows exact) slots fs fs')

include h

theorem carries_textOf {name : String} (slot : lookup? name slots = some (.text, true)) :
    Carries exact (textOf fs name) (textOf fs' name) :=
  h.text_of slot _ rfl

theorem carries_listOf {name : String} {shape : Shape} {decode : Document → Option α}
    (slot : lookup? name slots = some (.list shape, true)) (hdecode : shape.Suits decode) :
    Carries exact (listOf fs name decode) (listOf fs' name decode) := by
  refine h.optional_of slot (suits_listOf hdecode) _ fun _ d hd => ?_
  obtain rfl := List.mem_singleton.1 hd
  exact ⟨[], rfl, rfl⟩

theorem carries_totalCount (slot : lookup? "TotalCount" slots = some (.count, true)) :
    Carries exact ((fs.optional "TotalCount" Document.nat?).map fun n => n.getD 0)
      ((fs'.optional "TotalCount" Document.nat?).map fun n => n.getD 0) := by
  refine h.optional_of slot (suits_count _) _ fun _ d hd => ?_
  obtain rfl := List.mem_singleton.1 hd
  exact ⟨0, rfl, rfl⟩

end

/-! ## Tools -/

/-- A tag: without a key or a value it stands for none. -/
def tagShape : Shape := .record [("Key", .text, false), ("Value", .text, false)]

/-- A private network. -/
def vpcShape : Shape :=
  .record [("SubnetIds", .list .text, true), ("SecurityGroupIds", .list .text, true)]

/-- A network mode with its private network. -/
def networkShape : Shape := .record [("NetworkMode", .mode, true), ("VpcConfig", vpcShape, false)]

/-- A source in the object store. -/
def cosShape : Shape :=
  .record [("BucketName", .text, true), ("BucketPath", .text, true), ("Endpoint", .text, true)]

/-- The source of a mount. -/
def sourceShape : Shape := .record [("Cos", cosShape, false)]

/-- A mount. -/
def mountShape : Shape :=
  .record
    [("Name", .text, true), ("MountPath", .text, true), ("ReadOnly", .flag, true),
      ("StorageSource", sourceShape, true)]

/-- A tool. -/
def toolShape : Shape :=
  .record
    [("ToolId", .text, true), ("ToolName", .text, true), ("ToolType", .text, true),
      ("Description", .text, true), ("NetworkConfiguration", networkShape, true),
      ("Tags", .list tagShape, true), ("RoleArn", .text, true),
      ("StorageMounts", .list mountShape, true), ("CreateTime", .text, true)]

/-- A page of tools. -/
def toolPageShape : Shape :=
  .record [("SandboxToolSet", .list toolShape, true), ("TotalCount", .count, true)]

theorem suits_tag : tagShape.Suits tagOfDocument? :=
  suits_record fun _ _ _ h =>
    .bind (h.optional rfl (suits_text _)) fun _ _ hkey =>
      .bind (h.optional rfl (suits_text _)) fun _ _ hvalue =>
        .some fun hexact => by rw [hkey hexact, hvalue hexact]

theorem suits_vpc : vpcShape.Suits vpcOfDocument? :=
  suits_record fun _ _ _ h =>
    .bind (carries_listOf h rfl (suits_text _)) fun _ _ hsubnets =>
      .bind (carries_listOf h rfl (suits_text _)) fun _ _ hgroups =>
        .some fun hexact => by rw [hsubnets hexact, hgroups hexact]

theorem modeOf_of_mem_zeros {d : Document} (h : d ∈ Shape.mode.zeros) :
    ∃ name, d.text? = some name ∧ modeOf (some name) = modeOf none := by
  simp only [Shape.zeros, List.mem_cons, List.not_mem_nil, or_false] at h
  rcases h with rfl | rfl
  · exact ⟨"", rfl, by decide⟩
  · exact ⟨"PUBLIC", rfl, by decide⟩

theorem suits_network : networkShape.Suits networkOfDocument? :=
  suits_record fun _ _ _ h =>
    .bind_of modeOf
      (h.optional_of rfl (suits_mode _) _ fun _ _ => modeOf_of_mem_zeros)
      fun _ _ hmode =>
        .bind (h.optional rfl suits_vpc) fun _ _ hvpc =>
          .some fun hexact => by rw [hmode hexact, hvpc hexact]

theorem suits_cos : cosShape.Suits cosOfDocument? :=
  suits_record fun _ _ _ h =>
    .bind (carries_textOf h rfl) fun _ _ hname =>
      .bind (carries_textOf h rfl) fun _ _ hpath =>
        .bind_of Text.nonEmpty (h.text_of rfl _ rfl) fun _ _ hendpoint =>
          .some fun hexact => by rw [hname hexact, hpath hexact, hendpoint hexact]

theorem suits_source : sourceShape.Suits sourceOfDocument? :=
  suits_record fun _ _ _ h => h.optional rfl suits_cos

theorem suits_mount : mountShape.Suits mountOfDocument? := by
  refine suits_record fun _ _ _ h => ?_
  refine .bind (carries_textOf h rfl) fun _ _ hname => ?_
  refine .bind (carries_textOf h rfl) fun _ _ hpath => ?_
  refine .bind_of (fun b : Option Bool => b.getD false) ?_ fun _ _ hreadOnly => ?_
  · refine h.optional_of rfl (suits_flag _) _ fun _ d hd => ?_
    obtain rfl := List.mem_singleton.1 hd
    exact ⟨false, rfl, rfl⟩
  refine .bind_of Option.join ?_ fun _ _ hsource => ?_
  · refine h.optional_of rfl suits_source _ fun _ d hd => ?_
    obtain rfl := List.mem_singleton.1 hd
    exact ⟨none, rfl, rfl⟩
  exact .some fun hexact => by rw [hname hexact, hpath hexact, hreadOnly hexact, hsource hexact]

theorem suits_tool : toolShape.Suits toolOfDocument? := by
  refine suits_record fun _ _ _ h => ?_
  refine .bind (carries_textOf h rfl) fun _ _ hid => ?_
  refine .bind (carries_textOf h rfl) fun _ _ hname => ?_
  refine .bind (carries_textOf h rfl) fun _ _ htype => ?_
  refine .bind (carries_textOf h rfl) fun _ _ hdescription => ?_
  refine .bind_of (fun n : Option (NetworkMode × Option VpcConfig) => n.getD (modeOf none, none)) ?_
    fun _ _ hnetwork => ?_
  · refine h.optional_of rfl suits_network _ fun _ d hd => ?_
    obtain rfl := List.mem_singleton.1 hd
    exact ⟨(modeOf none, none), rfl, rfl⟩
  refine .bind (carries_listOf h rfl suits_tag) fun _ _ htags => ?_
  refine .bind_of Text.nonEmpty (h.text_of rfl _ rfl) fun _ _ hrole => ?_
  refine .bind (carries_listOf h rfl suits_mount) fun _ _ hmounts => ?_
  refine .bind (carries_textOf h rfl) fun _ _ hcreated => ?_
  refine .some fun hexact => ?_
  have hnetwork := hnetwork hexact
  unfold Option.getD at hnetwork
  rw [hid hexact, hname hexact, htype hexact, hdescription hexact, hnetwork, htags hexact,
    hrole hexact, hmounts hexact, hcreated hexact]

theorem suits_toolPage : toolPageShape.Suits toolPageOfDocument? :=
  suits_record fun _ _ _ h =>
    .bind (carries_listOf h rfl suits_tool) fun _ _ htools =>
      .bind_of _ (carries_totalCount h rfl) fun _ _ htotal =>
        .some fun hexact => by rw [htools hexact, htotal hexact]

/-! ### Parts of tools that are not given -/

theorem vpc_of_lacks {d : Document} {network : NetworkMode × Option VpcConfig}
    (h : networkOfDocument? d = some network) (hd : d.Lacks ["VpcConfig"]) : network.2 = none := by
  obtain ⟨fs, hfs, h⟩ := Option.bind_eq_some_iff.1 h
  obtain ⟨mode, -, h⟩ := Option.bind_eq_some_iff.1 h
  simp only [hd.optional hfs, Option.bind_eq_bind, Option.bind_some] at h
  cases h
  rfl

theorem source_of_lacks {d : Document} {source : Option StorageSource}
    (h : sourceOfDocument? d = some source) (hd : d.Lacks ["Cos"]) : source = none := by
  obtain ⟨fs, hfs, h⟩ := Option.bind_eq_some_iff.1 h
  rw [hd.optional hfs] at h
  exact (Option.some.inj h).symm

theorem tag_of_lacks {d : Document} {tag : Option (String × String)}
    (h : tagOfDocument? d = some tag) (hd : d.Lacks ["Key"] ∨ d.Lacks ["Value"]) : tag = none := by
  obtain ⟨fs, hfs, h⟩ := Option.bind_eq_some_iff.1 h
  obtain ⟨key, hkey, h⟩ := Option.bind_eq_some_iff.1 h
  obtain ⟨value, hvalue, h⟩ := Option.bind_eq_some_iff.1 h
  cases h
  rcases hd with hd | hd
  · cases hkey.symm.trans (hd.optional hfs _)
    rfl
  · cases hvalue.symm.trans (hd.optional hfs _)
    cases key <;> rfl

/-- A tag that stands for none can be left out. -/
theorem toolOfDocument?_without_tag {t : Document} (ht : tagOfDocument? t = some none)
    (x y : List (Option String × Document)) (before after : List Document) :
    toolOfDocument? (.record (x ++ (some "Tags", .list (before ++ t :: after)) :: y)) =
      toolOfDocument? (.record (x ++ (some "Tags", .list (before ++ after)) :: y)) := by
  refine bind_fields?_middle (by decide) fun gx gy hgx => ?_
  have hother {α : Type} {name : String} (hname : name ≠ "Tags") (decode : Document → Option α) :
      (⟨gx ++ ("Tags", .list (before ++ t :: after)) :: gy, false⟩ : Fields).optional name decode =
        (⟨gx ++ ("Tags", .list (before ++ after)) :: gy, false⟩ : Fields).optional name decode := by
    simp only [Fields.optional, Fields.orDefault, lookup?_middle hname]
  have htags (ds : List Document) :
      listOf ⟨gx ++ ("Tags", .list ds) :: gy, false⟩ "Tags" tagOfDocument? =
        ds.mapM tagOfDocument? := by
    simp only [listOf, Fields.optional, Fields.orDefault, lookup?_middle_self hgx,
      Document.nullable?, Document.listOf?, Option.map_map]
    exact Option.map_id'
  rw [htags, htags, List.mapM_append, List.mapM_append, List.mapM_cons, ht]
  simp (disch := decide) only [textOf, listOf, hother]
  cases before.mapM tagOfDocument? <;> cases after.mapM tagOfDocument? <;> simp

/-- The id of a new tool. -/
def toolIdShape : Shape := .record [("ToolId", .text, true)]

theorem suits_toolId : toolIdShape.Suits toolIdOfDocument? :=
  suits_record fun _ _ _ h => carries_textOf h rfl

/-- The response to a request that is answered with nothing. -/
def unitShape : Shape := .record []

theorem suits_unit : unitShape.Suits unitOfDocument? := by
  have hbind : unitOfDocument? = fun d => (d.fields? (fieldNames [])).bind fun _ => some () := by
    funext d
    exact Option.map_eq_bind
  rw [hbind]
  exact suits_record fun exact _ _ _ => .refl exact _

/-! ## Instances -/

/-- An instance. -/
def instanceShape : Shape :=
  .record
    [("InstanceId", .text, true), ("ToolId", .text, true), ("ToolName", .text, true),
      ("Status", .text, true), ("CreateTime", .text, true)]

/-- A new instance. -/
def startedShape : Shape := .record [("Instance", instanceShape, true)]

/-- A page of instances. -/
def instancePageShape : Shape :=
  .record [("InstanceSet", .list instanceShape, true), ("TotalCount", .count, true)]

/-- The token of an instance. -/
def tokenShape : Shape := .record [("Token", .text, true)]

theorem suits_instance : instanceShape.Suits instanceOfDocument? := by
  refine suits_record fun _ _ _ h => ?_
  refine .bind (carries_textOf h rfl) fun _ _ hid => ?_
  refine .bind (carries_textOf h rfl) fun _ _ htool => ?_
  refine .bind (carries_textOf h rfl) fun _ _ hname => ?_
  refine .bind (carries_textOf h rfl) fun _ _ hstatus => ?_
  refine .bind (carries_textOf h rfl) fun _ _ hcreated => ?_
  exact .some fun hexact => by
    rw [hid hexact, htool hexact, hname hexact, hstatus hexact, hcreated hexact]

theorem suits_started : startedShape.Suits startedOfDocument? := by
  refine suits_record fun _ _ _ h => ?_
  refine .bind_of (fun i : Option Instance => i.getD unknownInstance) ?_ fun _ _ hinstance =>
    .some fun hexact => hinstance hexact
  refine h.optional_of rfl suits_instance _ fun _ d hd => ?_
  obtain rfl := List.mem_singleton.1 hd
  exact ⟨unknownInstance, rfl, rfl⟩

theorem suits_instancePage : instancePageShape.Suits instancePageOfDocument? :=
  suits_record fun _ _ _ h =>
    .bind (carries_listOf h rfl suits_instance) fun _ _ hinstances =>
      .bind_of _ (carries_totalCount h rfl) fun _ _ htotal =>
        .some fun hexact => by rw [hinstances hexact, htotal hexact]

theorem suits_token : tokenShape.Suits tokenOfDocument? :=
  suits_record fun _ _ _ h =>
    .bind_of Text.nonEmpty (h.text_of rfl _ rfl) fun _ _ htoken =>
      .some fun hexact => htoken hexact

/-! ## Keys -/

/-- A new key. -/
def createdKeyShape : Shape :=
  .record [("KeyId", .text, true), ("Name", .text, true), ("APIKey", .text, true)]

/-- A key. -/
def keyShape : Shape :=
  .record
    [("KeyId", .text, true), ("Name", .text, true), ("Status", .text, true),
      ("MaskedKey", .text, true), ("CreatedAt", .text, true)]

/-- All keys. -/
def keysShape : Shape := .record [("APIKeySet", .list keyShape, true)]

theorem suits_createdKey : createdKeyShape.Suits createdKeyOfDocument? := by
  refine suits_record fun _ _ _ h => ?_
  refine .bind (carries_textOf h rfl) fun _ _ hid => ?_
  refine .bind (carries_textOf h rfl) fun _ _ hname => ?_
  refine .bind (carries_textOf h rfl) fun _ _ hsecret => ?_
  exact .some fun hexact => by rw [hid hexact, hname hexact, hsecret hexact]

theorem suits_key : keyShape.Suits keyOfDocument? := by
  refine suits_record fun _ _ _ h => ?_
  refine .bind (carries_textOf h rfl) fun _ _ hid => ?_
  refine .bind (carries_textOf h rfl) fun _ _ hname => ?_
  refine .bind (carries_textOf h rfl) fun _ _ hstatus => ?_
  refine .bind (carries_textOf h rfl) fun _ _ hmasked => ?_
  refine .bind (carries_textOf h rfl) fun _ _ hcreated => ?_
  exact .some fun hexact => by
    rw [hid hexact, hname hexact, hstatus hexact, hmasked hexact, hcreated hexact]

theorem suits_keys : keysShape.Suits keysOfDocument? :=
  suits_record fun _ _ _ h => carries_listOf h rfl suits_key

end AgentSandbox.Cloud

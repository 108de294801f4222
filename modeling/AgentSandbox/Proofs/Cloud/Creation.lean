import AgentSandbox.Proofs.Cloud.Carrying
import AgentSandbox.Proofs.Cloud.Reading
import AgentSandbox.Proofs.Model.Form

/-!
# Tools that are made and looked up

A tool is made by one request and looked up by one request (`CloudBackend.cloudAction_createTool`,
`CloudBackend.cloudAction_getTool`).  A service that keeps what it was asked for has the record of
the request with the id that it gave the tool; looking this record up gives the tool that was told
when it was made, as it is settled (`CloudBackend.lookedUp_keptRecord`).  This is the tool itself if
the request could say all of it (`Tool.settled_eq_iff`).
-/

namespace AgentSandbox

open Cloud Json

/-! ## Settled tools -/

/-- A request can say all of the tool: a private network only in the mode that uses one, no empty
role, a mode that has a name and is the one that its name means, and no empty endpoint. -/
structure Tool.IsSettled (t : Tool) : Prop where
  network : t.networkMode = .vpc ∨ t.vpcConfig = none
  role : t.roleArn ≠ some ""
  mode : t.networkMode.name ≠ "" ∧ t.networkMode.IsNormal
  mounts : ∀ m ∈ t.storageMounts, ∀ bucketName bucketPath,
    m.source ≠ some (.cos bucketName bucketPath (some ""))

theorem StorageMount.settled_eq_iff {m : StorageMount} :
    m.settled = m ↔ ∀ bucketName bucketPath, m.source ≠ some (.cos bucketName bucketPath (some "")) := by
  obtain ⟨name, mountPath, readOnly, source⟩ := m
  cases source with
  | none => exact ⟨fun _ _ _ => nofun, fun _ => rfl⟩
  | some source =>
    obtain ⟨bucketName, bucketPath, endpoint⟩ := source
    simp [settled, StorageSource.settled, Text.nonEmpty_eq_self_iff]

theorem modeOf_name_eq_iff {mode : NetworkMode} :
    modeOf (some mode.name) = mode ↔ mode.name ≠ "" ∧ mode.IsNormal := by
  by_cases hname : mode.name = ""
  · have hmode : modeOf (some mode.name) = .isPublic := by
      rw [hname]
      rfl
    rw [hmode]
    refine ⟨fun h => ?_, fun h => absurd hname h.1⟩
    rw [← h] at hname
    exact absurd hname (by decide)
  · rw [modeOf, Text.nonEmpty, Option.filter_some_pos (by simpa using hname)]
    exact ⟨fun h => ⟨hname, h⟩, fun h => h.2⟩

theorem Tool.settled_eq_iff {t : Tool} : t.settled = t ↔ t.IsSettled := by
  have hmounts : t.storageMounts.map StorageMount.settled = t.storageMounts ↔
      ∀ m ∈ t.storageMounts, m.settled = m := by
    have hmap := List.map_inj_left (l := t.storageMounts) (f := StorageMount.settled)
      (g := fun m => m)
    rwa [List.map_id'] at hmap
  have hnetwork : (if t.networkMode = .vpc then t.vpcConfig else none) = t.vpcConfig ↔
      t.networkMode = .vpc ∨ t.vpcConfig = none := by
    split
    · next h => exact ⟨fun _ => .inl h, fun _ => rfl⟩
    · next h => exact ⟨fun h' => .inr h'.symm, fun h' => (h'.resolve_left h).symm⟩
  constructor
  · intro h
    refine ⟨hnetwork.1 (congrArg vpcConfig h), Text.nonEmpty_eq_self_iff.1 (congrArg roleArn h),
      modeOf_name_eq_iff.1 (congrArg networkMode h), fun m hm => ?_⟩
    exact StorageMount.settled_eq_iff.1 (hmounts.1 (congrArg storageMounts h) m hm)
  · intro h
    have hmode := modeOf_name_eq_iff.2 h.mode
    have hvpc := hnetwork.2 h.network
    have hrole := Text.nonEmpty_eq_self_iff.2 h.role
    have hall := hmounts.2 fun m hm => StorageMount.settled_eq_iff.2 (h.mounts m hm)
    simp only [settled, hmode, hvpc, hrole, hall]

/-! ## Records that are kept -/

/-- The object with one more member behind the others. -/
def Json.Value.withMember (w : Value) (name : String) (v : Value) : Value :=
  match w with
  | .object ms => .object (ms ++ [(name, v)])
  | w => w

/-- The record of a tool that was made by a request with this body and got this id. -/
def Cloud.keptRecord (body : Value) (id : String) : Value := body.withMember "ToolId" (.text id)

/-- The body of a reply that lists one record. -/
def Cloud.listing (record : Value) : List UInt8 :=
  Utf8.encode (replyText (listingText record.toText))

theorem keptRecord_creation (c : ToolCreation) (id : String) :
    keptRecord (toolCreationBody c) id =
      record (creationMembers c ++ [("ToolId", (some id).map Value.text)]) := by
  rw [← record_creationMembers]
  simp only [record, givenMembers, List.filterMap_append, Option.map_none, List.filterMap_cons,
    List.filterMap_nil, List.append_nil]
  rfl

namespace CloudBackend

/-- What the outcome of a request to make a tool stands for. -/
def madeBy (c : ToolCreation) (o : Outcome) : Except Error Tool :=
  ((recordOf "CreateSandboxTool" toolIdOfDocument? o).mapError
    (.inContext "failed to create tool")).map (madeTool c)

/-- What the outcome of a request for the tool with an id stands for. -/
def lookedUp (id : String) (o : Outcome) : Except Error Tool := do
  let page ← (recordOf "DescribeSandboxToolList" toolPageOfDocument? o).mapError
    (.inContext "failed to list tools")
  match page.tools.head? with
  | some t => .ok t
  | none => .error (.notFound "tool" id)

theorem cloudAction_createTool (b : CloudBackend) {c : ToolCreation} (hname : c.name ≠ "")
    (htype : c.toolType ≠ "") :
    Backend.cloudAction b (.createTool c) = .send
      ⟨b.request "CreateSandboxTool" (toolCreationBody c).toText, b.limit, fun _ => .body []⟩
      fun o => .done ((madeBy c o).map .tool) := by
  have hname : ¬ c.name.isEmpty = true := fun h => hname (String.isEmpty_iff.1 h)
  have htype : ¬ c.toolType.isEmpty = true := fun h => htype (String.isEmpty_iff.1 h)
  rw [Backend.cloudAction, createTool, if_neg hname, if_neg htype]
  refine congrArg (Action.send _) (funext fun o => ?_)
  dsimp only
  unfold madeBy
  cases recordOf "CreateSandboxTool" toolIdOfDocument? o <;> rfl

/-- The call to make a tool sends something only if the tool has a name and a type. -/
theorem named_of_sends {b : CloudBackend} {c : ToolCreation} {q : Query}
    {next : Outcome → Action Answer} (h : Backend.cloudAction b (.createTool c) = .send q next) :
    c.name ≠ "" ∧ c.toolType ≠ "" := by
  rw [Backend.cloudAction, createTool] at h
  split at h
  · cases h
  next hname =>
    split at h
    · cases h
    next htype =>
      exact ⟨fun h => hname (String.isEmpty_iff.2 h), fun h => htype (String.isEmpty_iff.2 h)⟩

theorem cloudAction_getTool (b : CloudBackend) (id : String) :
    Backend.cloudAction b (.getTool id) = .send
      ⟨b.request "DescribeSandboxToolList" (toolQueryBody (.one id)).toText, b.limit,
        fun _ => .body []⟩
      fun o => .done ((lookedUp id o).map .tool) := by
  refine congrArg (Action.send _) (funext fun o => ?_)
  dsimp only
  unfold lookedUp
  rcases recordOf "DescribeSandboxToolList" toolPageOfDocument? o with e | ⟨_ | ⟨t, ts⟩, count⟩
  · rfl
  · rfl
  · rfl

/-- A whole reply without an error and with an id makes the tool. -/
theorem madeBy_of_open (c : ToolCreation) {received : Received} {d : Document} {id : String}
    (hd : documentOf? received.bytes = some d) (herror : IsErrorFree d)
    (hid : openDocument? toolIdOfDocument? d = some id) :
    madeBy c (.reply 200 received none) = .ok (madeTool c id) := by
  rw [madeBy, openResponse_whole _ received hd herror, hid]
  rfl

/-- The record that the text of a response gives. -/
theorem recordOf_replyText {α : Type} (action : String) (decode : Document → Option α) {v : Value}
    (h : v.Fits (maxNesting - 1)) (hv : v ≠ .null) (herror : v.sorted.member? "Error" = none)
    {received : Received} (hbytes : received.bytes = Utf8.encode (replyText v.toText)) :
    recordOf action decode (.reply 200 received none) =
      match decode (.respelled v) with
      | some a => .ok a
      | none => .error (.decode action) := by
  have hdocument : documentOf? received.bytes = some (.ofValue (.object [("Response", v)])) := by
    rw [hbytes]
    exact documentOf?_replyText h
  rw [← openDocument?_ofValue hv decode]
  exact openResponse_whole action received hdocument (isErrorFree_ofValue herror)

/-- Looking up the record that is kept of a tool gives the tool as it is settled. -/
theorem lookedUp_keptRecord (c : ToolCreation) (id id' : String) {received : Received}
    (hbytes : received.bytes = listing (keptRecord (toolCreationBody c) id)) :
    lookedUp id' (.reply 200 received none) = .ok (madeTool c id).settled := by
  have hfits : (record (creationMembers c ++ [("ToolId", (some id).map .text)])).Fits
      (maxNesting - 3) := fits_creation c (some id)
  have htool := toolOfDocument?_creation c (some id)
  rw [← keptRecord_creation] at hfits htool
  rw [listing, listingText_toText] at hbytes
  rw [lookedUp, recordOf_replyText _ _ (fits_listing hfits) (by nofun) rfl hbytes,
    toolPageOfDocument?_listing htool]
  rfl

end CloudBackend

end AgentSandbox

import AgentSandbox.Proofs.Cloud.Reporting
import AgentSandbox.Proofs.Exchange.Expecting
import AgentSandbox.Proofs.Json.Holding

/-!
# What the control plane is expected to answer

Every decoder decides the shape of its record, so what a call decodes is exactly what is of the shape
that it expects (`Cloud.expects?`).  Every management call asks for that
(`CloudBackend.asks_cloudAction`).
-/

namespace AgentSandbox

open Cloud Json

namespace Cloud

/-! ## Deciding shapes -/

theorem decides_tag : tagShape.Decides tagOfDocument? :=
  decides_record (by decide) fun _ =>
    .optional decides_text fun _ => .optional decides_text fun _ => .done rfl

theorem decides_vpc : vpcShape.Decides vpcOfDocument? :=
  decides_record (by decide) fun _ =>
    .optional_map (decides_listOf decides_text) fun _ =>
      .optional_map (decides_listOf decides_text) fun _ => .done rfl

theorem decides_network : networkShape.Decides networkOfDocument? :=
  decides_record (by decide) fun _ =>
    .optional decides_mode fun _ => .optional decides_vpc fun _ => .done rfl

theorem decides_cos : cosShape.Decides cosOfDocument? :=
  decides_record (by decide) fun _ =>
    .optional_map decides_text fun _ => .optional_map decides_text fun _ =>
      .optional decides_text fun _ => .done rfl

theorem decides_source : sourceShape.Decides sourceOfDocument? :=
  decides_record (by decide) fun _ => .last decides_cos

theorem decides_mount : mountShape.Decides mountOfDocument? :=
  decides_record (by decide) fun _ =>
    .optional_map decides_text fun _ => .optional_map decides_text fun _ =>
      .optional decides_flag fun _ => .optional decides_source fun _ => .done rfl

theorem decides_tool : toolShape.Decides toolOfDocument? :=
  decides_record (by decide) fun _ =>
    .optional_map decides_text fun _ => .optional_map decides_text fun _ =>
      .optional_map decides_text fun _ => .optional_map decides_text fun _ =>
        .optional decides_network fun _ => .optional_map (decides_listOf decides_tag) fun _ =>
          .optional decides_text fun _ => .optional_map (decides_listOf decides_mount) fun _ =>
            .optional_map decides_text fun _ => .done rfl

theorem decides_toolPage : toolPageShape.Decides toolPageOfDocument? :=
  decides_record (by decide) fun _ =>
    .optional_map (decides_listOf decides_tool) fun _ => .optional decides_count fun _ => .done rfl

theorem decides_toolId : toolIdShape.Decides toolIdOfDocument? :=
  decides_record (by decide) fun _ => .last_map decides_text _

theorem decides_unit : unitShape.Decides unitOfDocument? := by
  have hbind : unitOfDocument? = fun d => (d.fields? (fieldNames [])).bind fun _ => some () := by
    funext d
    exact Option.map_eq_bind
  rw [hbind]
  exact decides_record (by decide) fun _ => .done rfl

theorem decides_instance : instanceShape.Decides instanceOfDocument? :=
  decides_record (by decide) fun _ =>
    .optional_map decides_text fun _ => .optional_map decides_text fun _ =>
      .optional_map decides_text fun _ => .optional_map decides_text fun _ =>
        .optional_map decides_text fun _ => .done rfl

theorem decides_started : startedShape.Decides startedOfDocument? :=
  decides_record (by decide) fun _ => .optional decides_instance fun _ => .done rfl

theorem decides_instancePage : instancePageShape.Decides instancePageOfDocument? :=
  decides_record (by decide) fun _ =>
    .optional_map (decides_listOf decides_instance) fun _ =>
      .optional decides_count fun _ => .done rfl

theorem decides_token : tokenShape.Decides tokenOfDocument? :=
  decides_record (by decide) fun _ => .optional decides_text fun _ => .done rfl

theorem decides_createdKey : createdKeyShape.Decides createdKeyOfDocument? :=
  decides_record (by decide) fun _ =>
    .optional_map decides_text fun _ => .optional_map decides_text fun _ =>
      .optional_map decides_text fun _ => .done rfl

theorem decides_key : keyShape.Decides keyOfDocument? :=
  decides_record (by decide) fun _ =>
    .optional_map decides_text fun _ => .optional_map decides_text fun _ =>
      .optional_map decides_text fun _ => .optional_map decides_text fun _ =>
        .optional_map decides_text fun _ => .done rfl

theorem decides_keys : keysShape.Decides keysOfDocument? :=
  decides_record (by decide) fun _ => .last_map (decides_listOf decides_key) _

/-! ## Envelopes -/

/-- The document is an envelope around a response, which is `null` if none is given.  An envelope may
be given as the list of its only field. -/
inductive Encloses : Document → Value → Prop where
  | member {ms : List (Option String × Document)} {d : Document} {response : Value}
      (names : Names ["Response"] ms) (given : (some "Response", d) ∈ ms)
      (meaning : d.value? = some response) : Encloses (.record ms) response
  | lacking {ms : List (Option String × Document)} (names : Names ["Response"] ms)
      (missing : ∀ d, (some "Response", d) ∉ ms) : Encloses (.record ms) .null
  | first {d : Document} {response : Value} (meaning : d.value? = some response) :
      Encloses (.list [d]) response
  | empty : Encloses (.list []) .null

theorem encloses_record_iff (ms : List (Option String × Document)) (response : Value) :
    Encloses (.record ms) response ↔
      ∃ fs, (Document.record ms).fields? ["Response"] = some fs ∧
        fs.orDefault "Response" Document.value? .null = some response := by
  have hmem : "Response" ∈ ["Response"] := List.mem_singleton.2 rfl
  unfold Fields.orDefault
  constructor
  · rintro (⟨names, given, meaning⟩ | ⟨names, missing⟩)
    · obtain ⟨fs, hfs, hlookup⟩ := names.exists_fields?
      refine ⟨fs, hfs, ?_⟩
      rw [(hlookup _ hmem _).2 given]
      exact meaning
    · obtain ⟨fs, hfs, hlookup⟩ := names.exists_fields?
      refine ⟨fs, hfs, ?_⟩
      cases hd : lookup? "Response" fs.given with
      | none => rfl
      | some d => exact absurd ((hlookup _ hmem d).1 hd) (missing d)
  · rintro ⟨fs, hfs, h⟩
    have hnames := names_of_fields? hfs
    obtain ⟨fs', hfs', hlookup⟩ := hnames.exists_fields?
    cases hfs.symm.trans hfs'
    cases hd : lookup? "Response" fs.given with
    | none =>
      rw [hd] at h
      cases h
      refine .lacking hnames fun d hgiven => ?_
      cases hd.symm.trans ((hlookup _ hmem d).2 hgiven)
    | some d =>
      rw [hd] at h
      exact .member hnames ((hlookup _ hmem d).1 hd) h

/-- The response that is found in a document is the one that it encloses. -/
theorem responseOfDocument?_eq_some_iff (d : Document) (response : Value) :
    responseOfDocument? d = some response ↔ Encloses d response := by
  unfold responseOfDocument?
  rw [Option.bind_eq_bind, Option.bind_eq_some_iff]
  cases d with
  | record ms => exact (encloses_record_iff ms response).symm
  | list items =>
    rcases items with _ | ⟨d, _ | ⟨d', items⟩⟩
    · refine ⟨?_, ?_⟩
      · rintro ⟨_, ⟨⟩, ⟨⟩⟩
        exact .empty
      · rintro ⟨⟩
        exact ⟨_, rfl, rfl⟩
    · refine ⟨?_, ?_⟩
      · rintro ⟨_, ⟨⟩, h⟩
        exact .first h
      · rintro (_ | _ | h)
        exact ⟨_, rfl, h⟩
    · refine ⟨?_, nofun⟩
      rintro ⟨_, ⟨⟩, -⟩
  | _ => exact ⟨nofun, nofun⟩

/-! ## What is expected -/

/-- The documents that enclose a response of a shape; a response of `null` counts as an empty
record. -/
def FitsIn (shape : Shape) (d : Document) : Prop :=
  ∃ response, Encloses d response ∧ shape.Holds (.ofValue (recordIn response))

/-- The error that the response in a document reports. -/
def ReportsIn (d : Document) (reported : Value) : Prop :=
  ∃ ms, Encloses d (.object ms) ∧ lookup? "Error" ms = some reported

/-- An envelope with a response of a shape. -/
def envelopeOf (shape : Shape) : Expectation := ⟨[200], true, ReportsIn, FitsIn shape⟩

/-- What a management call expects. -/
def expects? : Call → Option Expectation
  | .createTool _ => some (envelopeOf toolIdShape)
  | .listTools _ | .getTool _ => some (envelopeOf toolPageShape)
  | .createInstance _ => some (envelopeOf startedShape)
  | .listInstances _ | .getInstance _ => some (envelopeOf instancePageShape)
  | .accessToken _ | .browserUrls .. => some (envelopeOf tokenShape)
  | .createApiKey _ => some (envelopeOf createdKeyShape)
  | .listApiKeys => some (envelopeOf keysShape)
  | .updateTool _ | .deleteTool _ | .deleteInstance _ | .deleteApiKey _ =>
    some (envelopeOf unitShape)
  | .execute .. | .executeStream .. => none

theorem isErrorFree_of_forall {d : Document} (h : ∀ reported, ¬ ReportsIn d reported) :
    IsErrorFree d := by
  intro response hresponse
  cases hmember : response.member? "Error" with
  | none => rfl
  | some reported =>
    cases response with
    | object ms =>
      exact absurd ⟨ms, (responseOfDocument?_eq_some_iff d _).1 hresponse, hmember⟩ (h reported)
    | _ => cases hmember

theorem isSome_openDocument?_iff {α : Type} {shape : Shape} {decode : Document → Option α}
    (h : shape.Decides decode) (d : Document) :
    (openDocument? decode d).isSome = true ↔ FitsIn shape d := by
  unfold openDocument? FitsIn
  simp only [← responseOfDocument?_eq_some_iff]
  cases responseOfDocument? d with
  | none => exact ⟨nofun, nofun⟩
  | some response =>
    rw [Option.bind_some, h]
    refine ⟨fun hholds => ⟨response, rfl, hholds⟩, ?_⟩
    rintro ⟨_, ⟨⟩, hholds⟩
    exact hholds

/-- A body that is no document gives no record. -/
theorem recordOf_unread {α : Type} (action : String) (decode : Document → Option α)
    {received : Received} (h : documentOf? received.bytes = none) :
    CloudBackend.recordOf action decode (.reply 200 received none) = .error (.decode action) := by
  have haccepted : Outcome.accepted action [200] .transport (.reply 200 received none) =
      .ok ⟨received, none⟩ := rfl
  unfold CloudBackend.recordOf
  rw [haccepted]
  simp only [Bind.bind, Except.bind, Content.decode_whole, h, Option.bind_none]

/-- The record in a whole reply is refused as expected, or there is one. -/
theorem recordOf_refuses {α : Type} {shape : Shape} {decode : Document → Option α}
    (h : shape.Decides decode) (action : String) (status : Nat) (received : Received) :
    (∃ err, CloudBackend.recordOf action decode (.reply status received none) = .error err ∧
        (envelopeOf shape).Refuses status received.bytes err) ∨
      (envelopeOf shape).Welcomes status received.bytes ∧
        ∃ x, CloudBackend.recordOf action decode (.reply status received none) = .ok x := by
  rcases (envelopeOf shape).accepted_or_refuses action .transport status received with
    ⟨err, haccepted, hrefuses⟩ | ⟨hstatus, -⟩
  · refine .inl ⟨err, ?_, hrefuses⟩
    have haccepted : Outcome.accepted action [200] .transport _ = _ := haccepted
    rw [CloudBackend.recordOf, haccepted]
    rfl
  obtain rfl := List.mem_singleton.1 hstatus
  by_cases hreports : ∃ reported, (envelopeOf shape).Reports received.bytes reported
  · obtain ⟨reported, d, hd, ms, hresponse, hreported⟩ := hreports
    have hopened := (responseOfDocument?_eq_some_iff d _).2 hresponse
    exact .inl ⟨_, recordOf_reported action hd hopened hreported α decode,
      .reported hstatus rfl ⟨d, hd, ms, hresponse, hreported⟩ rfl⟩
  have hsilent (reported : Value) : ¬ (envelopeOf shape).Reports received.bytes reported :=
    fun h => hreports ⟨reported, h⟩
  have hmalformed (h : ¬ (envelopeOf shape).Fits received.bytes) :
      (envelopeOf shape).Refuses 200 received.bytes (.decode action) :=
    .malformed hstatus rfl hsilent h rfl
  cases hdocument : documentOf? received.bytes with
  | none =>
    refine .inl ⟨.decode action, recordOf_unread action decode hdocument, hmalformed ?_⟩
    rintro ⟨d, hd, -⟩
    cases hdocument.symm.trans hd
  | some d =>
    have hfree : IsErrorFree d :=
      isErrorFree_of_forall fun reported h => hsilent reported ⟨d, hdocument, h⟩
    have hfits := isSome_openDocument?_iff h d
    rw [openResponse_whole action received hdocument hfree]
    cases hopen : openDocument? decode d with
    | none =>
      refine .inl ⟨.decode action, rfl, hmalformed ?_⟩
      rintro ⟨d', hd', hfits'⟩
      cases hdocument.symm.trans hd'
      rw [hopen] at hfits
      cases hfits.2 hfits'
    | some x =>
      rw [hopen] at hfits
      have hfit : (envelopeOf shape).Fits received.bytes := ⟨d, hdocument, hfits.1 rfl⟩
      exact .inr ⟨⟨hstatus, fun _ => hsilent, fun _ => hfit⟩, x, rfl⟩

end Cloud

namespace CloudBackend

variable {α : Type} (b : CloudBackend)

theorem asks_call (context action : String) (body : Value) {shape : Shape}
    {decode : Document → Option α} (h : shape.Decides decode) :
    (b.call context action body decode).Asks (envelopeOf shape) := by
  refine .send (funext fun _ => ?_) fun status received => ?_
  · simp only [Expectation.reception, envelopeOf, Bool.not_true, Bool.and_false,
      Bool.false_eq_true, if_false]
  · rcases recordOf_refuses h action status received with
      ⟨err, hrecord, hrefuses⟩ | ⟨hwelcomes, x, hrecord⟩
    · exact .inl ⟨.inContext context err, by rw [hrecord]; rfl, hrefuses.inContext context⟩
    · rw [hrecord]
      exact .inr ⟨hwelcomes, .ok x⟩

theorem asks_createTool (c : ToolCreation) : (b.createTool c).Asks (envelopeOf toolIdShape) := by
  unfold createTool
  split
  · exact .fail _
  split
  · exact .fail _
  · exact (b.asks_call _ _ _ decides_toolId).map _

theorem asks_getTool (id : String) : (b.getTool id).Asks (envelopeOf toolPageShape) := by
  refine (b.asks_call _ _ _ decides_toolPage).bind fun page => ?_
  split
  · exact .ok _
  · exact .missing (.inl ⟨_, _, rfl⟩)

theorem asks_getInstance (id : String) :
    (b.getInstance id).Asks (envelopeOf instancePageShape) := by
  refine (b.asks_call _ _ _ decides_instancePage).bind fun page => ?_
  split
  · exact .ok _
  · exact .missing (.inl ⟨_, _, rfl⟩)

theorem asks_acquireToken (id : String) : (b.acquireToken id).Asks (envelopeOf tokenShape) := by
  refine (b.asks_call _ _ _ decides_token).bind fun token => ?_
  cases token with
  | some t => exact .ok t
  | none => exact .missing (.inr ⟨_, _, rfl⟩)

theorem asks_browserUrls (id : String) (port : Nat) :
    ((Backend.cloud b).browserUrls id port).Asks (envelopeOf tokenShape) := by
  refine ((b.asks_acquireToken id).map some).bind fun token => ?_
  cases token with
  | some t => exact .ok _
  | none => exact .missing (.inl ⟨_, _, rfl⟩)

/-- A management call asks for what it expects. -/
theorem asks_cloudAction {call : Call} {e : Expectation} (h : Cloud.expects? call = some e) :
    (Backend.cloudAction b call).Asks e := by
  cases call with
  | execute => cases h
  | executeStream => cases h
  | createTool c => cases h; exact (b.asks_createTool c).map _
  | updateTool u => cases h; exact (b.asks_call _ _ _ decides_unit).map _
  | listTools q => cases h; exact (b.asks_call _ _ _ decides_toolPage).map _
  | getTool id => cases h; exact (b.asks_getTool id).map _
  | deleteTool id => cases h; exact (b.asks_call _ _ _ decides_unit).map _
  | createInstance c => cases h; exact ((b.asks_call _ _ _ decides_started).map _).map _
  | listInstances q => cases h; exact (b.asks_call _ _ _ decides_instancePage).map _
  | getInstance id => cases h; exact (b.asks_getInstance id).map _
  | deleteInstance id => cases h; exact (b.asks_call _ _ _ decides_unit).map _
  | accessToken id => cases h; exact ((b.asks_acquireToken id).map _).map _
  | browserUrls id port => cases h; exact (b.asks_browserUrls id port).map _
  | createApiKey name => cases h; exact (b.asks_call _ _ _ decides_createdKey).map _
  | listApiKeys => cases h; exact (b.asks_call _ _ _ decides_keys).map _
  | deleteApiKey id => cases h; exact (b.asks_call _ _ _ decides_unit).map _

end CloudBackend

end AgentSandbox

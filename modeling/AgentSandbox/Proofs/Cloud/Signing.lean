import AgentSandbox.Proofs.Calendar
import AgentSandbox.Proofs.Cloud.Actions
import AgentSandbox.Proofs.Exchange.Headers
import AgentSandbox.Proofs.Exchange.Requests

/-!
# Signed requests

A service that is sent a request checks its signature with what it received: the headers, the bytes
of the body, and the day of the time in a header.  `Request.IsSigned` says that it finds the value
it expects among the authorizations, and what else stands there.  Every request for an action is
signed in this sense (`CloudBackend.isSigned_request`), but a URL that names a user puts the
authorization of that user in front of the signed one.
-/

namespace AgentSandbox

/-- The moment of some seconds since the start of 1970 is on the day of a date, in UTC. -/
def CivilDate.Contains (d : CivilDate) (seconds : Int) : Prop :=
  ∃ n : Int, IsDay n d ∧ n * 86400 ≤ seconds ∧ seconds < (n + 1) * 86400

/-- The values of the headers that a signature is about. -/
structure SignedHeaders where
  contentType : String
  host : String
  action : String
  seconds : Int

/-- The authorization that a service expects of a request with some signed headers, made on a day
and with a body. -/
def SignedHeaders.authorization (h : SignedHeaders) (keys : Credentials) (date : String)
    (body : List UInt8) : String :=
  let algorithm := "TC3-HMAC-SHA256"
  let names := "content-type;host;x-tc-action"
  let scope := "/".intercalate [date, "ags", "tc3_request"]
  let canonical := "\n".intercalate
    ["POST", "/", "", "content-type:" ++ h.contentType, "host:" ++ h.host,
      "x-tc-action:" ++ Text.lowerAscii h.action, "", names, hex (Sha256.digest body)]
  let signed := "\n".intercalate
    [algorithm, toString h.seconds, scope, hex (Sha256.digest (Utf8.encode canonical))]
  let dayKey := hmacSha256 (Utf8.encode ("TC3" ++ keys.secretKey)) (Utf8.encode date)
  let key := hmacSha256 (hmacSha256 dayKey (Utf8.encode "ags")) (Utf8.encode "tc3_request")
  algorithm ++ " Credential=" ++ keys.secretId ++ "/" ++ scope ++ ", SignedHeaders=" ++ names ++
    ", Signature=" ++ hex (hmacSha256 key (Utf8.encode signed))

namespace Request

/-- The request has these values, and no others, in the headers that are signed. -/
structure Bears (r : Request) (h : SignedHeaders) : Prop where
  contentType : r.values "content-type" = [h.contentType]
  host : r.values "host" = [h.host]
  action : r.values "x-tc-action" = [h.action]
  seconds : r.values "x-tc-timestamp" = [toString h.seconds]

/-- The authorizations are some others and then the one that is expected of the headers and the body
that are sent. -/
def IsSigned (r : Request) (keys : Credentials) (others : List String) : Prop :=
  ∃ (h : SignedHeaders) (date : CivilDate), r.Bears h ∧ date.Contains h.seconds ∧
    r.values "authorization" = others ++ [h.authorization keys date.text (Utf8.encode r.body)]

/-- The request names an action of the control plane. -/
def NamesAction (r : Request) : Prop := (r.header? "x-tc-action").isSome = true

/-- The request is signed for the host to which it is sent if it names an action, and not at all
otherwise; nothing else is authorized but the user whom the URL names. -/
structure IsAuthentic (r : Request) (keys : Credentials) : Prop where
  /-- The client gives no header twice. -/
  nodup : (r.headers.map (·.1)).Nodup
  signed : r.NamesAction → r.IsSigned keys r.url.userAuthorization?.toList
  host : r.NamesAction → ∃ authority, r.url.authority = some authority ∧
    r.values "host" = [authority.text]
  unsigned : ¬ r.NamesAction → r.values "authorization" = r.url.userAuthorization?.toList

/-- What is expected stands alone if and only if there are no others. -/
theorem IsSigned.nil_iff {r : Request} {keys : Credentials} {others : List String}
    (h : r.IsSigned keys others) : r.IsSigned keys [] ↔ others = [] := by
  constructor
  · rintro ⟨_, _, -, -, halone⟩
    obtain ⟨_, _, -, -, hvalues⟩ := h
    have hlength := congrArg List.length (hvalues.symm.trans halone)
    rw [List.length_append] at hlength
    exact List.length_eq_zero_iff.1 (Nat.add_right_cancel hlength)
  · rintro rfl
    exact h

end Request

theorem Instant.contains_date (t : Instant) : t.date.Contains t.seconds := by
  refine ⟨t.dayNumber, CivilDate.isDay_iff.2 rfl, ?_⟩
  unfold dayNumber
  rw [Int.fdiv_eq_ediv_of_nonneg _ (by decide)]
  omega

/-- The value that is computed for a request is the one that is expected of what it is computed
from. -/
theorem Signature.authorization_eq (keys : Credentials) (host action : String)
    (payload : List UInt8) (t : Instant) :
    authorization keys ⟨host, action, payload⟩ t =
      SignedHeaders.authorization ⟨contentType, host, action, t.seconds⟩ keys t.date.text payload :=
  rfl

namespace CloudBackend

variable (b : CloudBackend)

/-- The request for an action is signed with the keys of the backend. -/
theorem isSigned_request (action body : String) :
    (b.request action body).IsSigned b.credentials b.url.userAuthorization?.toList := by
  refine ⟨⟨Signature.contentType, b.host, action, b.now.seconds⟩, b.now.date, ⟨?_, ?_, ?_, ?_⟩,
    b.now.contains_date, ?_⟩
  · exact Request.values_of_ne (by decide) _
  · exact Request.values_of_ne (by decide) _
  · exact Request.values_of_ne (by decide) _
  · exact Request.values_of_ne (by decide) _
  · rw [← Signature.authorization_eq]
    exact Request.values_authorization _

/-- What a backend may send: a request for an action or one to the execution service. -/
inductive IsRequest : Request → Prop where
  | action (name body : String) : IsRequest (b.request name body)
  | execution (url : Url) (token : Option String) (body : String) :
      IsRequest ⟨.post, url, Execution.requestHeaders token, body⟩

theorem sends_call {α : Type} (context action : String) (body : Json.Value)
    (decode : Json.Document → Option α) :
    (b.call context action body decode).Sends b.IsRequest :=
  .send (.action _ _) fun _ => .done _

theorem sends_execute (base : String) (token : Option String) (code language : String)
    (l : Execution.Listeners) :
    (Execution.execute base token code language l).Sends b.IsRequest := by
  unfold Execution.execute
  split
  · exact .done _
  · exact .send (.execution _ _ _) fun _ => .done _

theorem sends_cloudAction (call : Call) : (Backend.cloudAction b call).Sends b.IsRequest :=
  cloudAction_closed (Action.isClosed_sends b.IsRequest) b.sends_call b.sends_execute call

/-- The request is one for an action. -/
def IsActionRequest (r : Request) : Prop := ∃ name body, r = b.request name body

theorem begins_call {α : Type} (context action : String) (body : Json.Value)
    (decode : Json.Document → Option α) :
    (b.call context action body decode).Begins b.IsActionRequest :=
  .send ⟨action, body.toText, rfl⟩ fun _ => ⟨_, rfl⟩

theorem begins_acquireToken (id : String) : (b.acquireToken id).Begins b.IsActionRequest :=
  (b.begins_call _ _ _ _).bind

/-- Every call begins with a request for an action, or fails without one. -/
theorem begins_cloudAction (call : Call) :
    (Backend.cloudAction b call).Begins b.IsActionRequest := by
  cases call with
  | createTool c =>
    refine .map ?_ _
    unfold createTool
    split
    · exact .fail _
    split
    · exact .fail _
    · exact (b.begins_call _ _ _ _).bind
  | getTool id => exact (b.begins_call _ _ _ _).bind.map _
  | createInstance c => exact (b.begins_call _ _ _ _).bind.map _
  | getInstance id => exact (b.begins_call _ _ _ _).bind.map _
  | execute id code language => exact (b.begins_acquireToken id).bind.map _
  | executeStream id code language l => exact (b.begins_acquireToken id).bind.map _
  | accessToken id => exact ((b.begins_acquireToken id).map some).map _
  | browserUrls id port => exact ((b.begins_acquireToken id).map some).bind.map _
  | _ => exact (b.begins_call _ _ _ _).map _

theorem namesAction_of_isActionRequest {r : Request} (h : b.IsActionRequest r) : r.NamesAction := by
  obtain ⟨name, body, rfl⟩ := h
  rfl

/-! ## Requests that can be written -/

/-- Hexadecimal digits can stand in a header. -/
theorem isHeaderValue_hex (bytes : List UInt8) : Request.isHeaderValue (hex bytes) = true := by
  have hdigit (d : Nat) (hd : d < 16) :
      (Nat.digitChar d = '\t' || (0x20 ≤ (Nat.digitChar d).toNat && (Nat.digitChar d).toNat ≠ 0x7F)) =
        true := by
    revert d
    decide
  rw [Request.isHeaderValue, hex, String.toList_ofList, List.all_eq_true]
  intro c hc
  obtain ⟨x, -, hx⟩ := List.mem_flatMap.1 hc
  have hlt : x.toNat < 256 := x.toNat_lt
  simp only [hexByte, List.mem_cons, List.not_mem_nil, or_false] at hx
  rcases hx with rfl | rfl
  · exact hdigit _ (by omega)
  · exact hdigit _ (by omega)

/-- The URL of the backend can be requested, and what it puts into headers can stand there: nothing
else depends on the backend but a signature in hexadecimal digits. -/
def isUsable : Bool :=
  b.url.isRequestable && [b.config.secretId, Signature.scope b.now.date.text, b.host,
    b.config.region, toString b.now.seconds].all Request.isHeaderValue

/-- The requests for actions of a usable backend can be written. -/
theorem isWritable_request (h : b.isUsable = true) {action : String}
    (haction : Request.isHeaderValue action = true) (body : String) :
    (b.request action body).isWritable = true := by
  obtain ⟨hurl, hvalues⟩ := Bool.and_eq_true_iff.1 h
  simp only [List.all_cons, List.all_nil, Bool.and_true, Bool.and_eq_true] at hvalues
  obtain ⟨hid, hscope, hhost, hregion, hseconds⟩ := hvalues
  have hauthorization : Request.isHeaderValue
      (Signature.authorization b.credentials ⟨b.host, action, Utf8.encode body⟩ b.now) = true := by
    have hsignature := isHeaderValue_hex (hmacSha256
      (Signature.signingKey b.credentials.secretKey b.now.date.text)
      (Utf8.encode (Signature.stringToSign ⟨b.host, action, Utf8.encode body⟩ b.now.seconds
        b.now.date.text)))
    have hid : Request.isHeaderValue b.credentials.secretId = true := hid
    simp only [Signature.authorization, Signature.signature, Request.isHeaderValue_append,
      hid, hscope, hsignature, Bool.and_true]
    decide
  have htype : Request.isHeaderValue Signature.contentType = true := by decide
  have hversion : Request.isHeaderValue version = true := by decide
  simp only [Request.isWritable, request, hurl, List.all_cons, List.all_nil, hauthorization, htype,
    hhost, haction, hversion, hregion, hseconds, Bool.and_self]

/-! ## The requests of a control plane that was made -/

variable {b} {config : CloudConfig} {limit : Option Nat} {now : Instant}

/-- The keys are those of the configuration, and the host is that of the URL. -/
theorem exists_authority_of_make (h : make config limit now = .ok b) :
    b.credentials = ⟨config.secretId, config.secretKey⟩ ∧
      ∃ authority, b.url.authority = some authority ∧ b.host = authority.text := by
  unfold make at h
  split at h
  · cases h
  · split at h
    · next user host port hauthority =>
      cases h
      exact ⟨rfl, ⟨user, some host, port⟩, hauthority, rfl⟩
    · cases h

theorem IsRequest.isAuthentic {r : Request} (hr : b.IsRequest r)
    (h : make config limit now = .ok b) : r.IsAuthentic ⟨config.secretId, config.secretKey⟩ := by
  obtain ⟨hkeys, authority, hauthority, hhost⟩ := exists_authority_of_make h
  cases hr with
  | action name body =>
    refine ⟨?_, fun _ => hkeys ▸ b.isSigned_request name body, fun _ => ?_, fun hnot => ?_⟩
    · have hnames : (b.request name body).headers.map (·.1) =
          ["authorization", "content-type", "host", "x-tc-action", "x-tc-version", "x-tc-region",
            "x-tc-timestamp"] := rfl
      rw [hnames]
      decide
    · refine ⟨authority, hauthority, ?_⟩
      rw [← hhost]
      exact Request.values_of_ne (by decide) _
    · exact absurd rfl hnot
  | execution url token body =>
    rcases Execution.requestHeaders_cases token with hheaders | ⟨t, hheaders⟩
    all_goals
      rw [hheaders]
      refine ⟨by simp, nofun, nofun, fun _ => ?_⟩
      exact (Request.values_authorization _).trans (List.append_nil _)

end CloudBackend

end AgentSandbox

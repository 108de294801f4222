import AgentSandbox.Proofs.Client.Listing
import AgentSandbox.Proofs.Client.Receiving
import AgentSandbox.Proofs.Cloud.Carrying
import AgentSandbox.Proofs.Cloud.Expecting
import AgentSandbox.Proofs.E2b.Expecting
import AgentSandbox.Proofs.Exchange.Requests

/-!
# What comes back for a reply

A management call that `Session.Step.Hears` a whole reply either comes back with the error that the
reply stands for, or the reply is as expected and the call comes back with an answer, unless something
that was asked for is not there (`Session.Step.Hears.cases`).  So the status, the error that is
reported and the form of the body decide in this order what comes back
(`Session.classified_reply`).  Of the form of a body only those strings count that are read: the
others need not even be UTF-8 (`Session.answered_beside_ill_formed`).
-/

namespace AgentSandbox

open Cloud Json

/-! ## Whole bodies -/

namespace Expectation

variable {e : Expectation} {status : Nat}

/-- What is received of a whole body is the body, unless nobody reads it. -/
theorem bytes_whole (e : Expectation) (status : Nat) (chunks : List Chunk) :
    ((e.reception status).whole chunks).bytes = chunks.flatMap (·.bytes) ∨
      status ∈ e.accepts ∧ e.reads = false := by
  unfold reception
  split
  · next h =>
    rw [Bool.and_eq_true, Bool.not_eq_true'] at h
    exact .inr ⟨List.contains_iff_mem.1 h.1, h.2⟩
  · rw [Received.whole_body]
    exact .inl (List.nil_append _)

end Expectation

/-! ## Calls -/

/-- The call is about tools, instances or keys, and runs no code. -/
def Call.IsManagement : Call → Prop
  | .execute .. | .executeStream .. => False
  | _ => True

namespace Backend

/-- What a management call expects, if it sends anything. -/
def expects? : Backend → Call → Option Expectation
  | .e2b _, call => E2b.expects? call
  | .cloud _, call => Cloud.expects? call

theorem asks_action (b : Backend) {call : Call} {e : Expectation} (h : b.expects? call = some e) :
    (b.action call).Asks e := by
  cases b with
  | e2b b => exact b.asks_restAction h
  | cloud b => exact b.asks_cloudAction h

/-- A management call that expects nothing sends nothing. -/
theorem sends_of_not_expects (b : Backend) {call : Call} (hcall : call.IsManagement)
    (h : b.expects? call = none) : (b.action call).Sends fun _ => False := by
  have htoken (id : String) : (Action.lookUpToken id).Sends fun _ => False :=
    .token _ fun _ => .done _
  cases b with
  | e2b b =>
    cases call with
    | execute => exact hcall.elim
    | executeStream => exact hcall.elim
    | accessToken id => exact (htoken id).map _
    | browserUrls id port =>
      have hurls : ((Backend.e2b b).browserUrls id port).Sends fun _ => False := by
        refine (htoken id).bind fun token => ?_
        cases token with
        | some t => exact .done _
        | none => exact .done _
      exact hurls.map _
    | createInstance => cases h
    | listInstances => cases h
    | getInstance => cases h
    | deleteInstance => cases h
    | _ => exact .done _
  | cloud b =>
    cases call with
    | execute => exact hcall.elim
    | executeStream => exact hcall.elim
    | _ => cases h

end Backend

namespace Session

variable {c : Client} {connected : Bool} {s : Step} {st : State} {call : Call} {status : Nat}
  {body : List UInt8}

/-- The call in a step sends a request and the reply that the service has ready for it comes whole,
with a status and a body. -/
inductive Step.Hears (c : Client) (connected : Bool) (s : Step) (st : State) (call : Call)
    (status : Nat) : List UInt8 → Prop where
  | intro {chunks : List Chunk} {bytes : List UInt8}
      (receives : s.Receives c connected st call status bytes)
      (reply : (World.nextReply s.replies).1.response = .answer status chunks .complete) :
      Hears c connected s st call status (chunks.flatMap (·.bytes))

/-- What is received is made of the reply that the service had ready. -/
theorem Step.Receives.bytes_eq {bytes : List UInt8}
    (h : s.Receives c connected st call status bytes) :
    ∃ q next chunks ending, c.backend.action call = .send q next ∧
      (World.nextReply s.replies).1.response = .answer status chunks ending ∧
      bytes = ((q.reception status).whole chunks).bytes := by
  obtain @⟨q, next, received, w, -, -, hsends, hreplied, rfl⟩ := h
  obtain ⟨replies, chunks, ending, hlink, hreply, -, rfl⟩ := World.exchange_whole hreplied
  obtain rfl := s.replies_of_world hlink
  exact ⟨q, next, chunks, ending, hsends, hreply, rfl⟩

namespace Step.Hears

/-- A management call that hears a reply expects something of it. -/
theorem exists_expects (h : s.Hears c connected st call status body) (hcall : call.IsManagement) :
    ∃ e, c.backend.expects? call = some e := by
  obtain ⟨⟨-, -, sends, -, -⟩, -⟩ := h
  cases hexpects : c.backend.expects? call with
  | some e => exact ⟨e, rfl⟩
  | none =>
    have hsilent := c.backend.sends_of_not_expects hcall hexpects
    rw [sends] at hsilent
    cases hsilent with
    | send allowed => exact allowed.elim

/-- The error that a reply stands for comes back, or the reply is as expected; then there is an answer
unless something is not there. -/
theorem cases (h : s.Hears c connected st call status body) {e : Expectation}
    (hexpects : c.backend.expects? call = some e) :
    (∃ err, (step c connected s st).1.result = .error err ∧ e.Refuses status body err) ∨
      e.Welcomes status body ∧
        ((∃ a, (step c connected s st).1.result = .answer a) ∨
          (step c connected s st).1.result.Fails Error.IsMissing) := by
  obtain @⟨chunks, bytes, hreceives, hreply⟩ := h
  obtain ⟨q, next, received, w, hsends, rfl, -, hstep⟩ := hreceives.step_eq
  obtain ⟨q', next', chunks', ending, hsends', hreply', hbytes⟩ := hreceives.bytes_eq
  have hasks := c.backend.asks_action hexpects
  rw [hsends] at hasks hsends'
  cases hsends'
  cases hreply.symm.trans hreply'
  cases hasks with
  | send reception whole =>
    have hread : received.bytes = chunks.flatMap (·.bytes) ∨
        status ∈ e.accepts ∧ e.reads = false := by
      rw [hbytes, reception]
      exact e.bytes_whole status chunks
    rcases whole status received with ⟨err, hfails, hrefuses⟩ | ⟨hwelcomes, hconcludes⟩
    · refine .inl ⟨err, by rw [hstep, hfails]; rfl, ?_⟩
      rcases hread with heq | ⟨hstatus, hreads⟩
      · rwa [← heq]
      · exact absurd hrefuses (Expectation.Welcomes.of_accepted hstatus hreads).not_refuses
    · refine .inr ⟨?_, ?_⟩
      · rcases hread with heq | ⟨hstatus, hreads⟩
        · rwa [← heq]
        · exact .of_accepted hstatus hreads
      · obtain ⟨r, w', hrun, hmissing⟩ := hconcludes.exists_run (s.caller c) w
        rw [hstep, hrun]
        cases r with
        | ok a => exact .inl ⟨a, rfl⟩
        | error err => exact .inr ⟨err, rfl, hmissing err rfl⟩

end Step.Hears

/-- A management call that hears a whole reply comes back with the status and the whole body, as an
error, if it does not accept the status; if it does and reads the body, with the error that the body
reports, or else with a complaint about a body that is not of the expected shape.  There is an answer
only to a reply that is as expected, and to such a reply there always is, unless something that was
asked for is not in it. -/
theorem classified_reply (hcall : call.IsManagement)
    (hheard : s.Hears c connected st call status body) :
    ∃ e, c.backend.expects? call = some e ∧
      let result := (step c connected s st).1.result
      (status ∉ e.accepts → result.Fails fun err =>
        ∃ context, err.root = .api context status (Utf8.lossyString body)) ∧
      (status ∈ e.accepts → e.reads = true →
        (∀ reported, e.Reports body reported → result.Fails fun err =>
          ∃ action code text id, err.root = .service action code text id) ∧
        ((∀ reported, ¬ e.Reports body reported) → ¬ e.Fits body →
          result.Fails Error.IsMalformed)) ∧
      (∀ a, result = .answer a → e.Welcomes status body) ∧
      (e.Welcomes status body →
        (∃ a, result = .answer a) ∨ result.Fails Error.IsMissing) := by
  obtain ⟨e, hexpects⟩ := hheard.exists_expects hcall
  refine ⟨e, hexpects, ?_⟩
  intro result
  rcases hheard.cases hexpects with ⟨err, hresult, hrefuses⟩ | ⟨hwelcomes, hresult⟩
  case inl =>
    have hfails {P : Error → Prop} (h : P err) : result.Fails P := ⟨err, hresult, h⟩
    refine ⟨?_, fun hstatus _ => ⟨?_, ?_⟩, ?_, ?_⟩
    · exact fun hstatus => hfails (hrefuses.of_not_accepted hstatus)
    · exact fun reported hreports => hfails (hrefuses.of_reports hstatus hreports)
    · exact fun hsilent _ => hfails (hrefuses.of_silent hstatus hsilent)
    · exact fun a ha => nomatch hresult.symm.trans ha
    · exact fun hwelcomes => absurd hrefuses hwelcomes.not_refuses
  case inr =>
    refine ⟨?_, fun _ hreads => ⟨?_, ?_⟩, ?_, ?_⟩
    · exact fun hstatus => absurd hwelcomes.accepted hstatus
    · exact fun reported hreports => absurd hreports (hwelcomes.silent hreads reported)
    · exact fun _ hmisfits => absurd (hwelcomes.fits hreads) hmisfits
    · exact fun _ _ => hwelcomes
    · exact fun _ => hresult

/-- A valid reply to a deletion with a status that stands for an error. -/
theorem classified_reply_unavailable :
    let body : List UInt8 := Utf8.encode (replyText (Value.object []).toText)
    let deletion : Step :=
      ⟨.call (.deleteTool "t"), [⟨false, 0, .answer 503 [⟨0, body⟩] .complete⟩], none, none, none⟩
    (envelopeOf unitShape).Fits body ∧
      (step ⟨.cloud plain, none⟩ true deletion ⟨.empty, false⟩).1.result.Fails fun err =>
        ∃ context, err.root = .api context 503 (Utf8.lossyString body) := by
  intro body deletion
  have hbody : [(⟨0, body⟩ : Chunk)].flatMap (·.bytes) = body := List.flatMap_singleton _ _
  have hfits : (envelopeOf unitShape).Fits body := by
    have hempty : (Value.object []).Fits (maxNesting - 1) :=
      .object fun m hm => absurd hm List.not_mem_nil
    exact ⟨_, documentOf?_replyText hempty, _,
      (responseOfDocument?_eq_some_iff _ _).1 (responseOfDocument?_ofValue _),
      (decides_unit _).1 rfl⟩
  obtain ⟨value, next, hsends⟩ : ∃ value next,
      (⟨.cloud plain, none⟩ : Client).backend.action (.deleteTool "t") =
        .send ⟨plain.request "DeleteSandboxTool" value, none, fun _ => .body []⟩ next :=
    ⟨_, _, rfl⟩
  have hwritable : (plain.request "DeleteSandboxTool" value).isWritable = true :=
    plain.isWritable_request (by decide +kernel) (by decide) value
  have hreceived : deletion.Receives ⟨.cloud plain, none⟩ true ⟨.empty, false⟩ (.deleteTool "t") 503
      ([(⟨0, body⟩ : Chunk)].flatMap (·.bytes)) :=
    Step.receives_of_patient rfl hsends hwritable (fun _ => rfl) rfl rfl rfl rfl
  have hheard : deletion.Hears ⟨.cloud plain, none⟩ true ⟨.empty, false⟩ (.deleteTool "t") 503
      ([(⟨0, body⟩ : Chunk)].flatMap (·.bytes)) :=
    .intro hreceived rfl
  rw [hbody] at hheard
  have hcall : (Call.deleteTool "t").IsManagement := trivial
  obtain ⟨e, hexpects, hrefused, -⟩ := classified_reply hcall hheard
  cases hexpects
  exact ⟨hfits, hrefused (by decide)⟩

/-- A body that is not UTF-8, and so no JSON text, is answered like any other if the bytes that are
no character stand in a member that nobody reads. -/
theorem answered_beside_ill_formed :
    let body : List UInt8 :=
      Utf8.encode "[\x7b\"sandboxID\":\"a\",\"x\":\"" ++ 0xFF :: Utf8.encode "\"\x7d]"
    let call : Call := .listInstances ⟨[], none, none, none, none⟩
    let listing : Step := .answered call body
    Utf8.decodeStrict? body = none ∧
      listing.Hears ⟨.e2b plainService, none⟩ true ⟨.empty, false⟩ call 200 body ∧
      ∃ a, (step ⟨.e2b plainService, none⟩ true listing ⟨.empty, false⟩).1.result = .answer a := by
  intro body call listing
  have hheard : listing.Hears ⟨.e2b plainService, none⟩ true ⟨.empty, false⟩ call 200
      ([(⟨0, body⟩ : Chunk)].flatMap (·.bytes)) :=
    .intro (Step.receives_directory _ body) rfl
  rw [List.flatMap_singleton] at hheard
  refine ⟨by decide +kernel, hheard, ?_⟩
  have hids : (step ⟨.e2b plainService, none⟩ true listing
      ⟨.empty, false⟩).1.result.instances.map (·.id) = ["a"] := by
    decide +kernel
  cases hresult : (step ⟨.e2b plainService, none⟩ true listing ⟨.empty, false⟩).1.result with
  | answer a => exact ⟨a, rfl⟩
  | _ =>
    rw [hresult] at hids
    cases hids

end Session

end AgentSandbox

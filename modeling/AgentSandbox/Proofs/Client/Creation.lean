import AgentSandbox.Proofs.Client.Receiving
import AgentSandbox.Proofs.Cloud.Creation

/-!
# Tools that come back

A call that makes a tool gives the tool of its options with the id in the reply, whatever of it the
request could say (`Session.created_tool`).  A client that looks up the record of what was sent gets
the tool as it is settled: a private network outside the mode that uses one, an empty role or
endpoint and a mode that its name does not mean are told when the tool is made, and never again.
-/

namespace AgentSandbox.Session

open Cloud Json

section

variable {b : CloudBackend} {limit : Option Nat} {connected : Bool} {s : Step} {st : State}
  {c : ToolCreation} {id : String}

/-- A call to make a tool gives the tool of the options with the id in the reply. -/
theorem Step.Receives.createTool {body : List UInt8} {d : Document}
    (hreceived : s.Receives ⟨.cloud b, limit⟩ connected st (.createTool c) 200 body)
    (hd : documentOf? body = some d) (herror : IsErrorFree d)
    (hid : openDocument? toolIdOfDocument? d = some id) :
    (step ⟨.cloud b, limit⟩ connected s st).1.result =
        .answer (.tool (CloudBackend.madeTool c id)) ∧
      (step ⟨.cloud b, limit⟩ connected s st).1.sent =
        [b.request "CreateSandboxTool" (toolCreationBody c).toText] := by
  obtain ⟨q, next, received, w, hsends, hbytes, hsent, hstep⟩ := hreceived.step_eq
  obtain ⟨hname, htype⟩ := CloudBackend.named_of_sends hsends
  cases (b.cloudAction_createTool hname htype).symm.trans hsends
  subst hbytes
  simp only [CloudBackend.madeBy_of_open c hd herror hid] at hstep
  rw [hstep]
  exact ⟨rfl, hsent fun _ => rfl⟩

/-- A call for a tool gives the tool that was made, as it is settled, if the record of the request
that made it is listed. -/
theorem Step.Receives.getTool {id' : String}
    (hreceived : s.Receives ⟨.cloud b, limit⟩ connected st (.getTool id') 200
      (listing (keptRecord (toolCreationBody c) id))) :
    (step ⟨.cloud b, limit⟩ connected s st).1.result =
      .answer (.tool (CloudBackend.madeTool c id).settled) := by
  obtain ⟨q, next, received, w, hsends, hbytes, -, hstep⟩ := hreceived.step_eq
  cases (b.cloudAction_getTool id').symm.trans hsends
  simp only [CloudBackend.lookedUp_keptRecord c id id' hbytes] at hstep
  rw [hstep]
  rfl

/-- A call to make a tool gives the tool of the options, with the id in the reply, and sends the one
request to make it.  Whoever looks up the record of this request with the id gets the tool as it is
settled, which is the tool that was given just if the request could say all of it. -/
theorem created_tool {body : List UInt8} {d : Document}
    (hreceived : s.Receives ⟨.cloud b, limit⟩ connected st (.createTool c) 200 body)
    (hd : documentOf? body = some d) (herror : IsErrorFree d)
    (hid : openDocument? toolIdOfDocument? d = some id) :
    ∃ t, (step ⟨.cloud b, limit⟩ connected s st).1.result = .answer (.tool t) ∧
      t = CloudBackend.madeTool c id ∧
      (step ⟨.cloud b, limit⟩ connected s st).1.sent =
        [b.request "CreateSandboxTool" (toolCreationBody c).toText] ∧
      (∀ (b' : CloudBackend) (limit' : Option Nat) (connected' : Bool) (s' : Step) (st' : State)
        (id' : String),
        s'.Receives ⟨.cloud b', limit'⟩ connected' st' (.getTool id') 200
          (listing (keptRecord (toolCreationBody c) id)) →
        (step ⟨.cloud b', limit'⟩ connected' s' st').1.result = .answer (.tool t.settled)) ∧
      (t.settled = t ↔ t.IsSettled) := by
  obtain ⟨hresult, hsent⟩ := hreceived.createTool hd herror hid
  exact ⟨_, hresult, rfl, hsent, fun _ _ _ _ _ _ hreceived' => hreceived'.getTool,
    Tool.settled_eq_iff⟩

end

/-- The reply to a request to make a tool that gives it an id. -/
def madeReply (id : String) : List UInt8 := Utf8.encode (replyText (toolBody id).toText)

theorem Step.receives_madeReply {c : ToolCreation} (id : String) (hname : c.name ≠ "")
    (htype : c.toolType ≠ "") :
    (answered (.createTool c) (madeReply id)).Receives ⟨.cloud plain, none⟩ true ⟨.empty, false⟩
      (.createTool c) 200 (madeReply id) :=
  receives_answered _ (plain.cloudAction_createTool hname htype) (by decide)

theorem exists_madeReply (id : String) :
    ∃ d, documentOf? (madeReply id) = some d ∧ IsErrorFree d ∧
      openDocument? toolIdOfDocument? d = some id := by
  have hfits : (toolBody id).Fits (maxNesting - 1) :=
    .object (List.forall_mem_singleton.2 (Value.fits_text id))
  exact ⟨_, documentOf?_replyText hfits, isErrorFree_ofValue rfl, rfl⟩

/-- A tool in its private network comes back with the empty role that was asked for; its record has
the network and no role. -/
theorem created_tool_empty_role :
    let c : ToolCreation :=
      ⟨"t", "x", none, some .vpc, some ⟨["s"], []⟩, none, .empty, some "", []⟩
    let making : Step := .answered (.createTool c) (madeReply "1")
    ∃ t, (step ⟨.cloud plain, none⟩ true making ⟨.empty, false⟩).1.result = .answer (.tool t) ∧
      t.vpcConfig = some ⟨["s"], []⟩ ∧ t.settled.vpcConfig = some ⟨["s"], []⟩ ∧
      t.roleArn = some "" ∧ t.settled.roleArn = none ∧ t.settled ≠ t := by
  intro c making
  have hreceived : making.Receives ⟨.cloud plain, none⟩ true ⟨.empty, false⟩ (.createTool c) 200
      (madeReply "1") := Step.receives_madeReply "1" (by decide) (by decide)
  obtain ⟨d, hd, herror, hid⟩ := exists_madeReply "1"
  obtain ⟨t, hresult, rfl, -, -, hsettled⟩ := created_tool hreceived hd herror hid
  refine ⟨_, hresult, rfl, rfl, rfl, rfl, fun h => ?_⟩
  exact absurd rfl (hsettled.1 h).role

/-- A private network that is not sent comes back all the same, and is gone when the tool is looked
up. -/
theorem unsent_network_told :
    let c : ToolCreation := ⟨"t", "x", none, none, some ⟨["s"], []⟩, none, .empty, none, []⟩
    let making : Step := .answered (.createTool c) (madeReply "1")
    let lookup : Step := .answered (.getTool "1") (listing (keptRecord (toolCreationBody c) "1"))
    ∃ t t', (step ⟨.cloud plain, none⟩ true making ⟨.empty, false⟩).1.result = .answer (.tool t) ∧
      (step ⟨.cloud plain, none⟩ true making ⟨.empty, false⟩).1.sent =
        [plain.request "CreateSandboxTool" (toolCreationBody c).toText] ∧
      (step ⟨.cloud plain, none⟩ true lookup ⟨.empty, false⟩).1.result = .answer (.tool t') ∧
      t.vpcConfig = some ⟨["s"], []⟩ ∧ t'.vpcConfig = none := by
  intro c making lookup
  have hreceived : making.Receives ⟨.cloud plain, none⟩ true ⟨.empty, false⟩ (.createTool c) 200
      (madeReply "1") := Step.receives_madeReply "1" (by decide) (by decide)
  have hreceived' : lookup.Receives ⟨.cloud plain, none⟩ true ⟨.empty, false⟩ (.getTool "1") 200
      (listing (keptRecord (toolCreationBody c) "1")) :=
    Step.receives_answered _ (plain.cloudAction_getTool "1") (by decide)
  obtain ⟨d, hd, herror, hid⟩ := exists_madeReply "1"
  obtain ⟨hresult, hsent⟩ := hreceived.createTool hd herror hid
  exact ⟨_, _, hresult, hsent, hreceived'.getTool, rfl, rfl⟩

end AgentSandbox.Session

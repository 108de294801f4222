import AgentSandbox.Proofs.Client.Receiving
import AgentSandbox.Proofs.Cloud.Carrying
import AgentSandbox.Proofs.Cloud.Reporting

/-!
# Errors that come back

A call whose first reply has a response with a member `Error` ends with an error, and sends nothing
more (`Session.reported_error`).  So a member that says nothing, `null`, makes an error without code
and text out of a call that would have succeeded without it, and a code of `null` takes the text of
the error with it (`Session.null_errors`).
-/

namespace AgentSandbox.Session

open Cloud Json

variable {b : CloudBackend} {limit : Option Nat} {connected : Bool} {s : Step} {st : State}
  {call : Call} {body : List UInt8} {d : Document}

/-- A call ends with the error that its first reply reports. -/
theorem Step.Receives.reports {e : Error}
    (hreceived : s.Receives ⟨.cloud b, limit⟩ connected st call 200 body)
    (hreports : ∀ received : Received, received.bytes = body →
      (Outcome.reply 200 received none).Reports (purpose call).2 e) :
    (step ⟨.cloud b, limit⟩ connected s st).1.result =
        .error (.inContext (purpose call).1 e) ∧
      ∃ value, (step ⟨.cloud b, limit⟩ connected s st).1.sent =
        [b.request (purpose call).2 value] := by
  obtain ⟨q, next, received, w, hsends, hbytes, hsent, hstep⟩ := hreceived.step_eq
  have hfails := b.failsAs_cloudAction call
  have hsends : Backend.cloudAction b call = .send q next := hsends
  rw [hsends] at hfails
  cases hfails with
  | send value fails =>
    rw [fails _ _ (hreports received hbytes)] at hstep
    rw [hstep]
    exact ⟨rfl, value, hsent fun _ => rfl⟩

/-- A tool is deleted if the reply reports no error and is of the expected form. -/
theorem Step.Receives.deleteTool {id : String}
    (hreceived : s.Receives ⟨.cloud b, limit⟩ connected st (.deleteTool id) 200 body)
    (hd : documentOf? body = some d) (herror : IsErrorFree d)
    (hunit : openDocument? unitOfDocument? d = some ()) :
    (step ⟨.cloud b, limit⟩ connected s st).1.result = .answer .done := by
  obtain ⟨q, next, received, w, hsends, rfl, -, hstep⟩ := hreceived.step_eq
  have hrecord : CloudBackend.recordOf "DeleteSandboxTool" unitOfDocument?
      (.reply 200 received none) = .ok () := by
    rw [openResponse_whole _ received hd herror, hunit]
  cases hsends
  simp only [hrecord] at hstep
  rw [hstep]
  rfl

/-- A call whose first reply has a response with a member `Error` ends with an error and sends nothing
more.  The code, the text and the id of the request are those that are given; each is empty if it is
not given, but the code and the text are both empty if either of them is given and is no text. -/
theorem reported_error {ms : List (String × Value)} {reported : Value}
    (hreceived : s.Receives ⟨.cloud b, limit⟩ connected st call 200 body)
    (hd : documentOf? body = some d) (hresponse : responseOfDocument? d = some (.object ms))
    (hreported : lookup? "Error" ms = some reported) :
    ∃ code text id value,
      (step ⟨.cloud b, limit⟩ connected s st).1.result =
        .error (.inContext (purpose call).1 (.service (purpose call).2 code text id)) ∧
      (step ⟨.cloud b, limit⟩ connected s st).1.sent = [b.request (purpose call).2 value] ∧
      (∀ es, reported = .object es →
        (∀ c t, textAt? "Code" es = some c → textAt? "Message" es = some t →
          code = c ∧ text = t) ∧
        (textAt? "Code" es = none ∨ textAt? "Message" es = none → code = "" ∧ text = "")) ∧
      ((∀ es, reported ≠ .object es) → (∀ vs, reported ≠ .list vs) → code = "" ∧ text = "") ∧
      (∀ r, lookup? "RequestId" ms = some (.text r) → id = r) ∧
      ((∀ r, lookup? "RequestId" ms ≠ some (.text r)) → id = "") := by
  obtain ⟨hresult, value, hsent⟩ := hreceived.reports fun received hbytes =>
    recordOf_reported _ (hbytes ▸ hd) hresponse hreported
  refine ⟨_, _, _, value, hresult, hsent, ?_, fun hobject hlist => ?_, fun r hr => ?_, fun hr => ?_⟩
  · rintro es rfl
    have hordered : (Value.object es).IsOrdered := by
      cases isOrdered_response hd hresponse with
      | object _ hmembers => exact hmembers _ (mem_of_lookup? hreported)
    obtain ⟨hgiven, hlost⟩ := reportedError_object hordered
    refine ⟨fun c t hc ht => ?_, fun hnone => ?_⟩
    · rw [hgiven c t hc ht]
      exact ⟨rfl, rfl⟩
    · rw [hlost hnone]
      exact ⟨rfl, rfl⟩
  · rw [reportedError_scalar hobject hlist]
    exact ⟨rfl, rfl⟩
  · have hid : (Value.object ms).member? "RequestId" = some (.text r) := hr
    rw [requestId, hid]
    rfl
  · unfold requestId
    have hid (r : String) : (Value.object ms).member? "RequestId" ≠ some (.text r) := hr r
    cases hmember : (Value.object ms).member? "RequestId" with
    | none => rfl
    | some v =>
      cases v with
      | text r => exact absurd hmember (hid r)
      | _ => rfl

/-- A code without a text, in a reply to the request for a token. -/
theorem reported_error_code :
    let v : Value :=
      .object [("Error", .object [("Code", .text "C")]), ("RequestId", .text "1")]
    let running : Step := .answered (.execute "a" "1" "") (Utf8.encode (replyText v.toText))
    (step ⟨.cloud plain, none⟩ true running ⟨.empty, false⟩).1.result =
        .error (.inContext "failed to acquire instance token"
          (.service "AcquireSandboxInstanceToken" "C" "" "1")) ∧
      ∃ value, (step ⟨.cloud plain, none⟩ true running ⟨.empty, false⟩).1.sent =
        [plain.request "AcquireSandboxInstanceToken" value] := by
  intro v running
  have hreceived : running.Receives ⟨.cloud plain, none⟩ true ⟨.empty, false⟩
      (.execute "a" "1" "") 200 (Utf8.encode (replyText v.toText)) :=
    Step.receives_answered _ rfl (by decide)
  have hfits : v.Fits (124 + 2) := by simp [v]
  obtain ⟨code, text, id, value, hresult, hsent, hobject, -, hid, -⟩ :=
    reported_error hreceived (documentOf?_replyText hfits) (responseOfDocument?_ofValue v) rfl
  obtain ⟨rfl, rfl⟩ := (hobject _ rfl).1 "C" "" rfl rfl
  obtain rfl := hid "1" rfl
  exact ⟨hresult, value, hsent⟩

/-- A tool that was deleted is reported as an error if the response has `null` for its error, and a
code of `null` takes the text of an error with it. -/
theorem null_errors :
    let result (v : Value) : Result :=
      (step ⟨.cloud plain, none⟩ true
        (.answered (.deleteTool "t") (Utf8.encode (replyText v.toText))) ⟨.empty, false⟩).1.result
    let failure : Error :=
      .inContext "failed to delete tool" (.service "DeleteSandboxTool" "" "" "1")
    result (.object [("RequestId", .text "1")]) = .answer .done ∧
      result (.object [("Error", .null), ("RequestId", .text "1")]) = .error failure ∧
      result (.object [("Error", .object [("Code", .null), ("Message", .text "in use")]),
        ("RequestId", .text "1")]) = .error failure := by
  intro result failure
  have hreceived (body : List UInt8) :
      (Step.answered (.deleteTool "t") body).Receives ⟨.cloud plain, none⟩ true ⟨.empty, false⟩
        (.deleteTool "t") 200 body :=
    Step.receives_answered body rfl (by decide)
  have hfailure {v reported : Value} {ms : List (String × Value)} (hfits : v.Fits (124 + 2))
      (hv : v.sorted = .object ms) (hreported : lookup? "Error" ms = some reported)
      (hempty : reportedError reported = ⟨"", ""⟩) (hid : requestId (.object ms) = "1") :
      result v = .error failure := by
    refine ((hreceived _).reports fun received hbytes => ?_).1
    have hreports := recordOf_reported "DeleteSandboxTool" (hbytes ▸ documentOf?_replyText hfits)
      (hv ▸ responseOfDocument?_ofValue v) hreported
    rwa [hempty, hid] at hreports
  refine ⟨?_, ?_, ?_⟩
  · have hfits : (Value.object [("RequestId", .text "1")]).Fits (124 + 2) := by simp
    exact (hreceived _).deleteTool (documentOf?_replyText hfits) (isErrorFree_ofValue rfl) rfl
  · exact hfailure (by simp) rfl rfl rfl rfl
  · exact hfailure (by simp) rfl rfl rfl rfl

end AgentSandbox.Session

import AgentSandbox.Proofs.Client.Lookup
import AgentSandbox.Proofs.Cloud.Querying
import AgentSandbox.Proofs.Cloud.Updating

/-!
# Changing a tool that was looked up

An update of a tool is sent with what it has, and nothing else.  Who looks up a tool and sends its
mode and its tags back sends the mode that was reported, whether it is known or not, and the last
reported tag of each key (`Session.updated_tool`).
-/

namespace AgentSandbox

open Cloud Json

namespace Session

section

variable {b : CloudBackend} {limit : Option Nat} {connected : Bool} {s : Step} {st : State}
  {id : String} {body : List UInt8} {response record : Value} {rest : List Value} {mode : String}
  {tags : List (String × String)}

/-- A call for a tool gives the tool that is decoded of the first record of the response. -/
theorem Step.Receives.getTool_reported
    (h : s.Receives ⟨.cloud b, limit⟩ connected st (.getTool id) 200 body)
    (hresponse : IsEnvelope body response)
    (hpage : toolPageShape.Holds (.ofValue (recordIn response)))
    (hset : field? toolPageShape "SandboxToolSet" (recordIn response) = some (.list (record :: rest)))
    (hreports : Reports record mode tags) (hne : mode ≠ "") :
    ∃ t, (step ⟨.cloud b, limit⟩ connected s st).1.result = .answer (.tool t) ∧
      t.networkMode = .ofName mode ∧ t.tags = .ofList tags := by
  have haction : Backend.cloudAction b (.getTool id) = _ :=
    (Backend.action_getTool b id).trans ((b.listTools (.one id)).bind_assoc _ _)
  have hordered := isOrdered_recordIn hresponse.isOrdered
  obtain ⟨page, hdecoded⟩ := Option.isSome_iff_exists.1 ((decides_toolPage _).2 hpage)
  obtain ⟨t, ts, htools, ht⟩ := toolPageOfDocument?_listed hordered hset hdecoded
  obtain ⟨w, hstep⟩ := h.goesOn haction hresponse
  have hrecord : record.IsOrdered := by
    cases isOrdered_field? hordered hset with
    | list h => exact h record List.mem_cons_self
  obtain ⟨hmode, htags⟩ := toolOfDocument?_reported hrecord hreports hne ht
  refine ⟨t, ?_, hmode, htags⟩
  obtain ⟨tools, totalCount⟩ := page
  cases htools
  rw [hstep, hdecoded]
  rfl

end

/-- The body of an update has the id and what the update has, which is read back from its text, and
it is sent in one request.  Who looks up a tool, of which a mode that is not empty and tags with keys
and values are reported, and then sends its mode and its tags back sends the reported mode and, for
each key, the last reported tag. -/
theorem updated_tool :
    (∀ u : ToolUpdate,
      toolUpdateBody u = .object ([("ToolId", .text u.toolId)] ++
        (u.description.map fun s => ("Description", Value.text s)).toList ++
        (u.networkMode.map fun mode => ("NetworkConfiguration", sentMode mode.name)).toList ++
        (u.tags.map fun tags => ("Tags", sentTags tags.entries)).toList) ∧
      ((∀ mode ∈ u.networkMode, ∃ s, mode = .ofName s) →
        ∃ d v, documentOf? (Utf8.encode (toolUpdateBody u).toText) = some d ∧ d.value? = some v ∧
          updateOf v = u) ∧
      ∀ b : CloudBackend, (Backend.cloudAction b (.updateTool u)).SendsOnce
        (b.request "UpdateSandboxTool" (toolUpdateBody u).toText)) ∧
    ∀ {b : CloudBackend} {limit : Option Nat} {connected : Bool} {s : Step} {st : State}
      {id : String} {body : List UInt8} {response record : Value} {rest : List Value}
      {mode : String} {tags : List (String × String)},
      s.Receives ⟨.cloud b, limit⟩ connected st (.getTool id) 200 body → IsEnvelope body response →
      toolPageShape.Holds (.ofValue (recordIn response)) →
      field? toolPageShape "SandboxToolSet" (recordIn response) = some (.list (record :: rest)) →
      Reports record mode tags → mode ≠ "" →
      ∃ t sent, (step ⟨.cloud b, limit⟩ connected s st).1.result = .answer (.tool t) ∧
        Increasing sent ∧
        (∀ key value, (key, value) ∈ sent ↔ lookup? key tags.reverse = some value) ∧
        ∀ u : ToolUpdate, u.networkMode = some t.networkMode → u.tags = some t.tags →
          toolUpdateBody u = .object ([("ToolId", .text u.toolId)] ++
            (u.description.map fun s => ("Description", Value.text s)).toList ++
            [("NetworkConfiguration", sentMode mode), ("Tags", sentTags sent)]) := by
  refine ⟨fun u => ⟨toolUpdateBody_eq u, fun hmode => ?_, fun b => ?_⟩, ?_⟩
  · have hfits : (toolUpdateBody u).Fits maxNesting := fits_update u
    exact ⟨_, _, documentOf?_toText hfits, Document.value?_ofValue_sorted _, updateOf_sorted hmode⟩
  · exact (sendsOnce_call b _ _ _ _).map _
  · intro b limit connected s st id body response record rest mode tags h hresponse hpage hset
      hreports hne
    obtain ⟨t, hresult, hmode, htags⟩ := h.getTool_reported hresponse hpage hset hreports hne
    refine ⟨t, (Dictionary.ofList tags).entries, hresult, (Dictionary.ofList tags).increasing,
      fun _ _ => Dictionary.mem_entries_ofList_iff, fun u hu hu' => ?_⟩
    rw [toolUpdateBody_eq, hu, hu', hmode, htags]
    simp only [Option.map_some, Option.toList_some, NetworkMode.name_ofName, List.append_assoc]
    rfl

/-- A tool in a mode that is not known, two of its tags with the same key, and an update that empties
the description. -/
theorem updated_tool_unknown_mode :
    let record : Value := .object [("NetworkConfiguration", sentMode "vpc"),
      ("Tags", sentTags [("b", "1"), ("a", ""), ("b", "2")])]
    let u (mode : NetworkMode) (tags : Option (Dictionary String)) : ToolUpdate :=
      ⟨"t", some "", some mode, tags⟩
    (∃ d v, documentOf? (Utf8.encode (toolUpdateBody (u (.ofName "vpc") none)).toText) = some d ∧
      d.value? = some v ∧ updateOf v = u (.ofName "vpc") none) ∧
    ∃ t sent, (step ⟨.cloud plain, none⟩ true (.answered (.getTool "t") (listing record))
        ⟨.empty, false⟩).1.result = .answer (.tool t) ∧
      (∀ key value, (key, value) ∈ sent ↔
        lookup? key [("b", "2"), ("a", ""), ("b", "1")] = some value) ∧
      toolUpdateBody (u t.networkMode (some t.tags)) =
        .object [("ToolId", .text "t"), ("Description", .text ""),
          ("NetworkConfiguration", sentMode "vpc"), ("Tags", sentTags sent)] := by
  intro record u
  refine ⟨(updated_tool.1 _).2.1 (by rintro _ ⟨⟩; exact ⟨_, rfl⟩), ?_⟩
  have hfits : (Value.object [("SandboxToolSet", .list [record])]).Fits (124 + 2) := by
    simp [record, sentMode, sentTags]
  have henvelope : IsEnvelope (listing record)
      (Value.object [("SandboxToolSet", .list [record])]).sorted := by
    rw [listing, listingText_toText]
    exact ⟨_, documentOf?_replyText hfits, responseOfDocument?_ofValue _, rfl⟩
  have hreceived : (Step.answered (.getTool "t") (listing record)).Receives ⟨.cloud plain, none⟩ true
      ⟨.empty, false⟩ (.getTool "t") 200 (listing record) :=
    Step.receives_answered _ (plain.cloudAction_getTool "t") (by decide)
  have hpage : toolPageShape.Holds
      (.ofValue (recordIn (Value.object [("SandboxToolSet", .list [record])]).sorted)) :=
    (decides_toolPage _).1 rfl
  have hreports : Reports record.sorted "vpc" [("b", "1"), ("a", ""), ("b", "2")] :=
    ⟨⟨sentMode "vpc", rfl, rfl⟩, rfl⟩
  obtain ⟨t, sent, hresult, -, hsent, hbody⟩ :=
    updated_tool.2 hreceived henvelope hpage rfl hreports (by decide)
  exact ⟨t, sent, hresult, hsent, hbody _ rfl rfl⟩

end Session

end AgentSandbox

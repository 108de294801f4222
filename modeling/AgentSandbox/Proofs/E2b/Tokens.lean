import AgentSandbox.Proofs.E2b.Actions
import AgentSandbox.Proofs.Text.Blank

/-!
# The tokens of the REST backend

The only calls that change the remembered tokens are those that make and delete an instance, and
they do so only when they have a result: the change is the last thing they do
(`run_createInstance`, `run_deleteInstance`).
-/

namespace AgentSandbox

open E2b Json

/-- The sandbox that a reply reports, if its body came whole and is the record of one. -/
def Reply.created? (r : Reply) : Option Created :=
  match r.response with
  | .answer _ chunks .complete =>
    (documentOf? (chunks.flatMap (·.bytes))).bind Created.ofDocument?
  | _ => none

/-- What a reply reports of a sandbox is not empty. -/
theorem Reply.ne_empty_of_created? {r : Reply} {made : Created} (h : r.created? = some made) :
    made.id ≠ some "" ∧ made.token ≠ some "" := by
  have hdoc {d : Document} (hd : Created.ofDocument? d = some made) :
      made.id ≠ some "" ∧ made.token ≠ some "" := by
    simp only [Created.ofDocument?, Option.bind_eq_bind, Option.bind_eq_some_iff,
      Option.some.injEq] at hd
    obtain ⟨fs, -, id, -, token, -, rfl⟩ := hd
    exact ⟨Text.nonEmpty_ne id, Text.nonEmpty_ne token⟩
  unfold created? at h
  split at h
  · obtain ⟨d, -, hd⟩ := Option.bind_eq_some_iff.1 h
    exact hdoc hd
  · cases h

namespace E2bBackend

variable {c : Caller} {w w' : World}

/-! ## Making and deleting -/

/-- The content that an errand reads comes from the reply that the service had ready. -/
theorem content_of_run {b : E2bBackend} {e : Errand} {id : Option String} {body : String}
    {content : Content} (h : (b.run e id body).run c w = (.finished (.ok content), w'))
    (hreads : e.reads = true) (hcut : content.cut = none) :
    ∃ replies status chunks, w.link = .up replies ∧ e.accepts.contains status ∧
      (World.nextReply replies).1.response = .answer status chunks .complete ∧
      content.received.bytes = chunks.flatMap (·.bytes) := by
  have hreception (status : Nat) : e.reception status = .body [] := by
    simp [Errand.reception, hreads]
  unfold run at h
  split at h
  · cases h
  · simp only [Action.run] at h
    split at h
    · next o w₁ ho =>
      obtain ⟨status, rfl, ha⟩ := Outcome.accepted_eq_ok (Ending.finished.inj (Prod.mk.inj h).1)
      rw [hcut] at ho
      obtain ⟨replies, chunks, ending, hlink, hresponse, hend, hreceived⟩ :=
        World.exchange_whole ho
      simp only [hreception, reduceCtorEq, false_or] at hend hreceived
      rw [Received.whole_body, List.nil_append] at hreceived
      refine ⟨replies, status, chunks, hlink, ha, hend ▸ hresponse, by rw [hreceived]; rfl⟩
    all_goals cases h

/-- The tokens with that of a new sandbox, if it was given one. -/
def remember (id : String) (token : Option String) (tokens : TokenCache) : TokenCache :=
  match token with
  | some t => tokens.insert id t
  | none => tokens

/-- A sandbox of which the content of a reply speaks is the one that the service had ready. -/
theorem created?_of_run {b : E2bBackend} {body : String} {content : Content} {made : Created}
    (h : (b.run createErrand none body).run c w = (.finished (.ok content), w'))
    (hmade : content.decode "create instance" Created.ofDocument? = .ok made) :
    ∃ reply replies, w.link = .up (reply :: replies) ∧ reply.created? = some made := by
  obtain ⟨hcut, hmade⟩ := Content.decode_eq_ok hmade
  obtain ⟨replies, status, chunks, hlink, haccepts, hresponse, hbytes⟩ := content_of_run h rfl hcut
  cases replies with
  | nil =>
    -- an unprepared service does not accept
    cases hresponse
    exact absurd haccepts (by decide)
  | cons reply replies =>
    change reply.response = _ at hresponse
    refine ⟨reply, replies, hlink, ?_⟩
    rw [hbytes] at hmade
    rwa [Reply.created?, hresponse]

/-- What making an instance does with the record of it. -/
def keep (b : E2bBackend) (creation : InstanceCreation) : Created → Action Instance
  | ⟨none, _⟩ => .fail (.incomplete "create instance" "sandboxID")
  | ⟨some id, none⟩ => pure (b.created creation id none)
  | ⟨some id, some token⟩ => do
    .insertToken id token
    pure (b.created creation id (some token))

theorem createInstance_eq (b : E2bBackend) (creation : InstanceCreation) :
    b.createInstance creation =
      (b.run createErrand none (creationBody creation).toText).bind fun content =>
        (Action.done (content.decode "create instance" Created.ofDocument?)).bind
          (b.keep creation) := by
  simp only [createInstance, Bind.bind]
  congr 1
  funext content
  congr 1
  funext made
  rcases made with ⟨_ | id, _ | token⟩
  · rfl
  · rfl
  · rfl
  · rfl

theorem run_keep (b : E2bBackend) (creation : InstanceCreation) (id : String)
    (token : Option String) (w : World) :
    (b.keep creation ⟨some id, token⟩).run c w =
      (.finished (.ok (b.created creation id token)),
        { w with tokens := remember id token w.tokens }) := by
  cases token <;> rfl

/-- An instance that is made is the one of the reply, and its token is remembered; without it the
tokens are not changed. -/
theorem run_createInstance (b : E2bBackend) (c : Caller) (creation : InstanceCreation) (w : World) :
    (∃ reply replies id token, w.link = .up (reply :: replies) ∧
      reply.created? = some ⟨some id, token⟩ ∧
      ((b.createInstance creation).run c w).1 = .finished (.ok (b.created creation id token)) ∧
      ((b.createInstance creation).run c w).2.tokens = remember id token w.tokens) ∨
    ((b.createInstance creation).run c w).1.ok? = none ∧
      ((b.createInstance creation).run c w).2.tokens = w.tokens := by
  have htokens := Action.tokens_run (c := c)
    (within_run Action.IsLookUp b createErrand none (creationBody creation).toText) w
  rw [createInstance_eq]
  rcases Action.run_bind_cases c _ _ w with ⟨content, w₁, hrun, h⟩ | ⟨hnone, hw⟩
  · rw [hrun] at htokens
    rw [h, ← htokens]
    rcases hmade : content.decode "create instance" Created.ofDocument? with e | ⟨_ | id, token⟩
    · exact .inr ⟨rfl, rfl⟩
    · exact .inr ⟨rfl, rfl⟩
    · obtain ⟨reply, replies, hlink, hcreated⟩ := created?_of_run hrun hmade
      have hkeep : ((Action.done (.ok ⟨some id, token⟩)).bind (b.keep creation)).run c w₁ = _ :=
        run_keep b creation id token w₁
      rw [hkeep]
      exact .inl ⟨reply, replies, id, token, hlink, hcreated, rfl, rfl⟩
  · exact .inr ⟨hnone, by rw [hw, htokens]⟩

theorem deleteInstance_eq (b : E2bBackend) (id : String) :
    b.deleteInstance id =
      (b.run deleteErrand (some id) "").bind fun _ => Action.evictToken id :=
  rfl

/-- The token of an instance is forgotten when it was deleted; otherwise the tokens are not
changed. -/
theorem run_deleteInstance (b : E2bBackend) (c : Caller) (id : String) (w : World) :
    ((b.deleteInstance id).run c w).1 = .finished (.ok ()) ∧
      ((b.deleteInstance id).run c w).2.tokens = w.tokens.erase id ∨
    ((b.deleteInstance id).run c w).1.ok? = none ∧
      ((b.deleteInstance id).run c w).2.tokens = w.tokens := by
  have htokens := Action.tokens_run (c := c)
    (within_run Action.IsLookUp b deleteErrand (some id) "") w
  rw [deleteInstance_eq]
  rcases Action.run_bind_cases c _ _ w with ⟨content, w₁, hrun, h⟩ | ⟨hnone, hw⟩
  · rw [hrun] at htokens
    rw [h, ← htokens]
    exact .inl ⟨rfl, rfl⟩
  · exact .inr ⟨hnone, by rw [hw, htokens]⟩

end E2bBackend

end AgentSandbox

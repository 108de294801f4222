import AgentSandbox.Proofs.Client.Session
import AgentSandbox.Proofs.E2b.Tokens

/-!
# The tokens of a session

`Step.settle` is the rule for the tokens of the REST backend: which of them a step adds or removes
depends on what it asked for, whether an answer came back, and the reply that the service had ready.
`settled_run` says that every session follows it, step after step.
-/

namespace AgentSandbox.Session

open E2bBackend

/-- The tokens after a step with some result: that of an instance that was made is remembered, that
of an instance that was deleted is forgotten. -/
def Step.settle (s : Step) (result : Result) (tokens : TokenCache) : TokenCache :=
  match s.command.call?, result with
  | some (.createInstance _), .answer _ =>
    match s.replies.head?.bind Reply.created? with
    | some ⟨some id, some token⟩ => tokens.insert id token
    | _ => tokens
  | some (.deleteInstance id), .answer _ =>
    if (tokens.find? id).isSome then tokens.erase id else tokens
  | _, _ => tokens

/-- A step and its report follow the rule, and an instance that is made is that of the reply. -/
structure Step.Settles (s : Step) (r : Report) (tokens : TokenCache) : Prop where
  tokens_eq : r.tokens = s.settle r.result tokens
  made : ∀ creation answer, s.command.call? = some (.createInstance creation) →
    r.result = .answer answer → ∃ i, answer = .instanceOf i ∧ i.id ≠ "" ∧ i.accessToken ≠ some "" ∧
      s.replies.head?.bind Reply.created? = some ⟨some i.id, i.accessToken⟩

namespace Step.Settles

variable {s : Step} {r : Report} {tokens : TokenCache}

theorem of_not_answer (hr : ∀ answer, r.result ≠ .answer answer) (ht : r.tokens = tokens) :
    s.Settles r tokens where
  tokens_eq := by
    unfold settle
    split
    · next h => exact absurd h (hr _)
    · next h => exact absurd h (hr _)
    · exact ht
  made _ answer _ h := absurd h (hr answer)

theorem of_other (hmake : ∀ creation, s.command.call? ≠ some (.createInstance creation))
    (hdelete : ∀ id, s.command.call? ≠ some (.deleteInstance id)) (ht : r.tokens = tokens) :
    s.Settles r tokens where
  tokens_eq := by
    unfold settle
    split
    · next h _ => exact absurd h (hmake _)
    · next h _ => exact absurd h (hdelete _)
    · exact ht
  made creation _ h := absurd h (hmake creation)

theorem of_created {creation : InstanceCreation} {i : Instance} {reply : Reply}
    {replies : List Reply} (hcall : s.command.call? = some (.createInstance creation))
    (hreplies : s.replies = reply :: replies)
    (hcreated : reply.created? = some ⟨some i.id, i.accessToken⟩)
    (hr : r.result = .answer (.instanceOf i)) (ht : r.tokens = remember i.id i.accessToken tokens) :
    s.Settles r tokens := by
  have hhead : s.replies.head?.bind Reply.created? = some ⟨some i.id, i.accessToken⟩ := by
    rw [hreplies]
    exact hcreated
  obtain ⟨hid, htoken⟩ := Reply.ne_empty_of_created? hcreated
  constructor
  case tokens_eq =>
    simp only [settle, hcall, hr, hhead]
    rw [ht]
    cases i.accessToken <;> rfl
  case made =>
    intro _ answer _ ha
    rw [hr] at ha
    cases ha
    exact ⟨i, rfl, fun h => hid (congrArg some h), htoken, hhead⟩

theorem of_deleted {id : String} {answer : Answer}
    (hcall : s.command.call? = some (.deleteInstance id)) (hr : r.result = .answer answer)
    (ht : r.tokens = tokens.erase id) : s.Settles r tokens where
  tokens_eq := by
    simp only [settle, hcall, hr]
    split
    · exact ht
    · next h => rw [ht, Dictionary.erase_of_find?_eq_none (Option.not_isSome_iff_eq_none.1 h)]
  made creation _ h := by
    rw [hcall] at h
    cases h

end Step.Settles

/-! ## Steps and sessions -/

section

variable (b : E2bBackend) (limit : Option Nat) {connected : Bool} {s : Step} {st : State}

theorem settles_createInstance (caller : Caller) {creation : InstanceCreation}
    (hcall : s.command.call? = some (.createInstance creation)) :
    s.Settles (s.perform ⟨.e2b b, limit⟩ connected caller (.createInstance creation) st).1
      st.tokens := by
  have haction : (Backend.e2b b).action (.createInstance creation) =
      Answer.instanceOf <$> b.createInstance creation := rfl
  have hmade := b.run_createInstance caller creation (s.world connected st)
  rcases s.perform_map_cases (c := ⟨.e2b b, limit⟩) haction connected caller st with
    ⟨e, h⟩ | ⟨ending, w, hrun, h⟩
  · rw [h]
    exact .of_not_answer (fun _ => nofun) rfl
  · simp only [hrun] at hmade
    rw [h]
    rcases hmade with ⟨reply, replies, id, token, hlink, hcreated, rfl, ht⟩ | ⟨hnone, ht⟩
    · exact .of_created (i := b.created creation id token) hcall (Step.replies_of_world hlink)
        hcreated rfl ht
    · exact .of_not_answer (Result.ofCall_ne_answer (Ending.ok?_map_eq_none hnone _)) ht

theorem settles_deleteInstance (caller : Caller) {id : String}
    (hcall : s.command.call? = some (.deleteInstance id)) :
    s.Settles (s.perform ⟨.e2b b, limit⟩ connected caller (.deleteInstance id) st).1
      st.tokens := by
  have haction : (Backend.e2b b).action (.deleteInstance id) =
      (fun _ => Answer.done) <$> b.deleteInstance id := rfl
  have hdeleted := b.run_deleteInstance caller id (s.world connected st)
  rcases s.perform_map_cases (c := ⟨.e2b b, limit⟩) haction connected caller st with
    ⟨e, h⟩ | ⟨ending, w, hrun, h⟩
  · rw [h]
    exact .of_not_answer (fun _ => nofun) rfl
  · simp only [hrun] at hdeleted
    rw [h]
    rcases hdeleted with ⟨rfl, ht⟩ | ⟨hnone, ht⟩
    · have hanswer : Result.ofCall (some (.ok .done)) = .answer .done := rfl
      exact .of_deleted hcall hanswer ht
    · exact .of_not_answer (Result.ofCall_ne_answer (Ending.ok?_map_eq_none hnone _)) ht

theorem settles_other (caller : Caller) {call : Call} (hcall : s.command.call? = some call)
    (hmake : ∀ creation, call ≠ .createInstance creation)
    (hdelete : ∀ id, call ≠ .deleteInstance id) :
    s.Settles (s.perform ⟨.e2b b, limit⟩ connected caller call st).1 st.tokens := by
  refine .of_other (fun creation h => ?_) (fun id h => ?_) ?_
  · exact hmake creation (Option.some.inj (hcall.symm.trans h))
  · exact hdelete id (Option.some.inj (hcall.symm.trans h))
  · rcases s.perform_cases ⟨.e2b b, limit⟩ connected caller call st with
      ⟨-, -, h⟩ | ⟨ending, w, hrun, h⟩
    · rw [h]
    · have hp (id : String) : Action.IsLookUp (.get id) := ⟨id, rfl⟩
      have ht := Action.tokens_run (c := caller) (within_restAction_of_ne b hp hmake hdelete)
        (s.world connected st)
      rw [h]
      exact (congrArg (·.2.tokens) hrun).symm.trans ht

theorem settles_step (connected : Bool) (s : Step) (st : State) :
    s.Settles (step ⟨.e2b b, limit⟩ connected s st).1 st.tokens := by
  rcases step_cases ⟨.e2b b, limit⟩ connected s st with ⟨call, hcall, h⟩ | ⟨hnone, ht⟩
  · rw [h]
    cases call with
    | createInstance creation => exact settles_createInstance b limit _ hcall
    | deleteInstance id => exact settles_deleteInstance b limit _ hcall
    | _ => exact settles_other b limit _ hcall (fun _ => nofun) (fun _ => nofun)
  · refine .of_other (fun creation h => ?_) (fun id h => ?_) ht
    · cases hnone.symm.trans h
    · cases hnone.symm.trans h

end

/-- Each of some steps with its report follows the rule, from some tokens on. -/
def Settled : List Step → List Report → TokenCache → Prop
  | [], [], _ => True
  | s :: ss, r :: rs, tokens => s.Settles r tokens ∧ Settled ss rs r.tokens
  | _, _, _ => False

/-- The tokens of the REST backend change in every session by the rule alone. -/
theorem settled_run (b : E2bBackend) (limit : Option Nat) (connected : Bool) (steps : List Step)
    (st : State) : Settled steps (run ⟨.e2b b, limit⟩ connected steps st) st.tokens := by
  induction steps generalizing st with
  | nil => trivial
  | cons s ss ih =>
    refine ⟨settles_step b limit connected s st, ?_⟩
    rw [← tokens_step]
    exact ih (step ⟨.e2b b, limit⟩ connected s st).2

/-- The token of an instance is remembered and is forgotten by the deletion that succeeds. -/
example :
    let made : Reply := ⟨false, 0, .whole 201 (Utf8.encode
      "\x7b\"sandboxID\":\"a\",\"envdAccessToken\":\"t\"\x7d")⟩
    let b : E2bBackend := ⟨⟨"", "", "", some "http://127.0.0.1", none⟩, none, ⟨0, 0⟩⟩
    (run ⟨.e2b b, none⟩ true
      [⟨.call (.createInstance ⟨none, none, none, []⟩), [made], none, none, none⟩,
        ⟨.call (.deleteInstance "a"), [], none, none, none⟩,
        ⟨.call (.deleteInstance "a"), [⟨false, 0, .whole 204 []⟩], none, none, none⟩]
      ⟨.empty, false⟩).map (·.tokens.entries) = [[("a", "t")], [("a", "t")], []] := by
  decide +kernel

end AgentSandbox.Session

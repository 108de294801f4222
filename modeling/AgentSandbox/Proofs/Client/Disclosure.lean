import AgentSandbox.Proofs.Client.Tokens
import AgentSandbox.Proofs.E2b.Access

/-!
# Where the tokens of a session come from

A token of the REST backend that is remembered for an instance was given to it (`isIssued_of_find?`).
So is every token that a step sends, or tells in its answer: it was given to the instance that the
step is about, in the step or before it (`isIssued_of_discloses`).
-/

namespace AgentSandbox.Session

open E2bBackend

/-- The instance that a step is about: the one that its call names, or the one that is made. -/
def Step.instance? (s : Step) : Option String :=
  match s.command.call? with
  | some (.createInstance _) => (s.replies.head?.bind Reply.created?).bind E2b.Created.id
  | some (.deleteInstance id) => some id
  | some call => call.looksUp?
  | none => none

/-- The step makes an instance, which the reply to it gives a token. -/
def Step.Issues (s : Step) (id token : String) : Prop :=
  (∃ creation, s.command.call? = some (.createInstance creation)) ∧
    s.replies.head?.bind Reply.created? = some ⟨some id, some token⟩

/-- The token was given to the instance in one of some steps, or remembered for it before them. -/
def IsIssued (steps : List Step) (tokens : TokenCache) (id token : String) : Prop :=
  tokens.find? id = some token ∨ ∃ s ∈ steps, s.Issues id token

/-- The step sends the token or tells it in its answer. -/
def Step.Discloses (b : E2bBackend) (s : Step) (r : Report) (token : String) : Prop :=
  (∃ q ∈ r.sent, q.token? = some token) ∨
    ∃ call answer, s.command.call? = some call ∧ r.result = .answer answer ∧ b.Tells token call answer

theorem Step.Issues.instance? {s : Step} {id token : String} (h : s.Issues id token) :
    s.instance? = some id := by
  obtain ⟨⟨creation, hcall⟩, hcreated⟩ := h
  simp only [Step.instance?, hcall, hcreated, Option.bind_some]

theorem Step.instance?_of_looksUp? {s : Step} {call : Call} (hcall : s.command.call? = some call)
    {id : String} (h : call.looksUp? = some id) : s.instance? = some id := by
  cases call
  case execute | executeStream | accessToken | browserUrls =>
    simpa only [Step.instance?, hcall] using h
  all_goals cases h

section

variable (b : E2bBackend) (limit : Option Nat) (connected : Bool) {s : Step} {st : State}
  {id token : String}

/-- A token that is remembered after a step was so before, unless the step made its instance. -/
theorem find?_settle_cases {result : Result} {tokens : TokenCache}
    (h : (s.settle result tokens).find? id = some token) :
    tokens.find? id = some token ∨ s.Issues id token := by
  unfold Step.settle at h
  split at h
  · next creation _ hcall =>
    split at h
    · next made given hmade =>
      by_cases hid : id = made
      · subst hid
        rw [Dictionary.find?_insert_self] at h
        cases h
        exact .inr ⟨⟨creation, hcall⟩, hmade⟩
      · rw [Dictionary.find?_insert_of_ne _ hid] at h
        exact .inl h
    · exact .inl h
  · next deleted _ _ =>
    split at h
    · by_cases hid : id = deleted
      · rw [hid, Dictionary.find?_erase_self] at h
        cases h
      · rw [Dictionary.find?_erase_of_ne _ hid] at h
        exact .inl h
    · exact .inl h
  · exact .inl h

/-- The remembered tokens of an instance were given to it. -/
theorem isIssued_of_find? {steps : List Step}
    (h : (stateAfter ⟨.e2b b, limit⟩ connected steps st).tokens.find? id = some token) :
    IsIssued steps st.tokens id token := by
  induction steps generalizing st with
  | nil => exact .inl h
  | cons s ss ih =>
    rcases ih h with hfind | ⟨s', hs', hissues⟩
    · rw [tokens_step, (settles_step b limit connected s st).tokens_eq] at hfind
      exact (find?_settle_cases hfind).imp_right fun hissues => ⟨s, List.mem_cons_self, hissues⟩
    · exact .inr ⟨s', List.mem_cons_of_mem _ hs', hissues⟩

/-- What a step sends is the token of the instance that it names, and so is what it tells in its
answer unless it made an instance. -/
theorem discloses_perform (s : Step) (caller : Caller) (call : Call) (st : State)
    (token : String) :
    let r := (s.perform ⟨.e2b b, limit⟩ connected caller call st).1
    (∀ q ∈ r.sent, q.token? = some token →
      ∃ id, call.looksUp? = some id ∧ st.tokens.find? id = some token) ∧
    ∀ answer, r.result = .answer answer → b.Tells token call answer →
      (∃ id, call.looksUp? = some id ∧ st.tokens.find? id = some token) ∨
        ∃ creation, call = .createInstance creation := by
  intro r
  rcases s.perform_cases ⟨.e2b b, limit⟩ connected caller call st with
    ⟨-, -, h⟩ | ⟨ending, w, hrun, h⟩
  · simp only [r, h]
    exact ⟨fun q hq => absurd hq List.not_mem_nil, fun _ => nofun⟩
  · have hsent : (s.world connected st).sent = [] := rfl
    have hdisclosed := b.disclosed_restAction caller hsent call token
    have hrest : (Backend.restAction b call).run caller (s.world connected st) = (ending, w) := hrun
    simp only [hrest] at hdisclosed
    simp only [r, h]
    exact ⟨hdisclosed.1, fun answer ha => hdisclosed.2 answer (Result.ok?_of_answer ha)⟩

/-- What a step sends or tells is the token of the instance that it is about, or the one that this
was given in the step. -/
theorem discloses_step (h : s.Discloses b (step ⟨.e2b b, limit⟩ connected s st).1 token) :
    ∃ id, s.instance? = some id ∧ (st.tokens.find? id = some token ∨ s.Issues id token) := by
  have hmade := (settles_step b limit connected s st).made
  cases hcall : s.command.call? with
  | none =>
    rcases h with ⟨q, hq, -⟩ | ⟨call, -, hcall', -⟩
    · rw [(step_of_not_call _ connected hcall st).1] at hq
      cases hq
    · cases hcall.symm.trans hcall'
  | some call =>
    have hperform :=
      discloses_perform b limit connected s (s.caller ⟨.e2b b, limit⟩) call st token
    rw [← step_of_call? hcall] at hperform
    rcases h with ⟨q, hq, hcarries⟩ | ⟨call', answer, hcall', hanswer, htells⟩
    · obtain ⟨id, hlook, hfind⟩ := hperform.1 q hq hcarries
      exact ⟨id, Step.instance?_of_looksUp? hcall hlook, .inl hfind⟩
    · obtain rfl := Option.some.inj (hcall.symm.trans hcall')
      rcases hperform.2 answer hanswer htells with ⟨id, hlook, hfind⟩ | ⟨creation, rfl⟩
      · exact ⟨id, Step.instance?_of_looksUp? hcall hlook, .inl hfind⟩
      · obtain ⟨i, rfl, -, -, hcreated⟩ := hmade creation answer hcall hanswer
        have htoken : i.accessToken = some token := htells
        rw [htoken] at hcreated
        have hissues : s.Issues i.id token := ⟨⟨creation, hcall⟩, hcreated⟩
        exact ⟨i.id, hissues.instance?, .inr hissues⟩

/-- What a step of a session sends or tells was given to the instance that it is about. -/
theorem isIssued_of_discloses {steps : List Step} {i : Nat} {r : Report}
    (hs : steps[i]? = some s) (hr : (run ⟨.e2b b, limit⟩ connected steps st)[i]? = some r)
    (h : s.Discloses b r token) :
    ∃ id, s.instance? = some id ∧ IsIssued (steps.take (i + 1)) st.tokens id token := by
  rw [getElem?_run hs] at hr
  obtain rfl := Option.some.inj hr
  obtain ⟨id, hid, hfind | hissues⟩ := discloses_step b limit connected h
  · refine ⟨id, hid, (isIssued_of_find? b limit connected hfind).imp_right ?_⟩
    rintro ⟨s', hs', hissues⟩
    exact ⟨s', List.take_subset_take_left steps (Nat.le_succ i) hs', hissues⟩
  · refine ⟨id, hid, .inr ⟨s, ?_, hissues⟩⟩
    rw [List.take_add_one, hs]
    exact List.mem_append_right _ (List.mem_singleton_self s)

end

end AgentSandbox.Session

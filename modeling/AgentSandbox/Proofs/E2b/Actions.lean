import AgentSandbox.Client.Basic
import AgentSandbox.Proofs.Execution.Service

/-!
# The actions of the REST backend

A call that needs a token looks up that of its instance (`Call.looksUp?`), and only a call that makes
or deletes an instance changes the remembered tokens (`within_restAction_of`).  No call has an error
that speaks for the caller (`within_restAction`).
-/

namespace AgentSandbox

/-- The instance whose token a call looks up. -/
def Call.looksUp? : Call → Option String
  | .execute id _ _ => some id
  | .executeStream id _ _ _ => some id
  | .accessToken id => some id
  | .browserUrls id _ => some id
  | _ => none

end AgentSandbox

namespace AgentSandbox.E2bBackend

open E2b Json

variable (p : TokenCache.Operation → Prop) (b : E2bBackend)

/-- Without a URL to send requests to, the configuration is at fault. -/
theorem exists_config_of_sandboxesUrl {b : E2bBackend} {id : Option String} {e : Error}
    (h : b.sandboxesUrl id = .error e) : ∃ text, e = .config text := by
  unfold sandboxesUrl at h
  dsimp only at h
  split at h
  · cases h
    exact ⟨_, rfl⟩
  · split at h
    · cases h
    · cases h
      exact ⟨_, rfl⟩

theorem within_run (e : Errand) (id : Option String) (body : String) :
    (b.run e id body).Within p Error.IsFailure := by
  unfold run
  cases hurl : b.sandboxesUrl id with
  | error err =>
    obtain ⟨text, rfl⟩ := exists_config_of_sandboxesUrl hurl
    exact .error rfl
  | ok url =>
    refine .send _ fun o => .done fun err h => ?_
    exact Outcome.isFailure_of_accepted h fun f => rfl

theorem within_listAll : b.listAll.Within p Error.IsFailure :=
  (within_run p b _ _ _).bind fun _ => .done fun _ => Content.isFailure_of_decode

theorem within_listInstances (q : InstanceQuery) :
    (b.listInstances q).Within p Error.IsFailure :=
  (within_listAll p b).bind fun _ => .ok _

theorem within_getInstance (id : String) : (b.getInstance id).Within p Error.IsFailure := by
  refine (within_listAll p b).bind fun is => ?_
  split
  · exact .ok _
  · exact .error rfl

/-! ## Calls that use tokens -/

variable {p}

theorem within_browserUrls (id : String) (port : Nat) (hp : p (.get id)) :
    ((Backend.e2b b).browserUrls id port).Within p Error.IsFailure := by
  refine (Action.within_lookUpToken hp).bind fun token => ?_
  cases token with
  | some t => exact .ok _
  | none => exact .error rfl

theorem within_execute (id code language : String) (l : Execution.Listeners) (hp : p (.get id)) :
    (b.execute id code language l).Within p Error.IsFailure :=
  (Action.within_lookUpToken hp).bind fun _ => Execution.within_execute p _ _ _ _ _

theorem within_createInstance (c : InstanceCreation) (hp : ∀ id token, p (.insert id token)) :
    (b.createInstance c).Within p Error.IsFailure := by
  refine (within_run p b _ _ _).bind fun content => ?_
  refine Action.Within.bind (.done fun _ => Content.isFailure_of_decode) fun made => ?_
  rcases made with ⟨_ | id, _ | token⟩
  · exact .error rfl
  · exact .error rfl
  · exact .ok _
  · exact (Action.within_insertToken (hp id token)).bind fun _ => .ok _

theorem within_deleteInstance (id : String) (hp : p (.evict id)) :
    (b.deleteInstance id).Within p Error.IsFailure :=
  (within_run p b _ _ _).bind fun _ => Action.within_evictToken hp

/-- What a call does to the tokens: it looks one up, or it remembers or forgets one. -/
theorem within_restAction_of {call : Call} (hget : ∀ id, call.looksUp? = some id → p (.get id))
    (hmake : ∀ creation, call = .createInstance creation → ∀ id token, p (.insert id token))
    (hdelete : ∀ id, call = .deleteInstance id → p (.evict id)) :
    (Backend.restAction b call).Within p Error.IsFailure := by
  cases call with
  | createInstance creation => exact (within_createInstance b creation (hmake _ rfl)).map _
  | deleteInstance id => exact (within_deleteInstance b id (hdelete _ rfl)).map _
  | listInstances q => exact (within_listInstances p b q).map _
  | getInstance id => exact (within_getInstance p b id).map _
  | execute id code language => exact (within_execute b id code language _ (hget id rfl)).map _
  | executeStream id code language l =>
    exact (within_execute b id code language l (hget id rfl)).map _
  | accessToken id => exact (Action.within_lookUpToken (hget id rfl)).map _
  | browserUrls id port => exact (within_browserUrls b id port (hget id rfl)).map _
  | _ => exact .error rfl

/-- A call that neither makes nor deletes an instance does nothing to the tokens but look one up. -/
theorem within_restAction_of_ne (hp : ∀ id, p (.get id)) {call : Call}
    (hmake : ∀ creation, call ≠ .createInstance creation)
    (hdelete : ∀ id, call ≠ .deleteInstance id) :
    (Backend.restAction b call).Within p Error.IsFailure :=
  within_restAction_of b (fun id _ => hp id) (fun creation h => absurd h (hmake creation))
    fun id h => absurd h (hdelete id)

/-- The errors of a call are those of the call itself. -/
theorem within_restAction (call : Call) :
    (Backend.restAction b call).Within (fun _ => True) Error.IsFailure :=
  within_restAction_of b (fun _ _ => trivial) (fun _ _ _ _ => trivial) fun _ _ => trivial

end AgentSandbox.E2bBackend

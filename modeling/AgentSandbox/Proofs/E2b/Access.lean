import AgentSandbox.Proofs.E2b.Actions
import AgentSandbox.Proofs.Endpoint
import AgentSandbox.Proofs.Exchange.Requests
import AgentSandbox.Proofs.Json.Decoding

/-!
# The tokens that calls give away

A call of the REST backend that looks a token up sends and tells nothing but what it found
(`restAction_of_looksUp?`), and any other call sends no token and tells none, unless it made the
instance (`restAction_of_not_looksUp?`).
-/

namespace AgentSandbox

open E2b Json

/-- The access token that a request carries. -/
def Request.token? (r : Request) : Option String := lookup? "x-access-token" r.headers

/-- The answer to a call tells a token. -/
def E2bBackend.Tells (b : E2bBackend) (token : String) : Call → Answer → Prop
  | .browserUrls id port, .browser urls => urls = browserUrls (b.instanceHost port id) token
  | _, .token t => t = some token
  | _, .instanceOf i => i.accessToken = some token
  | _, .instances page => ∃ i ∈ page.instances, i.accessToken = some token
  | _, _ => False

theorem Execution.sends_execute (base : String) (token : Option String) (code language : String)
    (l : Listeners) :
    (execute base token code language l).Sends fun r => r.token? = Text.nonEmpty token := by
  unfold execute
  split
  · exact .done _
  · refine .send ?_ fun _ => .done _
    simp only [Request.token?, requestHeaders]
    cases Text.nonEmpty token <;> rfl

namespace E2bBackend

variable (b : E2bBackend) {call : Call}

theorem sends_run (e : Errand) (id : Option String) (body : String) :
    (b.run e id body).Sends fun r => r.token? = none := by
  unfold run
  split
  · exact .done _
  · exact .send rfl fun _ => .done _

theorem sends_listAll : b.listAll.Sends fun r => r.token? = none :=
  (b.sends_run _ _ _).bind fun _ => .done _

theorem sends_createInstance (creation : InstanceCreation) :
    (b.createInstance creation).Sends fun r => r.token? = none := by
  refine (b.sends_run _ _ _).bind fun content => ?_
  refine Action.Sends.bind (.done _) fun made => ?_
  rcases made with ⟨_ | id, _ | token⟩
  · exact .done _
  · exact .done _
  · exact .done _
  · exact .token _ fun _ => .done _

theorem accessToken_of_listed {d : Document} {i : Instance} (h : listedOfDocument? d = some i) :
    i.accessToken = none := by
  simp only [listedOfDocument?, Option.bind_eq_bind, Option.bind_eq_some_iff,
    Option.some.injEq] at h
  obtain ⟨_, -, _, -, _, -, _, -, _, -, rfl⟩ := h
  rfl

/-- No token is told of the instances that are listed. -/
theorem yields_listAll : b.listAll.Yields fun is => ∀ i ∈ is, i.accessToken = none := by
  refine (Action.yields_any _).bind fun content _ => .done fun is h i hi => ?_
  obtain ⟨-, hlist⟩ := Content.decode_eq_ok h
  obtain ⟨d, -, hlist⟩ := Option.bind_eq_some_iff.1 hlist
  obtain ⟨-, -, d, -, hd⟩ := Document.exists_of_mem_listOf? hlist hi
  exact accessToken_of_listed hd

/-- A call that looks a token up goes on with what it found, which is all that it sends or tells. -/
theorem restAction_of_looksUp? {id : String} (h : call.looksUp? = some id) :
    ∃ next, Backend.restAction b call = (Action.lookUpToken id).bind next ∧
      ∀ found : Option String, (next found).Sends (fun r => r.token? = Text.nonEmpty found) ∧
        (next found).Yields fun answer =>
          ∀ token, b.Tells token call answer → found = some token := by
  have hexecute (call : Call) (code language : String) (l : Execution.Listeners)
      (htells : ∀ token output, ¬ b.Tells token call (.output output)) (found : Option String) :
      let next := Answer.output <$> Execution.execute (b.executionBase id) found code language l
      next.Sends (fun r => r.token? = Text.nonEmpty found) ∧
        next.Yields fun answer => ∀ token, b.Tells token call answer → found = some token := by
    refine ⟨?_, ?_⟩
    · exact (Execution.sends_execute _ _ _ _ _).map Answer.output
    · exact (Action.yields_any _).map fun output _ token htold => absurd htold (htells token output)
  cases call with
  | execute id' code language =>
    obtain rfl := Option.some.inj h
    exact ⟨_, Action.bind_assoc _ _ _, hexecute _ code language .none fun _ _ h => h⟩
  | executeStream id' code language l =>
    obtain rfl := Option.some.inj h
    exact ⟨_, Action.bind_assoc _ _ _, hexecute _ code language l fun _ _ h => h⟩
  | accessToken id' =>
    obtain rfl := Option.some.inj h
    exact ⟨fun found => .done (.ok (.token found)), rfl,
      fun found => ⟨.done _, .ok fun _ htold => htold⟩⟩
  | browserUrls id' port =>
    obtain rfl := Option.some.inj h
    refine ⟨_, Action.bind_assoc _ _ _, fun found => ?_⟩
    cases found with
    | none => exact ⟨.done _, .fail _⟩
    | some t =>
      refine ⟨.done _, .ok fun token htold => ?_⟩
      exact congrArg some (browserUrls_inj htold).2
  | _ => cases h

theorem instances_pageOf_sublist (q : InstanceQuery) (is : List Instance) :
    (pageOf q is).instances.Sublist is := by
  have hfound : (is.filter (matchesQuery q)).Sublist is := List.filter_sublist
  unfold pageOf
  dsimp only
  split
  · have hrest := (List.drop_sublist (q.offset.getD 0) _).trans hfound
    cases q.limit with
    | none => exact hrest
    | some n => exact (List.take_sublist n _).trans hrest
  · exact hfound

/-- A call that looks no token up sends none, and tells none but that of an instance that it made. -/
theorem restAction_of_not_looksUp? (h : call.looksUp? = none) :
    (Backend.restAction b call).Sends (fun r => r.token? = none) ∧
      (Backend.restAction b call).Yields fun answer => ∀ token, b.Tells token call answer →
        ∃ creation, call = .createInstance creation := by
  cases call with
  | createInstance creation =>
    refine ⟨(b.sends_createInstance creation).map _, ?_⟩
    exact (Action.yields_any _).map fun _ _ _ _ => ⟨creation, rfl⟩
  | listInstances q =>
    refine ⟨(b.sends_listAll.bind fun _ => .done _).map _, ?_⟩
    have hpage : (b.listInstances q).Yields fun page =>
        ∀ i ∈ page.instances, i.accessToken = none :=
      b.yields_listAll.bind fun is his =>
        .ok fun i hi => his i ((instances_pageOf_sublist q is).subset hi)
    refine hpage.map fun page hpage token ⟨i, hi, htoken⟩ => ?_
    cases (hpage i hi).symm.trans htoken
  | getInstance id =>
    refine ⟨(b.sends_listAll.bind fun is => ?_).map _, ?_⟩
    · split
      · exact .done _
      · exact .done _
    · have hfound : (b.getInstance id).Yields fun i => i.accessToken = none := by
        refine b.yields_listAll.bind fun is his => ?_
        split
        · next i hi => exact .ok (his i (List.mem_of_find?_eq_some hi))
        · exact .fail _
      exact hfound.map fun i hi token htoken => by cases hi.symm.trans htoken
  | deleteInstance id =>
    refine ⟨((b.sends_run _ _ _).bind fun _ => .token _ fun _ => .done _).map _, ?_⟩
    exact (Action.yields_any _).map fun _ _ _ => False.elim
  | execute | executeStream | accessToken | browserUrls => cases h
  | _ => exact ⟨.done _, .fail _⟩

/-- A token that a call sends, or that its answer tells, is the one remembered for the instance that
it names, if the call did not make the instance. -/
theorem disclosed_restAction (c : Caller) {w : World} (hw : w.sent = []) (call : Call)
    (token : String) :
    let r := (Backend.restAction b call).run c w
    (∀ q ∈ r.2.sent, q.token? = some token →
      ∃ id, call.looksUp? = some id ∧ w.tokens.find? id = some token) ∧
    ∀ answer, r.1.ok? = some answer → b.Tells token call answer →
      (∃ id, call.looksUp? = some id ∧ w.tokens.find? id = some token) ∨
        ∃ creation, call = .createInstance creation := by
  intro r
  have hnone (s : Request → Prop) : ∀ q ∈ w.sent, s q := by
    rw [hw]
    exact fun q hq => absurd hq List.not_mem_nil
  cases hlook : call.looksUp? with
  | some id =>
    obtain ⟨next, haction, hnext⟩ := b.restAction_of_looksUp? hlook
    obtain ⟨hsends, hyields⟩ := hnext (w.tokens.find? id)
    have hr : r = (next (w.tokens.find? id)).run c w := by
      simp only [r, haction]
      rfl
    rw [hr]
    refine ⟨fun q hq hcarries => ⟨id, rfl, ?_⟩, fun answer hanswer htells => .inl ⟨id, rfl, ?_⟩⟩
    · have hq := hsends.sent_run (hnone _) q hq
      exact (Option.filter_eq_some_iff.1 (hq.symm.trans hcarries)).1
    · exact hyields.ok?_run hanswer token htells
  | none =>
    obtain ⟨hsends, hyields⟩ := b.restAction_of_not_looksUp? hlook
    refine ⟨fun q hq hcarries => ?_, fun answer hanswer htells => .inr ?_⟩
    · cases (hsends.sent_run (hnone _) q hq).symm.trans hcarries
    · exact hyields.ok?_run hanswer token htells

end E2bBackend

end AgentSandbox

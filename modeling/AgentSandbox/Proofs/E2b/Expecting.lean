import AgentSandbox.Client.Basic
import AgentSandbox.Proofs.E2b.Form
import AgentSandbox.Proofs.Exchange.Expecting
import AgentSandbox.Proofs.Json.Holding

/-!
# What the REST service is expected to answer

A call that makes an instance or looks for some expects a record, one that deletes an instance only a
status (`E2b.expects?`).  Every such call asks for that (`E2bBackend.asks_restAction`); any other sends
no management request.
-/

namespace AgentSandbox

open E2b Json

namespace E2b

theorem decides_created : createdShape.Decides Created.ofDocument? :=
  decides_record (by decide) fun _ =>
    .optional decides_text fun _ => .optional decides_text fun _ => .done rfl

theorem decides_listed : listedShape.Decides listedOfDocument? :=
  decides_record (by decide) fun _ =>
    .optional decides_text fun _ => .optional decides_text fun _ =>
      .optional decides_text fun _ => .optional decides_text fun _ => .done rfl

/-- A status is expected, and documents of which none reports an error. -/
def answering (accepts : List Nat) (reads : Bool) (fits : Document → Prop) : Expectation :=
  ⟨accepts, reads, fun _ _ => False, fits⟩

/-- What a management call expects, if it sends anything. -/
def expects? : Call → Option Expectation
  | .createInstance _ => some (answering [200, 201] true createdShape.Holds)
  | .listInstances _ | .getInstance _ => some (answering [200] true (Shape.list listedShape).Holds)
  | .deleteInstance _ => some (answering [200, 204] false fun _ => True)
  | _ => none

end E2b

namespace E2bBackend

variable {α : Type} (b : E2bBackend)

/-- What is done about the content of an accepted reply decides what an errand asks for. -/
theorem asks_run {e : Errand} {fits : Document → Prop} (id : Option String) (body : String)
    {f : Content → Action α}
    (hf : ∀ status ∈ e.accepts, ∀ received,
      (∃ err, f ⟨received, none⟩ = Action.fail err ∧
        (answering e.accepts e.reads fits).Refuses status received.bytes err) ∨
      (answering e.accepts e.reads fits).Welcomes status received.bytes ∧
        (f ⟨received, none⟩).Concludes) :
    ((b.run e id body).bind f).Asks (answering e.accepts e.reads fits) := by
  unfold run
  cases b.sandboxesUrl id with
  | error err => exact .fail err
  | ok url =>
    refine .send rfl fun status received => ?_
    dsimp only
    rcases (answering e.accepts e.reads fits).accepted_or_refuses e.context
      (fun f => .inContext e.context (.transport f)) status received with
      ⟨err, haccepted, hrefuses⟩ | ⟨hstatus, haccepted⟩
    · have haccepted : Outcome.accepted e.context e.accepts _ _ = _ := haccepted
      rw [haccepted]
      exact .inl ⟨err, rfl, hrefuses⟩
    · have haccepted : Outcome.accepted e.context e.accepts _ _ = _ := haccepted
      rw [haccepted]
      exact hf status hstatus received

/-- An errand whose reply is read asks for the documents that are decoded. -/
theorem asks_run_decode {e : Errand} (he : e.reads = true) (id : Option String)
    (body context : String) {shape : Shape} {decode : Document → Option α}
    (h : shape.Decides decode) :
    ((b.run e id body).bind fun content => .done (content.decode context decode)).Asks
      (answering e.accepts e.reads shape.Holds) := by
  refine b.asks_run id body fun status hstatus received => ?_
  have hsilent (reported : Value) :
      ¬ (answering e.accepts e.reads shape.Holds).Reports received.bytes reported :=
    fun ⟨_, _, hnone⟩ => hnone
  rw [Content.decode_whole]
  cases hdecoded : (documentOf? received.bytes).bind decode with
  | none =>
    refine .inl ⟨.decode context, rfl, .malformed hstatus he hsilent ?_ rfl⟩
    rintro ⟨d, hd, hfits⟩
    rw [hd, Option.bind_some] at hdecoded
    have hsome := (h d).2 hfits
    rw [hdecoded] at hsome
    cases hsome
  | some x =>
    obtain ⟨d, hd, hx⟩ := Option.bind_eq_some_iff.1 hdecoded
    have hfits : shape.Holds d := (h d).1 (by rw [hx]; rfl)
    exact .inr ⟨⟨hstatus, fun _ => hsilent, fun _ => ⟨d, hd, hfits⟩⟩, .ok x⟩

theorem asks_listAll : b.listAll.Asks (answering [200] true (Shape.list listedShape).Holds) :=
  b.asks_run_decode (e := listErrand) rfl none "" _ (decides_listOf decides_listed)

theorem asks_getInstance (id : String) :
    (b.getInstance id).Asks (answering [200] true (Shape.list listedShape).Holds) := by
  refine b.asks_listAll.bind fun is => ?_
  split
  · exact .ok _
  · exact .missing (.inl ⟨_, _, rfl⟩)

theorem asks_createInstance (c : InstanceCreation) :
    (b.createInstance c).Asks (answering [200, 201] true createdShape.Holds) := by
  unfold createInstance
  have hassoc {β γ : Type} (a : Action Content) (f : Content → Action β) (g : β → Action γ) :
      (a >>= fun content => f content >>= g) = (a.bind f).bind g := (a.bind_assoc f g).symm
  rw [hassoc]
  have hasks := b.asks_run_decode (e := createErrand) rfl none (creationBody c).toText
    "create instance" decides_created
  refine hasks.bind fun made => ?_
  rcases made with ⟨_ | id, _ | token⟩
  · exact .missing (.inr ⟨_, _, rfl⟩)
  · exact .missing (.inr ⟨_, _, rfl⟩)
  · exact .ok _
  · exact .token fun _ => .ok _

/-- To delete an instance, a status is enough. -/
theorem asks_deleteInstance (id : String) :
    (b.deleteInstance id).Asks (answering [200, 204] false fun _ => True) := by
  refine b.asks_run (e := deleteErrand) (some id) "" fun status hstatus received => ?_
  exact .inr ⟨⟨hstatus, nofun, nofun⟩, .token fun _ => .ok _⟩

/-- A management call asks for what it expects. -/
theorem asks_restAction {call : Call} {e : Expectation} (h : E2b.expects? call = some e) :
    (Backend.restAction b call).Asks e := by
  cases call with
  | createInstance c =>
    cases h
    exact (b.asks_createInstance c).map _
  | listInstances q =>
    cases h
    exact (b.asks_listAll.map _).map _
  | getInstance id =>
    cases h
    exact (b.asks_getInstance id).map _
  | deleteInstance id =>
    cases h
    exact (b.asks_deleteInstance id).map _
  | _ => cases h

end E2bBackend

end AgentSandbox

import AgentSandbox.Client.Basic
import AgentSandbox.Proofs.E2b.Actions
import AgentSandbox.Proofs.E2b.Form
import AgentSandbox.Proofs.Exchange.Reading

/-!
# How the REST service is understood

The calls that make an instance or look for some read the body of the reply (`E2b.reading?`).  Only
the id of a new sandbox has to be given.
-/

namespace AgentSandbox

open E2b Json

/-- What a call reads the reply to its request as, if it reads it. -/
def E2b.reading? : Call → Option Reading
  | .createInstance _ => some ⟨[200, 201], fun _ => True, createdShape, ["sandboxID"]⟩
  | .listInstances _ | .getInstance _ => some ⟨[200], fun _ => True, .list listedShape, []⟩
  | _ => none

namespace E2bBackend

variable {α : Type} (b : E2bBackend)

theorem reads_run {e : Errand} (he : e.reads = true) (id : Option String) (body context : String)
    (decode : Document → Option α) :
    ((b.run e id body).bind fun content => .done (content.decode context decode)).Reads e.accepts
      (fun _ => True) decode (.decode context) fun x => .done (.ok x) := by
  unfold run
  cases hurl : b.sandboxesUrl id with
  | error err =>
    obtain ⟨text, rfl⟩ := exists_config_of_sandboxesUrl hurl
    exact .fail trivial
  | ok url =>
    have haccepted (status : Nat) (hstatus : status ∈ e.accepts) (received : Received)
        (cut : Option TransportFault) :
        Outcome.accepted e.context e.accepts (fun f => .inContext e.context (.transport f))
          (.reply status received cut) = .ok ⟨received, cut⟩ :=
      if_pos (List.contains_iff_mem.2 hstatus)
    refine .send (fun status _ => ?_) (fun f => ?_) (fun status hstatus f => ?_)
      fun status hstatus bytes d hd _ => ?_
    · simp only [Errand.reception, he, Bool.not_true, Bool.and_false, Bool.false_eq_true, if_false]
    · exact ⟨.inContext e.context (.transport f), trivial, rfl⟩
    · refine ⟨.inContext context (.transport f), trivial, fun bytes => ?_⟩
      simp only [haccepted status hstatus]
      rfl
    · simp only [haccepted status hstatus, Action.bind, Content.decode_whole,
        Received.bytes, hd, Option.bind_some]
      cases decode d <;> rfl

theorem readsAs_listAll :
    b.listAll.ReadsAs ⟨[200], fun _ => True, .list listedShape, []⟩ :=
  (b.reads_run (e := listErrand) rfl none "" _ _).readsAs (suits_listOf suits_listed).bears
    ⟨_, rfl⟩ rfl

theorem readsAs_getInstance (id : String) :
    (b.getInstance id).ReadsAs ⟨[200], fun _ => True, .list listedShape, []⟩ := by
  have hmissing : (Error.notFound "instance" id).IsEarly := trivial
  refine b.readsAs_listAll.bind fun is => ?_
  split
  · exact .ok _
  · exact .error (hmissing.allowed _)

/-- The id of a new sandbox has to be given. -/
theorem readsAs_createInstance (c : InstanceCreation) :
    (b.createInstance c).ReadsAs
      ⟨[200, 201], fun _ => True, createdShape, ["sandboxID"]⟩ := by
  have hlacking : (Error.incomplete "create instance" "sandboxID").Lacks "sandboxID" := ⟨_, rfl⟩
  unfold createInstance
  have hassoc {β γ : Type} (a : Action Content) (f : Content → Action β) (g : β → Action γ) :
      (a >>= fun content => f content >>= g) = (a.bind f).bind g := (a.bind_assoc f g).symm
  have hreads := b.reads_run (e := createErrand) rfl none (creationBody c).toText "create instance"
    Created.ofDocument?
  rw [hassoc]
  refine .intro suits_created.bears ⟨_, rfl⟩ (hreads.bind _) (fun made => ?_)
    fun d made hd hmade => ?_
  · rcases made with ⟨_ | id, token⟩
    · exact .error (hlacking.allowed rfl)
    · cases token with
      | none => exact .ok _
      | some token => exact (Action.within_insertToken trivial).bind fun _ => .ok _
  · obtain ⟨fs, hfs, hdecoded⟩ := Option.bind_eq_some_iff.1 hmade
    simp only [hd.optional hfs, Option.bind_eq_bind, Option.bind_some] at hdecoded
    obtain ⟨token, -, hdecoded⟩ := Option.bind_eq_some_iff.1 hdecoded
    cases hdecoded
    exact ⟨_, "sandboxID", rfl, rfl, hlacking⟩

/-- A call that makes an instance or looks for some reads the reply to its request. -/
theorem readsAs_restAction {call : Call} {reading : Reading} (h : reading? call = some reading) :
    (Backend.restAction b call).ReadsAs reading := by
  cases call with
  | createInstance c =>
    cases h
    exact (b.readsAs_createInstance c).map _
  | listInstances q =>
    cases h
    exact (b.readsAs_listAll.map _).map _
  | getInstance id =>
    cases h
    exact (b.readsAs_getInstance id).map _
  | _ => cases h

end E2bBackend

end AgentSandbox

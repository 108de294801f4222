import AgentSandbox.Proofs.Client.Listening
import AgentSandbox.Proofs.Client.Receiving
import AgentSandbox.Proofs.Cloud.Querying
import AgentSandbox.Proofs.E2b.Listing
import AgentSandbox.Proofs.Success

/-!
# Listed instances

A call for instances that receives a directory of the REST service is answered with the pages of this
directory (`Session.listed_pages`).  An empty text or a zero in a query says nothing to the control
plane.  The REST service takes it at its word, so its answer may be another one than without it
(`Session.tidied_listing`).
-/

namespace AgentSandbox

open Cloud E2b Json

/-! ## The body of a directory -/

/-- The body of a reply that lists some sandboxes. -/
def E2b.IsDirectory (body : List UInt8) (is : List Instance) : Prop :=
  (documentOf? body).bind (Document.listOf? listedOfDocument?) = some is

theorem E2b.IsDirectory.status {body : List UInt8} {is : List Instance} (h : IsDirectory body is) :
    ∀ i ∈ is, i.status = assumedStatus := by
  obtain ⟨_, -, hlist⟩ := Option.bind_eq_some_iff.1 h
  intro i hi
  obtain ⟨-, -, _, -, hlisted⟩ := Document.exists_of_mem_listOf? hlist hi
  exact status_of_listed hlisted

namespace Session

variable {b : E2bBackend} {limit : Option Nat} {connected : Bool} {s : Step} {st : State}
  {q : InstanceQuery} {body : List UInt8} {is : List Instance}

/-- A call for instances gives the page of the directory that it receives. -/
theorem Step.Receives.listInstances
    (h : s.Receives ⟨.e2b b, limit⟩ connected st (.listInstances q) 200 body)
    (his : IsDirectory body is) :
    (step ⟨.e2b b, limit⟩ connected s st).1.result = .answer (.instances (pageOf q is)) := by
  obtain ⟨query, next, received, w, hsends, hbytes, -, hstep⟩ := h.step_eq
  have haction : (Backend.e2b b).action (.listInstances q) =
      Answer.instances <$> (b.listAll.bind fun is => .done (.ok (pageOf q is))) := rfl
  obtain ⟨d, hd, hlist⟩ := Option.bind_eq_some_iff.1 his
  rw [haction] at hsends
  rcases b.listAll_cases with ⟨e, -, hfail⟩ | ⟨query', hsend⟩
  · rw [hfail] at hsends
    cases hsends
  · rw [hsend] at hsends
    cases hsends
    simp only [E2bBackend.directoryOf_whole (hbytes ▸ hd) hlist] at hstep
    rw [hstep]
    rfl

/-- Calls for instances that receive one directory are answered with its pages, and all of these
instances are taken to be running. -/
theorem listed_pages (his : IsDirectory body is) :
    ∃ page : InstanceQuery → InstancePage,
      (∀ (b : E2bBackend) (limit : Option Nat) (connected : Bool) (s : Step) (st : State)
        (q : InstanceQuery),
        s.Receives ⟨.e2b b, limit⟩ connected st (.listInstances q) 200 body →
        (step ⟨.e2b b, limit⟩ connected s st).1.result = .answer (.instances (page q))) ∧
      Pages is page ∧ ∀ i ∈ is, i.status = assumedStatus :=
  ⟨fun q => pageOf q is, fun _ _ _ _ _ _ h => h.listInstances his, pages_pageOf is, his.status⟩

/-! ## A directory of three -/

/-- A REST service at `http://h`, without keys and without a limit. -/
def plainService : E2bBackend := ⟨⟨"", "", "", some "http://h", none⟩, none, ⟨0, 0⟩⟩

theorem sandboxesUrl_plainService :
    plainService.sandboxesUrl none = .ok
      ⟨"http", some ⟨none, some (.domain ['h']), none⟩, .segments ["sandboxes".toList], none,
        none⟩ := by
  rw [← toOption_eq_some_iff]
  decide +kernel

/-- A directory that is asked for at once is received. -/
theorem Step.receives_directory (q : InstanceQuery) (body : List UInt8) :
    (answered (.listInstances q) body).Receives ⟨.e2b plainService, none⟩ true ⟨.empty, false⟩
      (.listInstances q) 200 body := by
  have haction : (⟨.e2b plainService, none⟩ : Client).backend.action (.listInstances q) =
      Answer.instances <$> (plainService.listAll.bind fun is => .done (.ok (pageOf q is))) := rfl
  rw [E2bBackend.listAll_eq_send sandboxesUrl_plainService] at haction
  have hreplies : (answered (.listInstances q) body).replies =
      [⟨false, 0, .answer 200 [⟨0, body⟩] .complete⟩] := rfl
  have hreception (status : Nat) : E2bBackend.listErrand.reception status = .body [] := by
    simp [E2bBackend.Errand.reception, E2bBackend.listErrand]
  have hreceived : (answered (.listInstances q) body).Receives ⟨.e2b plainService, none⟩ true
      ⟨.empty, false⟩ (.listInstances q) 200 ([(⟨0, body⟩ : Chunk)].flatMap (·.bytes)) :=
    receives_of_patient rfl haction (by decide +kernel) hreception rfl rfl rfl hreplies
  rwa [List.flatMap_singleton] at hreceived

/-- Three sandboxes, two of them with one id. -/
def threeListed : Value :=
  .list [.object [("sandboxID", .text "a"), ("templateID", .text "t")],
    .object [("sandboxID", .text "b")],
    .object [("sandboxID", .text "a"), ("alias", .text "n")]]

theorem isDirectory_threeListed :
    IsDirectory (Utf8.encode threeListed.toText)
      [listed (some "a") (some "t") none none, listed (some "b") none none none,
        listed (some "a") none (some "n") none] := by
  have hfits : threeListed.Fits (125 + 2) := by simp [threeListed]
  rw [IsDirectory, documentOf?_toText hfits]
  rfl

/-- Two pages of two in a directory of three, and the sandboxes with an id. -/
theorem listed_pages_by_two :
    let result (q : InstanceQuery) : Result :=
      (step ⟨.e2b plainService, none⟩ true
        (.answered (.listInstances q) (Utf8.encode threeListed.toText)) ⟨.empty, false⟩).1.result
    let all : InstanceQuery := ⟨[], none, none, none, none⟩
    let page (k : Nat) : Result := result (all.paged (some (k * 2)) (some 2))
    ((List.range 2).flatMap fun k => (page k).instances) = (result all).instances ∧
      (result all).instances.map (·.id) = ["a", "b", "a"] ∧
      (result ⟨["a"], some "x", some "y", some 7, some 0⟩).instances.map (·.id) = ["a", "a"] := by
  intro result all page
  obtain ⟨page', hpage, hpages, -⟩ := listed_pages isDirectory_threeListed
  have hresult (q : InstanceQuery) : (result q).instances = (page' q).instances :=
    congrArg Result.instances (hpage _ _ _ _ _ q (Step.receives_directory q _))
  have hall : (page' all).totalCount = 3 := hpages.total all rfl
  have hwhole := hpages.whole all 2 2 rfl (by rw [hall]; decide)
  refine ⟨?_, ?_, ?_⟩
  · simp only [page, hresult]
    exact hwhole
  · rw [hresult, hpages.part all rfl]
    rfl
  · rw [hresult, hpages.byIds _ (by decide)]
    rfl

/-! ## Tidy queries -/

/-- The control plane is asked the same by a query and by the tidy one. -/
theorem step_tidy (b : CloudBackend) (limit : Option Nat) (connected guarded : Bool) (s : Step)
    (st : State) (q : InstanceQuery) :
    step ⟨.cloud b, limit⟩ connected (s.asking guarded (.listInstances q.tidy)) st =
      step ⟨.cloud b, limit⟩ connected (s.asking guarded (.listInstances q)) st := by
  have haction : (Backend.cloud b).action (.listInstances q.tidy) =
      (Backend.cloud b).action (.listInstances q) := by
    have hlist : b.listInstances q.tidy = b.listInstances q := by
      rw [CloudBackend.listInstances, instanceQueryBody_tidy]
      rfl
    exact congrArg (Answer.instances <$> ·) hlist
  rw [step_eq_reportOf (s.call?_asking guarded _), step_eq_reportOf (s.call?_asking guarded _),
    s.caller_asking _ guarded _ (.listInstances q), haction]
  rfl

/-- The control plane reads a query as the tidy one: it does and reports the same.  The REST service,
where both receive one directory, answers them alike just if they have ids, or an empty text excludes
no instance and a limit of zero cuts nothing off; a zero offset makes no difference. -/
theorem tidied_listing {connected' : Bool} {s' : Step} {st' : State} (his : IsDirectory body is)
    (h : s.Receives ⟨.e2b b, limit⟩ connected st (.listInstances q) 200 body)
    (h' : s'.Receives ⟨.e2b b, limit⟩ connected' st' (.listInstances q.tidy) 200 body) :
    (∀ (b : CloudBackend) (limit : Option Nat) (connected guarded : Bool) (s : Step) (st : State),
      step ⟨.cloud b, limit⟩ connected (s.asking guarded (.listInstances q.tidy)) st =
        step ⟨.cloud b, limit⟩ connected (s.asking guarded (.listInstances q)) st) ∧
    ((step ⟨.e2b b, limit⟩ connected s st).1.result =
        (step ⟨.e2b b, limit⟩ connected' s' st').1.result ↔
      (q.instanceIds = [] → (∀ i ∈ is, q.tidy.Admits i → q.Admits i) ∧
        (q.limit = some 0 → (q.admitted is).length ≤ q.offset.getD 0))) := by
  refine ⟨fun b limit connected guarded s st => step_tidy b limit connected guarded s st q, ?_⟩
  rw [h.listInstances his, h'.listInstances his, Result.answer.injEq, Answer.instances.injEq]
  exact pageOf_tidy_iff

/-- A zero offset makes no difference; an empty status does, because every sandbox is running. -/
theorem tidied_listing_three :
    let result (q : InstanceQuery) : Result :=
      (step ⟨.e2b plainService, none⟩ true
        (.answered (.listInstances q) (Utf8.encode threeListed.toText)) ⟨.empty, false⟩).1.result
    let behindNone : InstanceQuery := ⟨[], some "t", none, some 0, none⟩
    let untold : InstanceQuery := ⟨[], none, some "", none, none⟩
    result behindNone = result behindNone.tidy ∧ result untold ≠ result untold.tidy := by
  intro result behindNone untold
  have halike (q : InstanceQuery) := (tidied_listing isDirectory_threeListed
    (Step.receives_directory q _) (Step.receives_directory q.tidy _)).2
  refine ⟨(halike behindNone).2 fun _ => ⟨?_, nofun⟩, fun h => ?_⟩
  · decide
  · exact absurd ((halike untold).1 h rfl).1 (by decide)

/-- An empty template, an empty status and a limit of zero are taken at their word: the answer is
another one than without them. -/
theorem untidied_listing :
    let ids (q : InstanceQuery) : List String :=
      (step ⟨.e2b plainService, none⟩ true
        (.answered (.listInstances q) (Utf8.encode threeListed.toText))
        ⟨.empty, false⟩).1.result.instances.map (·.id)
    let anyTool : InstanceQuery := ⟨[], some "", none, none, none⟩
    let anyStatus : InstanceQuery := ⟨[], none, some "", none, none⟩
    let unlimited : InstanceQuery := ⟨[], none, none, none, some 0⟩
    (ids anyTool = ["b", "a"] ∧ ids anyTool.tidy = ["a", "b", "a"]) ∧
      (ids anyStatus = [] ∧ ids anyStatus.tidy = ["a", "b", "a"]) ∧
      ids unlimited = [] ∧ ids unlimited.tidy = ["a", "b", "a"] := by
  intro ids anyTool anyStatus unlimited
  have hids (q : InstanceQuery) : ids q = _ :=
    congrArg (fun r : Result => r.instances.map (·.id))
      ((Step.receives_directory q _).listInstances isDirectory_threeListed)
  simp only [hids]
  decide

end Session

end AgentSandbox

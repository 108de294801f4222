import AgentSandbox.Proofs.Client.Listening
import AgentSandbox.Proofs.Client.Receiving
import AgentSandbox.Proofs.Cloud.Creation
import AgentSandbox.Proofs.Cloud.Listing
import AgentSandbox.Proofs.Cloud.Reporting
import AgentSandbox.Proofs.E2b.Listing

/-!
# Looking up by id

To look up a tool or an instance, a backend lists those with its id and gives the first of them
(`Backend.action_getInstance`, `Backend.action_getTool`).  So the step that looks it up does what the
step that lists it does and reports the same error, or the first of the listed objects, or that there
is none (`Session.looked_up`).
-/

namespace AgentSandbox

open Cloud E2b Json

/-! ## Errors of listings -/

theorem Cloud.IsFault.isNotFound {action context : String} {e : Error} (h : IsFault action e) :
    (Error.inContext context e).isNotFound = false := by
  cases h <;> rfl

theorem CloudBackend.call_within_isNotFound {α : Type} (b : CloudBackend) (context action : String)
    (body : Value) (decode : Document → Option α) :
    (b.call context action body decode).Within (fun _ => True) (·.isNotFound = false) := by
  refine .send _ fun o => .done fun e h => ?_
  cases hrecord : recordOf action decode o with
  | ok a =>
    rw [hrecord] at h
    cases h
  | error err =>
    rw [hrecord] at h
    cases h
    exact (isFault_of_recordOf hrecord).isNotFound

namespace E2bBackend

theorem isNotFound_of_directoryOf {o : Outcome} {e : Error} (h : directoryOf o = .error e) :
    e.isNotFound = false := by
  unfold directoryOf at h
  cases haccepted : o.accepted listErrand.context listErrand.accepts fun f =>
      .inContext listErrand.context (.transport f) with
  | error err =>
    rw [haccepted] at h
    cases h
    rcases Outcome.accepted_eq_error haccepted with ⟨f, rfl⟩ | ⟨status, body, rfl⟩ <;> rfl
  | ok content =>
    rw [haccepted] at h
    rcases Content.decode_eq_error h with ⟨f, rfl⟩ | rfl <;> rfl

theorem listAll_within_isNotFound (b : E2bBackend) :
    b.listAll.Within (fun _ => True) (·.isNotFound = false) := by
  rcases b.listAll_cases with ⟨e, hurl, hfail⟩ | ⟨query, hsend⟩
  · obtain ⟨text, rfl⟩ := exists_config_of_sandboxesUrl hurl
    rw [hfail]
    exact .error rfl
  · rw [hsend]
    exact .send _ fun o => .done fun e => isNotFound_of_directoryOf

end E2bBackend

/-! ## The first of the listed objects -/

/-- The tools on a page. -/
def Answer.toolsOf : Answer → Option (List Answer)
  | .tools page => some (page.tools.map .tool)
  | _ => none

/-- The instances on a page, in the control plane with the domain of their services. -/
def Answer.instancesOf (b : Backend) : Answer → Option (List Answer)
  | .instances page =>
    match b with
    | .e2b _ => some (page.instances.map .instanceOf)
    | .cloud b => some (page.instances.map fun i => .instanceOf (b.withDomain i))
  | _ => none

/-- The first of some objects, unless there are none. -/
def Answer.firstOf (kind id : String) : List Answer → Except Error Answer
  | [] => .error (.notFound kind id)
  | x :: _ => .ok x

/-- Gives the first of the objects in an answer. -/
def Answer.first (objects : Answer → Option (List Answer)) (kind id : String) (a : Answer) :
    Action Answer :=
  .done (firstOf kind id ((objects a).getD []))

theorem Answer.first_eq {objects : Answer → Option (List Answer)} {a : Answer} {xs : List Answer}
    (h : objects a = some xs) (kind id : String) :
    first objects kind id a = .done (firstOf kind id xs) := by
  rw [first, h, Option.getD_some]

namespace Backend

/-- Instances are looked up in the listing of those with the id. -/
theorem action_getInstance (b : Backend) (id : String) :
    b.action (.getInstance id) =
      (b.action (.listInstances (.one id))).bind
        (Answer.first (Answer.instancesOf b) "instance" id) := by
  cases b with
  | e2b b =>
    have hlookup : (Backend.e2b b).action (.getInstance id) = _ := b.listAll.bind_assoc _ _
    have hlisting : (Backend.e2b b).action (.listInstances (.one id)) = _ :=
      b.listAll.bind_assoc _ _
    rw [hlookup, hlisting, Action.bind_assoc]
    refine congrArg (Action.bind b.listAll) (funext fun is => ?_)
    dsimp only
    have hpage : (pageOf (.one id) is).instances.head? = is.find? (·.id = id) := by
      rw [pageOf_of_ids (by exact List.cons_ne_nil _ _), List.head?_filter]
      simp only [InstanceQuery.one, List.mem_singleton]
    rw [← hpage]
    rcases pageOf (.one id) is with ⟨_ | ⟨i, rest⟩, count⟩ <;> rfl
  | cloud b =>
    have hlookup : (Backend.cloud b).action (.getInstance id) = _ :=
      (b.listInstances (.one id)).bind_assoc _ _
    have hlisting : (Backend.cloud b).action (.listInstances (.one id)) = _ := rfl
    rw [hlookup, hlisting]
    refine Eq.trans ?_ ((b.listInstances (.one id)).bind_assoc _ _).symm
    refine congrArg (Action.bind _) (funext fun page => ?_)
    rcases page with ⟨_ | ⟨i, is⟩, count⟩ <;> rfl

theorem action_getTool (b : CloudBackend) (id : String) :
    (Backend.cloud b).action (.getTool id) =
      ((Backend.cloud b).action (.listTools (.one id))).bind
        (Answer.first Answer.toolsOf "tool" id) := by
  have hlookup : (Backend.cloud b).action (.getTool id) = _ :=
    (b.listTools (.one id)).bind_assoc _ _
  rw [hlookup]
  refine Eq.trans ?_ ((b.listTools (.one id)).bind_assoc _ _).symm
  refine congrArg (Action.bind _) (funext fun page => ?_)
  rcases page with ⟨_ | ⟨t, ts⟩, count⟩ <;> rfl

end Backend

/-! ## Steps -/

namespace Session

/-- The step that looks an object up, in the state in which another one lists those with its id, does
the same and comes back with the first of them. -/
structure Agrees (objects : Answer → Option (List Answer)) (operation kind id : String)
    (listing lookup : Report × State) : Prop where
  /-- The same requests arrive. -/
  sent : lookup.1.sent = listing.1.sent
  notices : lookup.1.notices = listing.1.notices
  tokens : lookup.1.tokens = listing.1.tokens
  state : lookup.2 = listing.2
  /-- The listing fails, gives a page or never ends. -/
  ends : (∃ e, listing.1.result = .error e) ∨
    (∃ a xs, listing.1.result = .answer a ∧ objects a = some xs) ∨ listing.1.result = .unending
  /-- If it fails then the lookup fails with the same error. -/
  failed : ∀ e, listing.1.result = .error e → lookup.1.result = (Result.error e).under operation
  /-- The object is not found just if no object is listed. -/
  missing : lookup.1.result = .error (.notFound kind id) ↔
    ∃ a, listing.1.result = .answer a ∧ objects a = some []
  /-- Otherwise the lookup gives the first of the listed objects. -/
  found : ∀ a x xs, listing.1.result = .answer a → objects a = some (x :: xs) →
    lookup.1.result = .answer x
  unending : listing.1.result = .unending → lookup.1.result = .unending

theorem Result.eq_under {e : Error} (h : e.IsFailure) (operation : String) :
    Result.error e = (Result.error e).under operation := by
  cases e with
  | cancelled => cases h
  | deadline => cases h
  | _ => rfl

theorem Result.under_ne_notFound {e : Error} (h : e.isNotFound = false)
    (operation kind id : String) :
    (Result.error e).under operation ≠ .error (.notFound kind id) := by
  cases e with
  | notFound => cases h
  | _ => nofun

section

variable {objects : Answer → Option (List Answer)} {operation kind id : String} {r r' : Result}
  {sent : List Request} {notices : List Execution.Notice} {tokens : TokenCache} {st : State}

/-- A lookup agrees with a listing that fails with the same error, if this is not that something was
not found. -/
theorem Agrees.of_error {e : Error} (hlisting : r = .error e)
    (hlookup : r' = (Result.error e).under operation) (he : e.isNotFound = false) :
    Agrees objects operation kind id (⟨r, sent, notices, tokens⟩, st)
      (⟨r', sent, notices, tokens⟩, st) := by
  subst hlisting hlookup
  refine ⟨rfl, rfl, rfl, rfl, .inl ⟨e, rfl⟩, ?_, ⟨fun h => ?_, nofun⟩, (fun _ _ _ h => nomatch h),
    nofun⟩
  · rintro _ ⟨⟩
    rfl
  · exact absurd h (Result.under_ne_notFound he operation kind id)

/-- A lookup agrees with a listing that gives a page, if it gives the first object on it. -/
theorem Agrees.of_listed {a : Answer} {xs : List Answer} (hlisting : r = .answer a)
    (hxs : objects a = some xs) (hlookup : r' = .ofCall (some (Answer.firstOf kind id xs))) :
    Agrees objects operation kind id (⟨r, sent, notices, tokens⟩, st)
      (⟨r', sent, notices, tokens⟩, st) := by
  subst hlisting hlookup
  refine ⟨rfl, rfl, rfl, rfl, .inr (.inl ⟨a, xs, rfl, hxs⟩), nofun, ⟨fun h => ?_, ?_⟩, ?_, nofun⟩
  · cases xs with
    | nil => exact ⟨a, rfl, hxs⟩
    | cons x xs => cases h
  · rintro ⟨_, ⟨⟩, h⟩
    cases hxs.symm.trans h
    rfl
  · rintro _ x xs' ⟨⟩ h
    cases hxs.symm.trans h
    rfl

theorem Agrees.of_unending (hlisting : r = .unending) (hlookup : r' = .unending) :
    Agrees objects operation kind id (⟨r, sent, notices, tokens⟩, st)
      (⟨r', sent, notices, tokens⟩, st) := by
  subst hlisting hlookup
  exact ⟨rfl, rfl, rfl, rfl, .inr (.inr rfl), nofun, ⟨nofun, nofun⟩, (fun _ _ _ h => nomatch h),
    fun _ => rfl⟩

end

/-- A call that gives the first object of a listing agrees with it. -/
theorem agrees_of_first {c : Client} {listing lookup : Call}
    {objects : Answer → Option (List Answer)} {kind id : String}
    (hlookup : c.backend.action lookup =
      (c.backend.action listing).bind (Answer.first objects kind id))
    (hyields : (c.backend.action listing).Yields fun a => (objects a).isSome = true)
    (hfails : (c.backend.action listing).Within (fun _ => True) (·.isNotFound = false))
    (connected guarded : Bool) (s : Step) (st : State) :
    Agrees objects lookup.operation kind id (step c connected (s.asking guarded listing) st)
      (step c connected (s.asking guarded lookup) st) := by
  rw [step_eq_reportOf (s.call?_asking guarded listing),
    step_eq_reportOf (s.call?_asking guarded lookup), s.caller_asking c guarded lookup listing]
  split
  · exact .of_error rfl rfl rfl
  have hworld : (s.asking guarded lookup).world connected st =
      (s.asking guarded listing).world connected st := rfl
  rw [hworld, hlookup, Action.run_bind]
  generalize (s.asking guarded listing).caller c = caller
  generalize (s.asking guarded listing).world connected st = world
  rcases hrun : (c.backend.action listing).run caller world with ⟨(e | a) | _ | _ | _, w⟩
  case finished.error =>
    have hfailure := (c.backend.within_action listing).allowed_of_run hrun
    exact .of_error rfl (Result.eq_under hfailure _) (hfails.allowed_of_run hrun)
  case finished.ok =>
    have hok : ((c.backend.action listing).run caller world).1.ok? = some a :=
      congrArg (·.1.ok?) hrun
    obtain ⟨xs, hxs⟩ := Option.isSome_iff_exists.1 (hyields.ok?_run hok)
    dsimp only
    rw [Answer.first_eq hxs]
    exact .of_listed rfl hxs rfl
  case cancelled => exact .of_error rfl rfl rfl
  case expired => exact .of_error rfl rfl rfl
  case unending => exact .of_unending rfl rfl

theorem agrees_getInstance (c : Client) (connected guarded : Bool) (s : Step) (st : State)
    (id : String) :
    Agrees (Answer.instancesOf c.backend) "GetInstance" "instance" id
      (step c connected (s.asking guarded (.listInstances (.one id))) st)
      (step c connected (s.asking guarded (.getInstance id)) st) := by
  have hyields : (c.backend.action (.listInstances (.one id))).Yields
      fun a => (Answer.instancesOf c.backend a).isSome = true := by
    cases c.backend with
    | e2b b => exact (Action.yields_any _).map fun _ _ => rfl
    | cloud b => exact (Action.yields_any _).map fun _ _ => rfl
  have hfails : (c.backend.action (.listInstances (.one id))).Within (fun _ => True)
      (·.isNotFound = false) := by
    cases c.backend with
    | e2b b => exact (b.listAll_within_isNotFound.bind fun _ => .ok _).map _
    | cloud b => exact (b.call_within_isNotFound _ _ _ _).map _
  -- the name of the operation is computed only once the call is known
  have hagrees := agrees_of_first (c.backend.action_getInstance id) hyields hfails connected guarded
    s st
  exact hagrees

theorem agrees_getTool (b : CloudBackend) (limit : Option Nat) (connected guarded : Bool) (s : Step)
    (st : State) (id : String) :
    Agrees Answer.toolsOf "GetTool" "tool" id
      (step ⟨.cloud b, limit⟩ connected (s.asking guarded (.listTools (.one id))) st)
      (step ⟨.cloud b, limit⟩ connected (s.asking guarded (.getTool id)) st) := by
  have hyields : ((Backend.cloud b).action (.listTools (.one id))).Yields
      fun a => (Answer.toolsOf a).isSome = true := (Action.yields_any _).map fun _ _ => rfl
  have hfails : ((Backend.cloud b).action (.listTools (.one id))).Within (fun _ => True)
      (·.isNotFound = false) := (b.call_within_isNotFound _ _ _ _).map _
  have hagrees := agrees_of_first (c := ⟨.cloud b, limit⟩) (Backend.action_getTool b id) hyields
    hfails connected guarded s st
  exact hagrees

end Session

/-! ## Responses without objects -/

/-- The body is the envelope of a response that reports no error. -/
def Cloud.IsEnvelope (body : List UInt8) (response : Value) : Prop :=
  ∃ d, documentOf? body = some d ∧ responseOfDocument? d = some response ∧
    response.member? "Error" = none

theorem Cloud.IsEnvelope.isOrdered {body : List UInt8} {response : Value}
    (h : IsEnvelope body response) : response.IsOrdered := by
  obtain ⟨d, hd, hresponse, -⟩ := h
  exact isOrdered_response hd hresponse

namespace Session

variable {b : CloudBackend} {limit : Option Nat} {connected : Bool} {s : Step} {st : State}
  {call : Call} {body : List UInt8} {response : Value}

/-- A call that begins with an action goes on with the record of the response that it receives. -/
theorem Step.Receives.goesOn {α : Type} {context action : String} {request : Value}
    {decode : Document → Option α} {f : α → Action Answer}
    (h : s.Receives ⟨.cloud b, limit⟩ connected st call 200 body)
    (haction : Backend.cloudAction b call = (b.call context action request decode).bind f)
    (hresponse : IsEnvelope body response) :
    ∃ w, step ⟨.cloud b, limit⟩ connected s st = reportOf call.operation (s.caller ⟨.cloud b, limit⟩)
      ((Action.goOn (.inContext context (.decode action)) f
        (decode (.ofValue (recordIn response)))).run (s.caller ⟨.cloud b, limit⟩) w) := by
  obtain ⟨query, next, received, w, hsends, hbytes, -, hstep⟩ := h.step_eq
  obtain ⟨d, hd, hresponse, herror⟩ := hresponse
  subst hbytes
  cases haction.symm.trans hsends
  refine ⟨w, ?_⟩
  rw [hstep]
  dsimp only
  rw [recordOf_whole action decode hd, hresponse]
  dsimp only
  rw [openResponse_of_member? action herror]
  cases decode (.ofValue (recordIn response)) <;> rfl

/-- What is looked up is not found just if the page was decoded and no object is on it. -/
theorem notFound_goOn_iff {α : Type} (objects : Answer → Option (List Answer)) (told : α → Answer)
    {kind id operation : String} {e : Error} {x : Option α} {caller : Caller} {w : World}
    (htold : ∀ page, (objects (told page)).isSome = true) (he : e ≠ .notFound kind id) :
    (reportOf operation caller ((Action.goOn e
        (fun page => Answer.first objects kind id (told page)) x).run caller w)).1.result =
          .error (.notFound kind id) ↔
      ∃ page, x = some page ∧ objects (told page) = some [] := by
  cases x with
  | none =>
    refine ⟨fun h => absurd (Result.error.inj h) he, ?_⟩
    rintro ⟨_, ⟨⟩, -⟩
  | some page =>
    obtain ⟨xs, hxs⟩ := Option.isSome_iff_exists.1 (htold page)
    rw [Action.goOn, Answer.first_eq hxs]
    simp only [hxs, Option.some.injEq, exists_eq_left']
    cases xs with
    | nil => exact ⟨fun _ => rfl, fun _ => rfl⟩
    | cons x xs =>
      refine ⟨fun h => ?_, fun h => absurd h (List.cons_ne_nil x xs)⟩
      cases h

/-- A page is decoded, and it is empty, just if the response is of the form and lists nothing. -/
theorem exists_page_iff {α : Type} {x : Option α} {p : α → Prop} {q : Prop}
    (h : ∀ page, x = some page → (p page ↔ q)) :
    (∃ page, x = some page ∧ p page) ↔ x.isSome = true ∧ q := by
  constructor
  · rintro ⟨page, rfl, hp⟩
    exact ⟨rfl, (h page rfl).1 hp⟩
  · rintro ⟨hsome, hq⟩
    obtain ⟨page, hpage⟩ := Option.isSome_iff_exists.1 hsome
    exact ⟨page, hpage, (h page hpage).2 hq⟩

theorem Step.Receives.getTool_notFound_iff {id : String}
    (h : s.Receives ⟨.cloud b, limit⟩ connected st (.getTool id) 200 body)
    (hresponse : IsEnvelope body response) :
    (step ⟨.cloud b, limit⟩ connected s st).1.result = .error (.notFound "tool" id) ↔
      (toolPageOfDocument? (.ofValue (recordIn response))).isSome = true ∧
        ListsNone "SandboxToolSet" response := by
  have haction : Backend.cloudAction b (.getTool id) = _ :=
    (Backend.action_getTool b id).trans ((b.listTools (.one id)).bind_assoc _ _)
  obtain ⟨w, hstep⟩ := h.goesOn haction hresponse
  rw [hstep]
  refine (notFound_goOn_iff Answer.toolsOf Answer.tools (fun _ => rfl) ?_).trans ?_
  · nofun
  · refine exists_page_iff fun page hpage => ?_
    rw [← tools_eq_nil_iff hresponse.isOrdered hpage]
    simp [Answer.toolsOf]

theorem Step.Receives.getInstance_notFound_iff {id : String}
    (h : s.Receives ⟨.cloud b, limit⟩ connected st (.getInstance id) 200 body)
    (hresponse : IsEnvelope body response) :
    (step ⟨.cloud b, limit⟩ connected s st).1.result = .error (.notFound "instance" id) ↔
      (instancePageOfDocument? (.ofValue (recordIn response))).isSome = true ∧
        ListsNone "InstanceSet" response := by
  have haction : Backend.cloudAction b (.getInstance id) = _ :=
    ((Backend.cloud b).action_getInstance id).trans ((b.listInstances (.one id)).bind_assoc _ _)
  obtain ⟨w, hstep⟩ := h.goesOn haction hresponse
  rw [hstep]
  refine (notFound_goOn_iff (Answer.instancesOf (.cloud b)) Answer.instances (fun _ => rfl)
    ?_).trans ?_
  · nofun
  · refine exists_page_iff fun page hpage => ?_
    rw [← instances_eq_nil_iff hresponse.isOrdered hpage]
    simp [Answer.instancesOf]

/-- To look up a tool or an instance is to list those with its id and to take the first: the same
requests are sent, and the same error comes back, or the object, or that it was not found.  The
control plane finds none just if its response lists none, be the set missing, `null` or empty. -/
theorem looked_up :
    (∀ (c : Client) (connected guarded : Bool) (s : Step) (st : State) (id : String),
      Agrees (Answer.instancesOf c.backend) "GetInstance" "instance" id
        (step c connected (s.asking guarded (.listInstances (.one id))) st)
        (step c connected (s.asking guarded (.getInstance id)) st)) ∧
    (∀ (b : CloudBackend) (limit : Option Nat) (connected guarded : Bool) (s : Step) (st : State)
      (id : String),
      Agrees Answer.toolsOf "GetTool" "tool" id
        (step ⟨.cloud b, limit⟩ connected (s.asking guarded (.listTools (.one id))) st)
        (step ⟨.cloud b, limit⟩ connected (s.asking guarded (.getTool id)) st)) ∧
    ∀ {b : CloudBackend} {limit : Option Nat} {connected : Bool} {s : Step} {st : State}
      {id : String} {body : List UInt8} {response : Value}, IsEnvelope body response →
      (s.Receives ⟨.cloud b, limit⟩ connected st (.getTool id) 200 body →
        ((step ⟨.cloud b, limit⟩ connected s st).1.result = .error (.notFound "tool" id) ↔
          (toolPageOfDocument? (.ofValue (recordIn response))).isSome = true ∧
            ListsNone "SandboxToolSet" response)) ∧
      (s.Receives ⟨.cloud b, limit⟩ connected st (.getInstance id) 200 body →
        ((step ⟨.cloud b, limit⟩ connected s st).1.result = .error (.notFound "instance" id) ↔
          (instancePageOfDocument? (.ofValue (recordIn response))).isSome = true ∧
            ListsNone "InstanceSet" response)) :=
  ⟨agrees_getInstance, agrees_getTool, fun hresponse =>
    ⟨fun h => h.getTool_notFound_iff hresponse, fun h => h.getInstance_notFound_iff hresponse⟩⟩

/-- A tool and an instance are not found in a response that has `null` for the set, an empty one or
none. -/
theorem looked_up_none :
    let result (call : Call) (response : Value) : Result :=
      (step ⟨.cloud plain, none⟩ true
        (.answered call (Utf8.encode (replyText response.toText))) ⟨.empty, false⟩).1.result
    (∀ response ∈ [.object [], .object [("SandboxToolSet", .null)],
        .object [("SandboxToolSet", .list [])]],
      result (.getTool "t") response = .error (.notFound "tool" "t")) ∧
    ∀ response ∈ [.object [], .object [("InstanceSet", .null)], .object [("InstanceSet", .list [])]],
      result (.getInstance "i") response = .error (.notFound "instance" "i") := by
  intro result
  have henvelope {response : Value} (hfits : response.Fits (124 + 2))
      (herror : response.sorted.member? "Error" = none) :
      IsEnvelope (Utf8.encode (replyText response.toText)) response.sorted :=
    ⟨_, documentOf?_replyText hfits, responseOfDocument?_ofValue response, herror⟩
  have htool {response : Value} (hfits : response.Fits (124 + 2))
      (herror : response.sorted.member? "Error" = none)
      (hpage : (toolPageOfDocument? (.ofValue (recordIn response.sorted))).isSome = true)
      (hnone : ListsNone "SandboxToolSet" response.sorted) :
      result (.getTool "t") response = .error (.notFound "tool" "t") :=
    ((looked_up.2.2 (henvelope hfits herror)).1
      (Step.receives_answered _ (plain.cloudAction_getTool "t") (by decide))).2 ⟨hpage, hnone⟩
  have hinstance {response : Value} (hfits : response.Fits (124 + 2))
      (herror : response.sorted.member? "Error" = none)
      (hpage : (instancePageOfDocument? (.ofValue (recordIn response.sorted))).isSome = true)
      (hnone : ListsNone "InstanceSet" response.sorted) :
      result (.getInstance "i") response = .error (.notFound "instance" "i") :=
    ((looked_up.2.2 (henvelope hfits herror)).2
      (Step.receives_answered _ rfl (by decide))).2 ⟨hpage, hnone⟩
  constructor
  · simp only [List.forall_mem_cons]
    exact ⟨htool (by simp) rfl rfl nofun, htool (by simp) rfl rfl (by rintro _ ⟨⟩; exact .inl rfl),
      htool (by simp) rfl rfl (by rintro _ ⟨⟩; exact .inr rfl), nofun⟩
  · simp only [List.forall_mem_cons]
    exact ⟨hinstance (by simp) rfl rfl nofun,
      hinstance (by simp) rfl rfl (by rintro _ ⟨⟩; exact .inl rfl),
      hinstance (by simp) rfl rfl (by rintro _ ⟨⟩; exact .inr rfl), nofun⟩

end Session

end AgentSandbox

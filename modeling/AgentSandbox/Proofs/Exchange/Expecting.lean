import AgentSandbox.Proofs.Exchange.Bodies

/-!
# What is made of a reply

An `Expectation` says which statuses a call accepts, whether it reads the body of an accepted reply,
and which documents are of the expected shape.  A whole reply either is refused, with an error that
says why (`Expectation.Refuses`), or it is as expected (`Expectation.Welcomes`).  An action that
`Action.Asks` so fails with that error, or it goes on without sending anything more
(`Action.Concludes`), and then only something that is not there can still be an error.
-/

namespace AgentSandbox

open Json

/-- What a call expects of the reply to its request. -/
structure Expectation where
  accepts : List Nat
  /-- Whether the body of an accepted reply is read. -/
  reads : Bool
  /-- The documents that report an error, and what they report. -/
  reports : Document → Value → Prop
  /-- The documents of the expected shape. -/
  fits : Document → Prop

/-- Something that was asked for, or a field of it, is not there. -/
def Error.IsMissing (e : Error) : Prop :=
  (∃ kind id, e.root = .notFound kind id) ∨ ∃ context field, e.root = .incomplete context field

namespace Expectation

variable {e : Expectation} {status : Nat} {body : List UInt8}

/-- The body reports an error. -/
def Reports (e : Expectation) (body : List UInt8) (reported : Value) : Prop :=
  ∃ d, documentOf? body = some d ∧ e.reports d reported

/-- The body is a document of the expected shape. -/
def Fits (e : Expectation) (body : List UInt8) : Prop :=
  ∃ d, documentOf? body = some d ∧ e.fits d

/-- The errors that a reply stands for. -/
inductive Refuses (e : Expectation) (status : Nat) (body : List UInt8) (err : Error) : Prop where
  | status (refused : status ∉ e.accepts) {context : String}
      (root : err.root = .api context status (Utf8.lossyString body))
  | reported (accepted : status ∈ e.accepts) (read : e.reads = true) {reported : Value}
      (reports : e.Reports body reported) {action code text id : String}
      (root : err.root = .service action code text id)
  | malformed (accepted : status ∈ e.accepts) (read : e.reads = true)
      (silent : ∀ reported, ¬ e.Reports body reported) (misfits : ¬ e.Fits body) {context : String}
      (root : err.root = .decode context)

/-- The reply is as expected. -/
structure Welcomes (e : Expectation) (status : Nat) (body : List UInt8) : Prop where
  accepted : status ∈ e.accepts
  silent : e.reads = true → ∀ reported, ¬ e.Reports body reported
  fits : e.reads = true → e.Fits body

section

variable {err : Error}

theorem Refuses.of_not_accepted (h : e.Refuses status body err) (hstatus : status ∉ e.accepts) :
    ∃ context, err.root = .api context status (Utf8.lossyString body) := by
  cases h with
  | status _ root => exact ⟨_, root⟩
  | reported accepted => exact absurd accepted hstatus
  | malformed accepted => exact absurd accepted hstatus

theorem Refuses.of_reports (h : e.Refuses status body err) (hstatus : status ∈ e.accepts)
    {reported : Value} (hreports : e.Reports body reported) :
    ∃ action code text id, err.root = .service action code text id := by
  cases h with
  | status refused => exact absurd hstatus refused
  | reported _ _ _ root => exact ⟨_, _, _, _, root⟩
  | malformed _ _ silent => exact absurd hreports (silent reported)

theorem Refuses.of_silent (h : e.Refuses status body err) (hstatus : status ∈ e.accepts)
    (hsilent : ∀ reported, ¬ e.Reports body reported) : err.IsMalformed := by
  cases h with
  | status refused => exact absurd hstatus refused
  | reported _ _ reports => exact absurd reports (hsilent _)
  | malformed _ _ _ _ root => exact ⟨_, root⟩

/-- A reply that is as expected stands for no error. -/
theorem Welcomes.not_refuses (h : e.Welcomes status body) : ¬ e.Refuses status body err := by
  rintro (⟨refused⟩ | ⟨-, read, reports⟩ | ⟨-, read, -, misfits⟩)
  · exact refused h.accepted
  · exact h.silent read _ reports
  · exact misfits (h.fits read)

theorem Refuses.inContext (h : e.Refuses status body err) (context : String) :
    e.Refuses status body (.inContext context err) := by
  cases h with
  | status refused root => exact .status refused root
  | reported accepted read reports root => exact .reported accepted read reports root
  | malformed accepted read silent misfits root => exact .malformed accepted read silent misfits root

end

/-- If nobody reads the body then an accepted status is enough. -/
theorem Welcomes.of_accepted (hstatus : status ∈ e.accepts) (hreads : e.reads = false) :
    e.Welcomes status body where
  accepted := hstatus
  silent hread := absurd (hreads.symm.trans hread) Bool.false_ne_true
  fits hread := absurd (hreads.symm.trans hread) Bool.false_ne_true

/-- A whole reply is refused for its status, or its content is kept. -/
theorem accepted_or_refuses (e : Expectation) (context : String) (lost : TransportFault → Error)
    (status : Nat) (received : Received) :
    (∃ err, Outcome.accepted context e.accepts lost (.reply status received none) = .error err ∧
        e.Refuses status received.bytes err) ∨
      status ∈ e.accepts ∧
        Outcome.accepted context e.accepts lost (.reply status received none) =
          .ok ⟨received, none⟩ := by
  by_cases hstatus : status ∈ e.accepts
  · exact .inr ⟨hstatus, if_pos (List.contains_iff_mem.2 hstatus)⟩
  · exact .inl ⟨_, if_neg (mt List.contains_iff_mem.1 hstatus), .status hstatus rfl⟩

/-- What the body of a reply is received as. -/
def reception (e : Expectation) (status : Nat) : Received :=
  if e.accepts.contains status && !e.reads then .nothing else .body []

end Expectation

namespace Action

variable {α β : Type} {e : Expectation}

/-- The action sends nothing and has no error but that something is not there. -/
inductive Concludes : Action α → Prop where
  | ok (x : α) : Concludes (.done (.ok x))
  | missing {err : Error} (h : err.IsMissing) : Concludes (.done (.error err))
  | token {op : TokenCache.Operation} {next : Option String → Action α}
      (after : ∀ t, Concludes (next t)) : Concludes (.token op next)

namespace Concludes

theorem bind {a : Action α} (ha : a.Concludes) {f : α → Action β} (hf : ∀ x, (f x).Concludes) :
    (a.bind f).Concludes := by
  induction ha with
  | ok x => exact hf x
  | missing h => exact .missing h
  | token _ ih => exact .token ih

/-- Such an action comes to its end. -/
theorem exists_run {a : Action α} (ha : a.Concludes) (c : Caller) (w : World) :
    ∃ r w', a.run c w = (.finished r, w') ∧ ∀ err, r = .error err → err.IsMissing := by
  induction ha generalizing w with
  | ok x => exact ⟨.ok x, w, rfl, nofun⟩
  | @missing err h => exact ⟨.error err, w, rfl, fun _ heq => Except.error.inj heq ▸ h⟩
  | token _ ih => exact ih _ _

end Concludes

/-- The action sends nothing, or one request first, and then makes of a whole reply what is
expected. -/
inductive Asks (e : Expectation) : Action α → Prop where
  | fail (err : Error) : Asks e (fail err)
  | send {q : Query} {next : Outcome → Action α} (reception : q.reception = e.reception)
      (whole : ∀ status received,
        (∃ err, next (.reply status received none) = Action.fail err ∧
          e.Refuses status received.bytes err) ∨
        e.Welcomes status received.bytes ∧ (next (.reply status received none)).Concludes) :
      Asks e (.send q next)

namespace Asks

theorem bind {a : Action α} (ha : a.Asks e) {f : α → Action β} (hf : ∀ x, (f x).Concludes) :
    (a.bind f).Asks e := by
  cases ha with
  | fail err => exact .fail err
  | @send q next reception whole =>
    refine .send reception fun status received => ?_
    rcases whole status received with ⟨err, hnext, hrefuses⟩ | ⟨hwelcomes, hconcludes⟩
    · exact .inl ⟨err, by rw [hnext]; rfl, hrefuses⟩
    · exact .inr ⟨hwelcomes, hconcludes.bind hf⟩

theorem map {a : Action α} (ha : a.Asks e) (f : α → β) : (f <$> a).Asks e :=
  ha.bind fun _ => .ok _

end Asks

end Action

end AgentSandbox

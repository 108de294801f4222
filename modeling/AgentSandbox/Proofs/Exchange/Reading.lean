import AgentSandbox.Proofs.Exchange.Bodies
import AgentSandbox.Proofs.Json.Decoding

/-!
# How actions read their replies

A `Reading` says what the body of a reply may be and which field of it an action cannot do without.
An action that `Action.ReadsAs` such a reading has a decoder that bears removals from documents of
the shape.  Once something is decoded, only the lack of that field may still be an error about the
body.
-/

namespace AgentSandbox

open Json

/-- What the body of a reply is read as. -/
structure Reading where
  /-- The statuses of the replies that are read. -/
  accepts : List Nat
  /-- The documents that do not report an error. -/
  fits : Document → Prop
  shape : Shape
  /-- The path to the field that has to be given, if there is one. -/
  needs : List String

/-- An error that may come up once the body has been decoded. -/
def Reading.Allows (r : Reading) (e : Error) : Prop :=
  ¬ e.IsMalformed ∧ ∀ field, e.Lacks field → r.needs.getLast? = some field

theorem Error.IsEarly.allowed {e : Error} (h : e.IsEarly) (r : Reading) : r.Allows e :=
  ⟨h.not_isMalformed, fun field hfield => absurd hfield (h.not_lacks field)⟩

theorem Error.Lacks.allowed {e : Error} {field : String} (h : e.Lacks field) {r : Reading}
    (hneeds : r.needs.getLast? = some field) : r.Allows e := by
  refine ⟨fun hmalformed => hmalformed.not_lacks field h, fun other hother => ?_⟩
  obtain ⟨context, hroot⟩ := h
  obtain ⟨context', hroot'⟩ := hother
  cases hroot.symm.trans hroot'
  exact hneeds

namespace Action

variable {β γ : Type} {r : Reading} {a : Action β}

/-- The action reads the body of the reply to its first request in this way. -/
inductive ReadsAs (r : Reading) (a : Action β) : Prop where
  | intro {α : Type} {decode : Document → Option α} {e : Error} {g : α → Action β}
      (bears : r.shape.Bears decode) (malformed : e.IsMalformed)
      (reads : a.Reads r.accepts r.fits decode e g)
      (later : ∀ x, (g x).Within (fun _ => True) r.Allows)
      (lacking : ∀ d x, d.Lacks r.needs → decode d = some x →
        ∃ err field, g x = fail err ∧ r.needs.getLast? = some field ∧ err.Lacks field) :
      ReadsAs r a

namespace ReadsAs

theorem fail {early : Error} (h : early.IsEarly) : (Action.fail early : Action β).ReadsAs r := by
  have hreads : (Action.fail early : Action β).Reads r.accepts r.fits (fun _ => none) (.decode "")
      Empty.elim := .fail h
  exact .intro (fun exact _ _ _ => .refl exact none) ⟨"", rfl⟩ hreads nofun fun _ _ _ hx => nomatch hx

theorem bind (ha : a.ReadsAs r) {f : β → Action γ}
    (hf : ∀ y, (f y).Within (fun _ => True) r.Allows) : (a.bind f).ReadsAs r := by
  obtain ⟨bears, malformed, reads, later, lacking⟩ := ha
  refine .intro bears malformed (reads.bind f) (fun x => (later x).bind hf) fun d x hd hx => ?_
  obtain ⟨err, field, hg, hneeds, herr⟩ := lacking d x hd hx
  exact ⟨err, field, by rw [hg]; rfl, hneeds, herr⟩

theorem map (ha : a.ReadsAs r) (f : β → γ) : (f <$> a).ReadsAs r :=
  ha.bind fun _ => .ok _

end ReadsAs

/-- An action that only decodes the body reads it in this way if nothing is needed. -/
theorem Reads.readsAs {decode : Document → Option β} {e : Error}
    (ha : a.Reads r.accepts r.fits decode e fun x => .done (.ok x)) (bears : r.shape.Bears decode)
    (malformed : e.IsMalformed) (hneeds : r.needs = []) : a.ReadsAs r := by
  refine .intro bears malformed ha (fun x => .ok x) fun d x hd _ => ?_
  rw [hneeds] at hd
  cases d <;> exact hd.elim

end Action

end AgentSandbox

import AgentSandbox.Proofs.Exchange.Action
import AgentSandbox.Proofs.Json.Printing
import AgentSandbox.Proofs.Text.Encoding
import AgentSandbox.Proofs.Text.Utf8

/-!
# Replies with different bodies

Two replies may differ in nothing but the bytes of their bodies (`Reply.Twins`).  An exchange does
not look at the bytes, so it ends in the same way with either of them (`World.exchange_twins`).  An
action that `Action.Reads` the body of its first reply goes on with what it decodes, or it ends early
and then does so with either reply (`Action.Reads.run_twins`).
-/

namespace AgentSandbox

open Json

/-- The document of bytes that are UTF-8 is that of their text. -/
theorem documentOf?_of_decodeStrict? {bytes : List UInt8} {cs : List Char}
    (h : Utf8.decodeStrict? bytes = some cs) : documentOf? bytes = Document.read? cs := by
  have hmark : some illFormed ∈ cs.map some ↔ illFormed ∈ cs := by simp
  have hcs : (cs.map some).map (·.getD illFormed) = cs := by
    rw [List.map_map]
    exact List.map_id cs
  simp only [documentOf?, Utf8.decode_of_decodeStrict? h, hmark, hcs]
  rfl

/-- The text of a value spells it. -/
theorem documentOf?_toText {v : Value} (h : v.Fits maxNesting) :
    documentOf? (Utf8.encode v.toText) = some (.ofValue v) := by
  rw [documentOf?_of_decodeStrict? (Utf8.decodeStrict?_encode _), Value.toText,
    String.toList_ofList]
  exact Document.read?_print h

theorem Content.decode_whole {α : Type} (context : String) (decode : Document → Option α)
    (received : Received) :
    Content.decode context decode ⟨received, none⟩ =
      match (documentOf? received.bytes).bind decode with
      | some a => .ok a
      | none => .error (.decode context) := rfl

/-! ## Errors about bodies -/

namespace Error

/-- What was received is not of the expected form. -/
def IsMalformed (e : Error) : Prop := ∃ context, e.root = .decode context

/-- What was received lacks a field that the call needs. -/
def Lacks (field : String) (e : Error) : Prop := ∃ context, e.root = .incomplete context field

/-- The error is not about the record in the body of a reply. -/
def IsEarly (e : Error) : Prop :=
  match e.root with
  | .decode _ => False
  | .incomplete .. => False
  | _ => True

variable {e : Error}

theorem IsEarly.not_isMalformed (h : e.IsEarly) : ¬ e.IsMalformed := by
  rintro ⟨context, hroot⟩
  rw [IsEarly, hroot] at h
  exact h

theorem IsEarly.not_lacks (h : e.IsEarly) (field : String) : ¬ e.Lacks field := by
  rintro ⟨context, hroot⟩
  rw [IsEarly, hroot] at h
  exact h

theorem IsMalformed.not_lacks (h : e.IsMalformed) (field : String) : ¬ e.Lacks field := by
  rintro ⟨context, hroot⟩
  obtain ⟨context', hroot'⟩ := h
  cases hroot.symm.trans hroot'

end Error

/-- There is no result, and if there is an error then it is not about the record in the body of a
reply. -/
def Ending.IsEarly {α : Type} (ending : Ending α) : Prop :=
  ending.ok? = none ∧ ∀ e, ending = .finished (.error e) → e.IsEarly

/-! ## Exchanges -/

/-- Two replies with a status that differ in nothing but their bodies. -/
inductive Reply.Twins (status : Nat) : List UInt8 → List UInt8 → Reply → Reply → Prop where
  | intro {cancels : Bool} {pause : Nat} {ending : BodyEnd} {chunks chunks' : List Chunk}
      (pauses : chunks.map (·.pause) = chunks'.map (·.pause)) :
      Twins status (chunks.flatMap (·.bytes)) (chunks'.flatMap (·.bytes))
        ⟨cancels, pause, .answer status chunks ending⟩
        ⟨cancels, pause, .answer status chunks' ending⟩

/-- Two exchanges ended in the same way, but for the bodies of their replies. -/
inductive Finish.Twins (status : Nat) (body body' : List UInt8) : Finish → Finish → Prop where
  | early {f : Finish} (h : f.LacksReply) : Twins status body body' f f
  | cut (bytes bytes' : List UInt8) (fault : TransportFault) :
      Twins status body body' (.outcome (.reply status (.body bytes) (some fault)))
        (.outcome (.reply status (.body bytes') (some fault)))
  | whole :
      Twins status body body' (.outcome (.reply status (.body body) none))
        (.outcome (.reply status (.body body') none))

namespace World

variable {c : Caller} {limit : Option Nat} {w : World} {status : Nat} {body body' : List UInt8}

/-- The world without its connection. -/
def unlinked (w : World) : World := { w with link := .down }

/-- Two waits at the same time have ends that are related if whatever ends them is. -/
theorem wait_related {R : Finish × World → Finish × World → Prop} {w w' : World}
    {late late' : Outcome} {next next' : World → Finish × World}
    (hc : w.cancelled = w'.cancelled) (he : w.elapsed = w'.elapsed)
    (hcancelled : R (.cancelled, w) (.cancelled, w'))
    (hlate : R (.outcome late, w) (.outcome late', w')) (hexpired : R (.expired, w) (.expired, w'))
    (hnext : R (next w) (next' w')) :
    R (w.wait c limit late next) (w'.wait c limit late' next') := by
  unfold wait
  rw [← hc, ← he]
  split
  · exact hcancelled
  split
  · exact hlate
  split
  · exact hexpired
  · exact hnext

theorem waitInVain_related {R : Finish × World → Finish × World → Prop} {late late' : Outcome}
    (hunending : R (.unending, w) (.unending, w))
    (hlate : ∀ n, R (.outcome late, { w with elapsed := n }) (.outcome late', { w with elapsed := n }))
    (hexpired : ∀ n, R (.expired, { w with elapsed := n }) (.expired, { w with elapsed := n })) :
    R (w.waitInVain c limit late) (w.waitInVain c limit late') := by
  unfold waitInVain
  split
  · exact hunending
  · exact hlate _
  · exact hexpired _
  · split
    · exact hlate _
    · exact hexpired _

theorem lacksReply_cancelled : Finish.cancelled.LacksReply := fun _ _ _ => nofun

theorem lacksReply_expired : Finish.expired.LacksReply := fun _ _ _ => nofun

theorem lacksReply_unending : Finish.unending.LacksReply := fun _ _ _ => nofun

theorem lacksReply_fault (f : TransportFault) : (Finish.outcome (.fault f)).LacksReply :=
  fun _ _ _ => nofun

/-- The exchanges ended in the same way but for the bodies, and left the same world. -/
def ReceivedTwins (status : Nat) (body body' : List UInt8) (r r' : Finish × World) : Prop :=
  Finish.Twins status body body' r.1 r'.1 ∧ r.2 = r'.2

theorem receive_twins {chunks chunks' : List Chunk}
    (hpauses : chunks.map (·.pause) = chunks'.map (·.pause)) (status : Nat) (ending : BodyEnd)
    (bytes bytes' : List UInt8) (w : World) :
    ReceivedTwins status (bytes ++ chunks.flatMap (·.bytes)) (bytes' ++ chunks'.flatMap (·.bytes))
      (receive c limit status ending chunks (.body bytes) w)
      (receive c limit status ending chunks' (.body bytes') w) := by
  induction chunks generalizing chunks' bytes bytes' w with
  | nil =>
    obtain rfl : chunks' = [] := List.map_eq_nil_iff.1 hpauses.symm
    unfold receive
    refine wait_related rfl rfl ⟨.early lacksReply_cancelled, rfl⟩ ⟨.cut _ _ _, rfl⟩
      ⟨.early lacksReply_expired, rfl⟩ ?_
    cases ending with
    | complete =>
      rw [List.flatMap_nil, List.append_nil, List.append_nil]
      exact ⟨.whole, rfl⟩
    | broken => exact ⟨.cut _ _ _, rfl⟩
    | silence =>
      exact waitInVain_related ⟨.early lacksReply_unending, rfl⟩ (fun _ => ⟨.cut _ _ _, rfl⟩)
        fun _ => ⟨.early lacksReply_expired, rfl⟩
  | cons chunk chunks ih =>
    rcases chunks' with _ | ⟨chunk', chunks'⟩
    · cases hpauses
    obtain ⟨hpause, hpauses⟩ := List.cons.inj hpauses
    have hpause : chunk.pause = chunk'.pause := hpause
    unfold receive
    rw [hpause, List.flatMap_cons, List.flatMap_cons, ← List.append_assoc, ← List.append_assoc]
    refine wait_related rfl rfl ⟨.early lacksReply_cancelled, rfl⟩ ⟨.cut _ _ _, rfl⟩
      ⟨.early lacksReply_expired, rfl⟩ ?_
    exact ih hpauses _ _ _

/-- The world with some replies that are going to be given. -/
def withReplies (replies : List Reply) (w : World) : World := { w with link := .up replies }

/-- An exchange does not look at the bytes of the body that it receives. -/
theorem exchange_twins {q : Query} (hq : q.reception status = .body []) {r r' : Reply}
    (h : Reply.Twins status body body' r r') (c : Caller) (rest : List Reply) (w : World) :
    let e := (w.withReplies (r :: rest)).exchange c q
    let e' := (w.withReplies (r' :: rest)).exchange c q
    Finish.Twins status body body' e.1 e'.1 ∧ e.2.unlinked = e'.2.unlinked ∧
      (e.1.LacksReply ∨ e.2 = e'.2) := by
  obtain ⟨hpauses⟩ := h
  unfold exchange
  split
  case isFalse =>
    exact ⟨.early (lacksReply_fault _), rfl, .inl (lacksReply_fault _)⟩
  refine wait_related (R := fun e e' => Finish.Twins status _ _ e.1 e'.1 ∧
    e.2.unlinked = e'.2.unlinked ∧ (e.1.LacksReply ∨ e.2 = e'.2)) rfl rfl
    ⟨.early lacksReply_cancelled, rfl, .inl lacksReply_cancelled⟩
    ⟨.early (lacksReply_fault _), rfl, .inl (lacksReply_fault _)⟩
    ⟨.early lacksReply_expired, rfl, .inl lacksReply_expired⟩ ?_
  -- the request arrives, and from here on the worlds are the same
  suffices hreceived : ReceivedTwins status _ _ _ _ from
    ⟨hreceived.1, congrArg unlinked hreceived.2, .inr hreceived.2⟩
  refine wait_related rfl rfl ⟨.early lacksReply_cancelled, rfl⟩
    ⟨.early (lacksReply_fault _), rfl⟩ ⟨.early lacksReply_expired, rfl⟩ ?_
  simp only [respond, hq]
  exact receive_twins hpauses status _ [] [] _

end World

/-! ## Actions that read a body -/

namespace Action

variable {α β γ : Type} {accepts : List Nat} {fit : Document → Prop}
  {decode : Document → Option α} {e : Error} {g : α → Action β} {a : Action β}

/-- Goes on with what was decoded, or fails. -/
def goOn (e : Error) (g : α → Action β) : Option α → Action β
  | some x => g x
  | none => fail e

/-- The action fails early, or it sends a request and goes on with `g` after what it decodes of the
body of an accepted reply, if the document in the body is `fit`.  If it cannot decode that, the
error is `e`. -/
inductive Reads (accepts : List Nat) (fit : Document → Prop) (decode : Document → Option α)
    (e : Error) (g : α → Action β) : Action β → Prop where
  | fail {early : Error} (h : early.IsEarly) : Reads accepts fit decode e g (fail early)
  | send {q : Query} {next : Outcome → Action β}
      (reception : ∀ status ∈ accepts, q.reception status = .body [])
      (lost : ∀ f, ∃ early : Error, early.IsEarly ∧ next (.fault f) = Action.fail early)
      (cut : ∀ status ∈ accepts, ∀ f, ∃ early : Error, early.IsEarly ∧
        ∀ bytes, next (.reply status (.body bytes) (some f)) = Action.fail early)
      (whole : ∀ status ∈ accepts, ∀ bytes d, documentOf? bytes = some d → fit d →
        next (.reply status (.body bytes) none) = goOn e g (decode d)) :
      Reads accepts fit decode e g (.send q next)

namespace Reads

theorem bind (ha : a.Reads accepts fit decode e g) (f : β → Action γ) :
    (a.bind f).Reads accepts fit decode e fun x => (g x).bind f := by
  cases ha with
  | fail h => exact .fail h
  | send reception lost cut whole =>
    refine .send reception (fun fault => ?_) (fun status hstatus fault => ?_)
      fun status hstatus bytes d hd hfit => ?_
    · obtain ⟨early, hearly, hnext⟩ := lost fault
      exact ⟨early, hearly, by rw [hnext]; rfl⟩
    · obtain ⟨early, hearly, hnext⟩ := cut status hstatus fault
      exact ⟨early, hearly, fun bytes => by rw [hnext]; rfl⟩
    · rw [whole status hstatus bytes d hd hfit]
      cases decode d <;> rfl

theorem map (ha : a.Reads accepts fit decode e g) (f : β → γ) :
    (f <$> a).Reads accepts fit decode e fun x => f <$> g x :=
  ha.bind _

variable {c : Caller} {status : Nat} {body body' : List UInt8} {r r' : Reply} {d d' : Document}

/-- With two replies that differ in their bodies an action ends early and alike, or it goes on in the
same world with what it decodes of either body. -/
theorem run_twins (ha : a.Reads accepts fit decode e g) (hstatus : status ∈ accepts)
    (h : Reply.Twins status body body' r r') (hd : documentOf? body = some d) (hfit : fit d)
    (hd' : documentOf? body' = some d') (hfit' : fit d') (c : Caller) (rest : List Reply)
    (w : World) :
    (∃ ending : Ending β, ∃ w₁ w₁' : World, ending.IsEarly ∧ w₁.unlinked = w₁'.unlinked ∧
        a.run c (w.withReplies (r :: rest)) = (ending, w₁) ∧
        a.run c (w.withReplies (r' :: rest)) = (ending, w₁')) ∨
      ∃ w₁, a.run c (w.withReplies (r :: rest)) = (goOn e g (decode d)).run c w₁ ∧
        a.run c (w.withReplies (r' :: rest)) = (goOn e g (decode d')).run c w₁ := by
  have hfailed {early : Error} (hearly : early.IsEarly) :
      (Ending.finished (.error early) : Ending β).IsEarly := by
    refine ⟨rfl, ?_⟩
    rintro _ ⟨⟩
    exact hearly
  cases ha with
  | fail hearly =>
    exact .inl ⟨_, w.withReplies (r :: rest), w.withReplies (r' :: rest), hfailed hearly, rfl, rfl, rfl⟩
  | @send q next reception lost cut whole =>
    obtain ⟨hends, hworlds, hreply⟩ := World.exchange_twins (reception status hstatus) h c rest w
    simp only [run]
    generalize (w.withReplies (r :: rest)).exchange c q = t at hends hworlds hreply
    generalize (w.withReplies (r' :: rest)).exchange c q = t' at hends hworlds hreply
    rcases t with ⟨finish, w₁⟩
    rcases t' with ⟨finish', w₁'⟩
    cases hends with
    | early hlacks =>
      rcases finish with (fault | ⟨status', received, cut'⟩) | _ | _ | _
      case outcome.fault =>
        obtain ⟨early, hearly, hnext⟩ := lost fault
        simp only [hnext]
        exact .inl ⟨_, _, _, hfailed hearly, hworlds, rfl, rfl⟩
      case outcome.reply => exact absurd rfl (hlacks status' received cut')
      all_goals
        refine .inl ⟨_, _, _, ⟨rfl, ?_⟩, hworlds, rfl, rfl⟩
        rintro _ ⟨⟩
    | cut bytes bytes' fault =>
      obtain ⟨early, hearly, hnext⟩ := cut status hstatus fault
      simp only [hnext]
      exact .inl ⟨_, _, _, hfailed hearly, hworlds, rfl, rfl⟩
    | whole =>
      obtain rfl : w₁ = w₁' := hreply.resolve_left fun hlacks => hlacks _ _ _ rfl
      simp only [whole status hstatus body d hd hfit, whole status hstatus body' d' hd' hfit']
      exact .inr ⟨w₁, rfl, rfl⟩

end Reads

end Action

end AgentSandbox

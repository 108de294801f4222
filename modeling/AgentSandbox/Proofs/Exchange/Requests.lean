import AgentSandbox.Proofs.Exchange.Deadline

/-!
# The requests that actions send

`Action.Sends` bounds the requests of an action, whatever the service answers, and nothing else
arrives when the action is carried out (`Action.Sends.sent_run`).  `Action.Yields` bounds its results
in the same way.  An action that `Action.Begins` with a request has no result unless that request
arrived, before all others (`Action.Begins.sent_run`).
-/

namespace AgentSandbox.Action

variable {α β : Type} {s : Request → Prop} {a : Action α} {c : Caller} {w : World}

/-- Every request of the action is one that `s` allows, whatever the service answers. -/
inductive Sends (s : Request → Prop) : Action α → Prop where
  | done (r : Except Error α) : Sends s (.done r)
  | token (op : TokenCache.Operation) {next : Option String → Action α}
      (after : ∀ t, Sends s (next t)) : Sends s (.token op next)
  | send {q : Query} {next : Outcome → Action α} (allowed : s q.request)
      (after : ∀ o, Sends s (next o)) : Sends s (.send q next)

namespace Sends

theorem bind {f : α → Action β} (ha : a.Sends s) (hf : ∀ x, (f x).Sends s) :
    (a.bind f).Sends s := by
  induction ha with
  | done r =>
    cases r with
    | ok x => exact hf x
    | error e => exact .done _
  | token op _ ih => exact .token op ih
  | send allowed _ ih => exact .send allowed ih

theorem map (ha : a.Sends s) (f : α → β) : (f <$> a).Sends s := ha.bind fun _ => .done _

theorem mono {t : Request → Prop} (h : ∀ r, s r → t r) (ha : a.Sends s) : a.Sends t := by
  induction ha with
  | done r => exact .done r
  | token op _ ih => exact .token op ih
  | send allowed _ ih => exact .send (h _ allowed) ih

/-- Nothing arrives but what the action may send. -/
theorem sent_run (ha : a.Sends s) (hw : ∀ r ∈ w.sent, s r) : ∀ r ∈ (a.run c w).2.sent, s r := by
  induction ha generalizing w with
  | done r => exact hw
  | token op _ ih => exact ih _ hw
  | @send q next allowed _ ih =>
    have hsent : ∀ r ∈ (w.exchange c q).2.sent, s r := by
      rcases World.exchange_sent c q w with ⟨h, -⟩ | h
      · rwa [h]
      · rw [h]
        intro r hr
        rcases List.mem_append.1 hr with hr | hr
        · exact hw r hr
        · rwa [List.mem_singleton.1 hr]
    simp only [run]
    generalize w.exchange c q = r at hsent
    rcases r with ⟨o | _ | _ | _, w'⟩
    · exact ih o hsent
    all_goals exact hsent

end Sends

theorem isClosed_sends (s : Request → Prop) : IsClosed fun _ a => a.Sends s where
  ok _ := .done _
  fail _ := .done _
  bind ha hf := ha.bind hf

/-- The action sends this request and no other, whatever the service answers. -/
inductive SendsOnce (r : Request) : Action α → Prop where
  | send {q : Query} {next : Outcome → Action α} (same : q.request = r)
      (after : ∀ o, ∃ x, next o = .done x) : SendsOnce r (.send q next)

theorem SendsOnce.map {r : Request} (ha : a.SendsOnce r) (f : α → β) : (f <$> a).SendsOnce r := by
  cases ha with
  | send same after =>
    refine .send same fun o => ?_
    obtain ⟨x, hx⟩ := after o
    rw [hx]
    cases x with
    | ok x => exact ⟨_, rfl⟩
    | error e => exact ⟨_, rfl⟩

/-- Every result of the action is one that `y` allows, whatever the service answers. -/
inductive Yields (y : α → Prop) : Action α → Prop where
  | done {r : Except Error α} (allowed : ∀ x, r = .ok x → y x) : Yields y (.done r)
  | token (op : TokenCache.Operation) {next : Option String → Action α}
      (after : ∀ t, Yields y (next t)) : Yields y (.token op next)
  | send (q : Query) {next : Outcome → Action α} (after : ∀ o, Yields y (next o)) :
      Yields y (.send q next)

namespace Yields

variable {y : α → Prop} {z : β → Prop}

theorem ok {x : α} (h : y x) : Yields y (.done (.ok x)) :=
  .done fun _ hx => Except.ok.inj hx ▸ h

theorem fail (e : Error) : Yields y (.done (.error e)) := .done fun _ => nofun

theorem bind {f : α → Action β} (ha : a.Yields y) (hf : ∀ x, y x → (f x).Yields z) :
    (a.bind f).Yields z := by
  induction ha with
  | @done r allowed =>
    cases r with
    | ok x => exact hf x (allowed x rfl)
    | error e => exact .fail e
  | token op _ ih => exact .token op ih
  | send q _ ih => exact .send q ih

theorem map (ha : a.Yields y) {f : α → β} (hf : ∀ x, y x → z (f x)) : (f <$> a).Yields z :=
  ha.bind fun x hx => .ok (hf x hx)

/-- The result of an action is one that it may have. -/
theorem ok?_run (ha : a.Yields y) {x : α} (hx : (a.run c w).1.ok? = some x) : y x := by
  induction ha generalizing w with
  | @done r allowed =>
    cases r with
    | ok _ =>
      cases hx
      exact allowed x rfl
    | error e => cases hx
  | token op _ ih => exact ih _ hx
  | send q _ ih =>
    simp only [run] at hx
    split at hx
    · exact ih _ hx
    all_goals cases hx

end Yields

theorem yields_any (a : Action α) : a.Yields fun _ => True := by
  induction a with
  | done r => exact .done fun _ _ => trivial
  | token op _ ih => exact .token op ih
  | send q _ ih => exact .send q ih

/-- The action begins with a request that `s` allows and fails if there is no reply to it, or it
fails at once. -/
inductive Begins (s : Request → Prop) : Action α → Prop where
  | fail (e : Error) : Begins s (.done (.error e))
  | send {q : Query} {next : Outcome → Action α} (allowed : s q.request)
      (lost : ∀ f, ∃ e, next (.fault f) = .done (.error e)) : Begins s (.send q next)

namespace Begins

theorem bind {f : α → Action β} (ha : a.Begins s) : (a.bind f).Begins s := by
  cases ha with
  | fail e => exact .fail e
  | send allowed lost =>
    refine .send allowed fun fault => ?_
    obtain ⟨e, he⟩ := lost fault
    exact ⟨e, by rw [he]; rfl⟩

theorem map (ha : a.Begins s) (f : α → β) : (f <$> a).Begins s := ha.bind

/-- There is no result unless the request has arrived, before all others of the action. -/
theorem sent_run (ha : a.Begins s) {x : α} (hx : (a.run c w).1.ok? = some x) :
    ∃ r rest, (a.run c w).2.sent = w.sent ++ r :: rest ∧ s r := by
  cases ha with
  | fail e => cases hx
  | @send q next allowed lost =>
    have hsent := World.exchange_sent c q w
    simp only [run] at hx ⊢
    rcases he : w.exchange c q with ⟨o | _ | _ | _, w'⟩
    case outcome =>
      rw [he] at hx hsent
      have hreply : w'.sent = w.sent ++ [q.request] := by
        refine hsent.resolve_left fun hnone => ?_
        cases o with
        | fault f =>
          obtain ⟨e, hlost⟩ := lost f
          simp only [hlost] at hx
          cases hx
        | reply status received cut => exact hnone.2 status received cut rfl
      obtain ⟨rest, hrest⟩ := (precedes_run c (next o) w').sent
      refine ⟨q.request, rest, ?_, allowed⟩
      rw [← hrest, hreply, List.append_assoc]
      rfl
    all_goals
      rw [he] at hx
      cases hx

end Begins

end AgentSandbox.Action

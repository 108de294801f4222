import AgentSandbox.Proofs.Exchange.World

/-!
# Carrying out actions in turn

`Action.run_bind` carries out one action after another, and what exchanges keep is kept by a whole
action (`Action.run_kept`).  `Action.Within` bounds what an action may do to the tokens and the
errors that it can have, whatever the service answers: one that only looks tokens up leaves them as
they are (`Action.tokens_run`), and no other error comes out of it (`Action.Within.allowed_of_run`).
A property that `Action.IsClosed` need only be shown of the single requests of a backend.
-/

namespace AgentSandbox

variable {α β : Type} {c : Caller}

namespace Ending

/-- The result, if there is one and it is no error. -/
def ok? : Ending α → Option α
  | .finished (.ok x) => some x
  | _ => none

/-- The same ending with another result. -/
def map (f : α → β) : Ending α → Ending β
  | .finished r => .finished (r.map f)
  | .cancelled => .cancelled
  | .expired => .expired
  | .unending => .unending

end Ending

theorem Ending.ok?_map_eq_none {ending : Ending α} (h : ending.ok? = none) (f : α → β) :
    (ending.map f).ok? = none := by
  rcases ending with (e | x) | _ | _ | _
  case finished.ok => cases h
  all_goals rfl

/-- The ending of an action whose last exchange ended, given what its outcomes stand for. -/
def Finish.ending (f : Outcome → Except Error α) : Finish → Ending α
  | .outcome o => .finished (f o)
  | .cancelled => .cancelled
  | .expired => .expired
  | .unending => .unending

namespace Action

/-- An action of one exchange. -/
theorem run_send_done (c : Caller) (q : Query) (f : Outcome → Except Error α) (w : World) :
    (Action.send q fun o => .done (f o)).run c w =
      ((w.exchange c q).1.ending f, (w.exchange c q).2) := by
  simp only [run]
  rcases w.exchange c q with ⟨_ | _ | _ | _, w'⟩ <;> rfl

theorem bind_assoc {γ : Type} (a : Action α) (f : α → Action β) (g : β → Action γ) :
    (a.bind f).bind g = a.bind fun x => (f x).bind g := by
  induction a with
  | done r => cases r <;> rfl
  | token op next ih => exact congrArg (Action.token op) (funext ih)
  | send q next ih => exact congrArg (Action.send q) (funext ih)

/-- The second of two actions is carried out where the first one ended, if it had a result. -/
theorem run_bind (a : Action α) (f : α → Action β) (w : World) :
    (a.bind f).run c w =
      match a.run c w with
      | (.finished (.ok x), w) => (f x).run c w
      | (.finished (.error e), w) => (.finished (.error e), w)
      | (.cancelled, w) => (.cancelled, w)
      | (.expired, w) => (.expired, w)
      | (.unending, w) => (.unending, w) := by
  induction a generalizing w with
  | done r => cases r <;> rfl
  | token op next ih => exact ih _ _
  | send q next ih =>
    simp only [bind, run]
    rcases w.exchange c q with ⟨_ | _ | _ | _, w'⟩
    · exact ih _ _
    · rfl
    · rfl
    · rfl

/-- Of two actions the second one is carried out, or the first one had no result and was all. -/
theorem run_bind_cases (c : Caller) (a : Action α) (f : α → Action β) (w : World) :
    (∃ x w₁, a.run c w = (.finished (.ok x), w₁) ∧ (a.bind f).run c w = (f x).run c w₁) ∨
      ((a.bind f).run c w).1.ok? = none ∧ ((a.bind f).run c w).2 = (a.run c w).2 := by
  rw [run_bind]
  rcases a.run c w with ⟨(_ | x) | _ | _ | _, w₁⟩
  case finished.ok => exact .inl ⟨x, w₁, rfl, rfl⟩
  all_goals exact .inr ⟨rfl, rfl⟩

/-- An action that begins by looking up a token goes on with what it finds. -/
theorem run_lookUpToken_bind (id : String) (f : Option String → Action α) (c : Caller) (w : World) :
    ((lookUpToken id).bind f).run c w = (f (w.tokens.find? id)).run c w := rfl

theorem run_map (f : α → β) (a : Action α) (w : World) :
    (f <$> a).run c w = ((a.run c w).1.map f, (a.run c w).2) := by
  refine (run_bind a _ w).trans ?_
  rcases a.run c w with ⟨(_ | _) | _ | _ | _, _⟩ <;> rfl

/-- What exchanges keep, and changes of the tokens too, is kept by a whole action. -/
theorem run_kept {P : World → Prop} (hP : World.IsKept c P)
    (htokens : ∀ (w : World) (tokens : TokenCache), P w → P { w with tokens := tokens })
    (a : Action α) {w : World} (h : P w) : P (a.run c w).2 := by
  induction a generalizing w with
  | done r => exact h
  | token op next ih => exact ih _ (htokens w _ h)
  | send q next ih =>
    have hexchange := hP.exchange h q
    simp only [run]
    generalize w.exchange c q = r at hexchange
    rcases r with ⟨_ | _ | _ | _, w'⟩
    · exact ih _ hexchange
    · exact hexchange
    · exact hexchange
    · exact hexchange

/-- Results and failures have the property, and so do two actions with it in turn. -/
structure IsClosed (P : (α : Type) → Action α → Prop) : Prop where
  ok : ∀ {α : Type} (x : α), P α (.done (.ok x))
  fail : ∀ {α : Type} {e : Error}, e.IsFailure → P α (fail e)
  bind : ∀ {α β : Type} {a : Action α} {f : α → Action β},
    P α a → (∀ x, P β (f x)) → P β (a.bind f)

theorem IsClosed.map {P : (α : Type) → Action α → Prop} (hP : IsClosed P) {a : Action α}
    (ha : P α a) (f : α → β) : P β (f <$> a) :=
  hP.bind ha fun x => hP.ok (f x)

/-! ## Tokens and errors -/

/-- Whatever the service answers, the action does nothing to the tokens but what `p` allows and has
no error but one that `e` allows. -/
inductive Within (p : TokenCache.Operation → Prop) (e : Error → Prop) : Action α → Prop where
  | ok (x : α) : Within p e (.done (.ok x))
  | error {err : Error} (allowed : e err) : Within p e (.done (.error err))
  | token {op : TokenCache.Operation} {next : Option String → Action α} (allowed : p op)
      (after : ∀ t, Within p e (next t)) : Within p e (.token op next)
  | send (query : Query) {next : Outcome → Action α} (after : ∀ o, Within p e (next o)) :
      Within p e (.send query next)

namespace Within

variable {p : TokenCache.Operation → Prop} {e : Error → Prop} {a : Action α}

theorem done {r : Except Error α} (h : ∀ err, r = .error err → e err) : Within p e (.done r) := by
  cases r with
  | ok x => exact .ok x
  | error err => exact .error (h err rfl)

theorem mono {e' : Error → Prop} (ha : a.Within p e) (h : ∀ err, e err → e' err) :
    a.Within p e' := by
  induction ha with
  | ok x => exact .ok x
  | error allowed => exact .error (h _ allowed)
  | token allowed _ ih => exact .token allowed ih
  | send q _ ih => exact .send q ih

theorem bind {f : α → Action β} (ha : a.Within p e) (hf : ∀ x, (f x).Within p e) :
    (a.bind f).Within p e := by
  induction ha with
  | ok x => exact hf x
  | error allowed => exact .error allowed
  | token allowed _ ih => exact .token allowed ih
  | send q _ ih => exact .send q ih

theorem map (ha : a.Within p e) (f : α → β) : (f <$> a).Within p e :=
  ha.bind fun x => .ok (f x)

/-- The error that an action ends with is one that is allowed. -/
theorem allowed_of_run (ha : a.Within p e) {w w' : World} {err : Error}
    (h : a.run c w = (.finished (.error err), w')) : e err := by
  induction ha generalizing w with
  | ok x => cases h
  | error allowed =>
    cases h
    exact allowed
  | token _ _ ih => exact ih _ h
  | send q _ ih =>
    simp only [run] at h
    split at h
    · exact ih _ h
    all_goals cases h

end Within

theorem isClosed_within (p : TokenCache.Operation → Prop) :
    IsClosed fun _ a => a.Within p Error.IsFailure where
  ok x := .ok x
  fail h := .error h
  bind ha hf := ha.bind hf

/-- An operation that only looks a token up. -/
def IsLookUp (op : TokenCache.Operation) : Prop := ∃ id, op = .get id

section

variable {p : TokenCache.Operation → Prop} {e : Error → Prop}

theorem within_lookUpToken {id : String} (h : p (.get id)) : (lookUpToken id).Within p e :=
  .token h fun t => .ok t

theorem within_insertToken {id token : String} (h : p (.insert id token)) :
    (insertToken id token).Within p e :=
  .token h fun _ => .ok ()

theorem within_evictToken {id : String} (h : p (.evict id)) : (evictToken id).Within p e :=
  .token h fun _ => .ok ()

/-- An action that only looks tokens up leaves them as they are. -/
theorem tokens_run {a : Action α} (ha : a.Within IsLookUp e) (w : World) :
    (a.run c w).2.tokens = w.tokens := by
  induction ha generalizing w with
  | ok x => rfl
  | error _ => rfl
  | token allowed _ ih =>
    obtain ⟨id, rfl⟩ := allowed
    exact ih _ w
  | send q _ ih =>
    have hw := World.tokens_exchange c q w
    simp only [run]
    split
    · next o w' he => rw [ih o, ← hw, he]
    all_goals next w' he => rw [← hw, he]

end

end Action

end AgentSandbox

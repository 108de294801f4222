import AgentSandbox.Client.Session
import AgentSandbox.Proofs.Exchange.Tokens

/-!
# One call of a session

A call either is cancelled before it begins, and then leaves everything as it was, or it is the
action of the backend, carried out in the world of the step (`Session.Step.perform_cases`), and does
the same with tokens that it cannot tell apart (`Session.Step.perform_related`).  The report of a step
of a session is that of the step alone, taken in the state that the steps before it leave
(`Session.getElem?_run`).  Steps that leave the state as it is can be left out of a session
(`Session.run_kept`).
-/

namespace AgentSandbox

namespace Client

variable {α : Type}

theorem dispatch_cases (operation : String) (caller : Caller) (a : Action α) (w : World) :
    caller.heeds = true ∧ w.cancelled = true ∧
        dispatch operation caller a w = (some (.error (.cancelled operation)), w) ∨
      dispatch operation caller a w =
        (resultOf operation caller.deadline (a.run caller w).1, (a.run caller w).2) := by
  unfold dispatch
  split
  · next h =>
    obtain ⟨heeds, hcancelled⟩ := Bool.and_eq_true_iff.1 h
    exact .inl ⟨heeds, hcancelled, rfl⟩
  · exact .inr rfl

end Client

namespace Session

/-- A call without a result comes back without an answer. -/
theorem Result.ofCall_ne_answer {operation : String} {limit : Option Nat}
    {ending : Ending Answer} (h : ending.ok? = none) (a : Answer) :
    ofCall (Client.resultOf operation limit ending) ≠ .answer a := by
  rcases ending with (e | x) | _ | _ | _
  case finished.ok => cases h
  all_goals nofun

/-- An answer that comes back is the result of the call. -/
theorem Result.ok?_of_answer {operation : String} {limit : Option Nat} {ending : Ending Answer}
    {a : Answer} (h : ofCall (Client.resultOf operation limit ending) = .answer a) :
    ending.ok? = some a := by
  rcases ending with (e | x) | _ | _ | _
  case finished.ok =>
    cases h
    rfl
  all_goals cases h

/-- What a command asks of the backend. -/
def Command.call? : Command → Option Call
  | .call asked => some asked
  | .unguarded asked => some asked
  | _ => none

variable {c : Client} {connected : Bool} {s : Step} {st : State}

/-- A call that is not cancelled before it begins is the action of the backend. -/
theorem Step.perform_cases (c : Client) (connected : Bool) (s : Step) (caller : Caller)
    (call : Call) (st : State) :
    caller.heeds = true ∧ st.cancelled = true ∧ s.perform c connected caller call st =
        (⟨.error (.cancelled call.operation), [], [], st.tokens⟩, st) ∨
      ∃ ending w, (c.backend.action call).run caller (s.world connected st) = (ending, w) ∧
        s.perform c connected caller call st =
          (⟨.ofCall (Client.resultOf call.operation caller.deadline ending), w.sent, w.notices,
            w.tokens⟩, ⟨w.tokens, w.cancelled⟩) := by
  unfold perform Client.perform
  rcases Client.dispatch_cases call.operation caller (c.backend.action call)
    (s.world connected st) with ⟨heeds, hcancelled, h⟩ | h
  · rw [h]
    exact .inl ⟨heeds, hcancelled, rfl⟩
  · rw [h]
    exact .inr ⟨_, _, rfl, rfl⟩

/-- The same of an action that turns the result of another one into an answer. -/
theorem Step.perform_map_cases {α : Type} {c : Client} {call : Call} {a : Action α}
    {f : α → Answer} (ha : c.backend.action call = f <$> a) (connected : Bool) (s : Step)
    (caller : Caller) (st : State) :
    (∃ e, s.perform c connected caller call st = (⟨.error e, [], [], st.tokens⟩, st)) ∨
      ∃ ending w, a.run caller (s.world connected st) = (ending, w) ∧
        s.perform c connected caller call st =
          (⟨.ofCall (Client.resultOf call.operation caller.deadline (ending.map f)), w.sent,
            w.notices, w.tokens⟩, ⟨w.tokens, w.cancelled⟩) := by
  rcases s.perform_cases c connected caller call st with ⟨-, -, h⟩ | ⟨ending, w, hrun, h⟩
  · exact .inl ⟨_, h⟩
  · rw [ha, Action.run_map] at hrun
    cases hrun
    exact .inr ⟨_, _, rfl, h⟩

/-- A call does the same with tokens that it cannot tell apart. -/
theorem Step.perform_related {R : TokenCache → TokenCache → Prop} {p : TokenCache.Operation → Prop}
    {e : Error → Prop} {call : Call} (ha : (c.backend.action call).Within p e)
    (hR : ∀ op t t', p op → R t t' →
      TokenCache.answer t op = TokenCache.answer t' op ∧
        R (TokenCache.after t op) (TokenCache.after t' op))
    (connected : Bool) (s : Step) (caller : Caller) (st : State) {tokens : TokenCache}
    (h : R st.tokens tokens) :
    let r := s.perform c connected caller call st
    ∃ tokens', R r.2.tokens tokens' ∧
      s.perform c connected caller call { st with tokens := tokens } =
        ({ r.1 with tokens := tokens' }, { r.2 with tokens := tokens' }) := by
  obtain ⟨tokens', hrel, hrun⟩ := Action.run_related ha hR caller (s.world connected st) h
  have hworld : s.world connected { st with tokens := tokens } =
      (s.world connected st).withTokens tokens := rfl
  unfold perform Client.perform Client.dispatch
  rw [hworld]
  by_cases hearly : (caller.heeds && (s.world connected st).cancelled) = true
  · have hearly' :
        (caller.heeds && ((s.world connected st).withTokens tokens).cancelled) = true := hearly
    rw [if_pos hearly, if_pos hearly']
    exact ⟨tokens, h, rfl⟩
  · have hearly' :
        ¬ (caller.heeds && ((s.world connected st).withTokens tokens).cancelled) = true := hearly
    rw [if_neg hearly, if_neg hearly', hrun]
    exact ⟨tokens', hrel, rfl⟩

/-- How the caller of a step treats what it asks of the backend. -/
def Step.caller (c : Client) (s : Step) : Caller :=
  match s.command with
  | .call _ => ⟨true, s.limit c, s.cancelAt, s.pauseAt⟩
  | _ => ⟨false, none, s.cancelAt, s.pauseAt⟩

theorem step_of_call? {call : Call} (h : s.command.call? = some call) :
    step c connected s st = s.perform c connected (s.caller c) call st := by
  unfold step Step.caller
  cases hc : s.command with
  | call asked =>
    rw [hc] at h
    cases h
    rfl
  | unguarded asked =>
    rw [hc] at h
    cases h
    rfl
  | _ =>
    rw [hc] at h
    cases h

/-- A step asks something of the backend or leaves the tokens alone. -/
theorem step_cases (c : Client) (connected : Bool) (s : Step) (st : State) :
    (∃ call, s.command.call? = some call ∧
      step c connected s st = s.perform c connected (s.caller c) call st) ∨
    s.command.call? = none ∧ (step c connected s st).1.tokens = st.tokens := by
  cases hcall : s.command.call? with
  | some call => exact .inl ⟨call, rfl, step_of_call? hcall⟩
  | none =>
    refine .inr ⟨rfl, ?_⟩
    unfold step
    cases hc : s.command with
    | call asked =>
      rw [hc] at hcall
      cases hcall
    | unguarded asked =>
      rw [hc] at hcall
      cases hcall
    | _ => rfl

/-- A step that asks nothing of the backend sends nothing and has no answer. -/
theorem step_of_not_call (c : Client) (connected : Bool) (h : s.command.call? = none) (st : State) :
    (step c connected s st).1.sent = [] ∧
      ∀ answer, (step c connected s st).1.result ≠ .answer answer := by
  unfold step
  cases hc : s.command with
  | call asked =>
    rw [hc] at h
    cases h
  | unguarded asked =>
    rw [hc] at h
    cases h
  | _ => exact ⟨rfl, fun _ => by simp only [ne_eq, reduceCtorEq, not_false_eq_true]⟩

/-- The tokens that a step reports are those that last. -/
theorem tokens_step (c : Client) (connected : Bool) (s : Step) (st : State) :
    (step c connected s st).2.tokens = (step c connected s st).1.tokens := by
  unfold step
  cases s.command <;> rfl

/-- The state that some steps leave. -/
def stateAfter (c : Client) (connected : Bool) : List Step → State → State
  | [], st => st
  | s :: ss, st => stateAfter c connected ss (step c connected s st).2

theorem getElem?_run {steps : List Step} {i : Nat} (h : steps[i]? = some s) (c : Client)
    (connected : Bool) (st : State) :
    (run c connected steps st)[i]? =
      some (step c connected s (stateAfter c connected (steps.take i) st)).1 := by
  induction steps generalizing i st with
  | nil => cases h
  | cons s' ss ih =>
    cases i with
    | zero =>
      obtain rfl := Option.some.inj h
      rfl
    | succ i => exact ih h _

theorem stateAfter_take_succ {steps : List Step} {i : Nat} (h : steps[i]? = some s) (c : Client)
    (connected : Bool) (st : State) :
    stateAfter c connected (steps.take (i + 1)) st =
      (step c connected s (stateAfter c connected (steps.take i) st)).2 := by
  induction steps generalizing i st with
  | nil => cases h
  | cons s' ss ih =>
    cases i with
    | zero =>
      obtain rfl := Option.some.inj h
      rfl
    | succ i => exact ih h _

/-- The replies that a step meets are those that it brought. -/
theorem Step.replies_of_world {replies : List Reply}
    (h : (s.world connected st).link = .up replies) : s.replies = replies := by
  cases connected with
  | true => exact Link.up.inj h
  | false => cases h

/-! ## Sessions without some of their steps -/

/-- The items of a list without those that are marked `false`; an item without a mark is kept. -/
def kept {α : Type} : List Bool → List α → List α
  | [], xs => xs
  | _, [] => []
  | true :: marks, x :: xs => x :: kept marks xs
  | false :: marks, _ :: xs => kept marks xs

/-- A session without some steps that leave the state as it is reports the same of all others. -/
theorem run_kept {marks : List Bool} {steps : List Step} {st : State}
    (h : ∀ i s, marks[i]? = some false → steps[i]? = some s →
      let now := stateAfter c connected (steps.take i) st
      (step c connected s now).2 = now) :
    run c connected (kept marks steps) st = kept marks (run c connected steps st) := by
  induction steps generalizing marks st with
  | nil => cases marks <;> rfl
  | cons s ss ih =>
    rcases marks with _ | ⟨_ | _, marks⟩
    · rfl
    · have hs : (step c connected s st).2 = st := h 0 s rfl rfl
      have hrest : run c connected (kept marks ss) st = kept marks (run c connected ss st) :=
        ih fun i s' hi hs' => by
          have hi' := h (i + 1) s' hi hs'
          simp only [List.take_succ_cons, stateAfter, hs] at hi'
          exact hi'
      simp only [kept, run, hs, hrest]
    · exact congrArg (_ :: ·) (ih fun i s' hi hs' => h (i + 1) s' hi hs')

end Session

end AgentSandbox

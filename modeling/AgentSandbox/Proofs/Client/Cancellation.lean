import AgentSandbox.Proofs.Client.Session

/-!
# Cancelled clients

Once a client is cancelled it stays so until it is given a new cancellation, whatever happens in the
meantime (`cancelled_stateAfter`).  Until then a call does nothing at all and fails for this reason
alone, and afterwards it is as if it had not been made (`cancelled_run`).
-/

namespace AgentSandbox

theorem World.isKept_cancelled (c : Caller) : IsKept c fun w => w.cancelled = true where
  elapse _ _ h _ := h
  notify w n h := by simp only [notify, h, Bool.true_or]
  arrive w request replies h _ := by simp only [arrive, h, Bool.true_or]

namespace Session

variable {c : Client} {connected : Bool} {s : Step} {st : State}

theorem step_of_cancelled {call : Call} (hs : s.command = .call call) (h : st.cancelled = true) :
    step c connected s st =
      (⟨.error (.cancelled call.operation), [], [], st.tokens⟩, st) := by
  have hearly : (true && (s.world connected st).cancelled) = true := h
  simp only [step, hs, Step.perform, Client.perform, Client.dispatch, if_pos hearly]
  rfl

theorem cancelled_perform (caller : Caller) (call : Call) (h : st.cancelled = true) :
    (s.perform c connected caller call st).2.cancelled = true := by
  rcases s.perform_cases c connected caller call st with ⟨-, -, he⟩ | ⟨ending, w, hrun, he⟩
  · rw [he]
    exact h
  · have hkept := Action.run_kept (World.isKept_cancelled caller) (fun _ _ h => h)
      (c.backend.action call) (w := s.world connected st) h
    rw [he]
    rwa [hrun] at hkept

theorem cancelled_step (hs : s.command ≠ .rescope) (h : st.cancelled = true) :
    (step c connected s st).2.cancelled = true := by
  unfold step
  cases hc : s.command with
  | call call => exact cancelled_perform _ call h
  | unguarded call => exact cancelled_perform _ call h
  | cancel => rfl
  | rescope => exact absurd hc hs
  | _ => exact h

/-- A step of a session before this one cancels the client, and no step in between gives it a new
cancellation. -/
def IsCancelledAt (steps : List Step) (i : Nat) : Prop :=
  ∃ j s, j < i ∧ steps[j]? = some s ∧ s.command = .cancel ∧
    ∀ k s', j < k → k < i → steps[k]? = some s' → s'.command ≠ .rescope

/-- A cancelled client stays cancelled. -/
theorem cancelled_stateAfter {steps : List Step} {i : Nat} (h : IsCancelledAt steps i)
    (hi : i ≤ steps.length) : (stateAfter c connected (steps.take i) st).cancelled = true := by
  obtain ⟨j, s, hji, hs, hcancel, hrescope⟩ := h
  induction hji with
  | refl =>
    rw [stateAfter_take_succ hs]
    simp only [step, hcancel]
  | @step i hji ih =>
    have hs' : steps[i]? = some steps[i] := List.getElem?_eq_getElem hi
    have hbefore := ih (Nat.le_of_lt hi) fun k s' hk hki => hrescope k s' hk (Nat.lt_succ_of_lt hki)
    rw [stateAfter_take_succ hs']
    exact cancelled_step (hrescope i _ hji (Nat.lt_succ_self i) hs') hbefore

/-- Every call of a cancelled client fails because of that under the name of its operation, sends
nothing, gives no notice and leaves the tokens as they are.  Without some such calls all other steps
of the session report the same. -/
theorem cancelled_run (c : Client) (connected : Bool) (steps : List Step) (st : State) :
    (∀ i s call, steps[i]? = some s → s.command = .call call → IsCancelledAt steps i →
      (run c connected steps st)[i]? =
        some ⟨.error (.cancelled call.operation), [], [],
          (stateAfter c connected (steps.take i) st).tokens⟩) ∧
    ∀ marks : List Bool,
      (∀ i s, marks[i]? = some false → steps[i]? = some s →
        IsCancelledAt steps i ∧ ∃ call, s.command = .call call) →
      run c connected (kept marks steps) st = kept marks (run c connected steps st) := by
  have hnow {i : Nat} {s : Step} (hs : steps[i]? = some s) (h : IsCancelledAt steps i) :
      (stateAfter c connected (steps.take i) st).cancelled = true :=
    cancelled_stateAfter h (Nat.le_of_lt (List.getElem?_eq_some_iff.1 hs).1)
  refine ⟨fun i s call hs hcall h => ?_, fun marks h => run_kept fun i s hi hs => ?_⟩
  · rw [getElem?_run hs, step_of_cancelled hcall (hnow hs h)]
  · obtain ⟨hcancelled, call, hcall⟩ := h i s hi hs
    dsimp only
    rw [step_of_cancelled hcall (hnow hs hcancelled)]

/-- A call that the service does not offer, with a deadline that is over at once, fails because the
client is cancelled; without it the session goes on in the same way. -/
theorem cancelled_run_unsupported :
    let c : Client := ⟨.e2b ⟨⟨"", "", "", none, none⟩, none, ⟨0, 0⟩⟩, none⟩
    let call : Call := .deleteTool "t"
    let token : Call := .browserUrls "a" 9000
    let steps : List Step :=
      [⟨.cancel, [], none, none, none⟩, ⟨.call call, [], some 0, none, none⟩,
        ⟨.call token, [], none, none, none⟩, ⟨.rescope, [], none, none, none⟩,
        ⟨.call token, [], none, none, none⟩]
    let st : State := ⟨Dictionary.empty.insert "a" "t", false⟩
    let marks := [true, false, false]
    (run c true steps st)[1]? = some ⟨.error (.cancelled "DeleteTool"), [], [], st.tokens⟩ ∧
      (run c true steps st)[2]? = some ⟨.error (.cancelled "AccessToken"), [], [], st.tokens⟩ ∧
      run c true (kept marks steps) st = kept marks (run c true steps st) := by
  intro c call token steps st marks
  have hcancelled {i : Nat} (hi : 0 < i ∧ i < 4) : IsCancelledAt steps i := by
    refine ⟨0, _, hi.1, rfl, rfl, fun k s' hk hki hs => ?_⟩
    obtain rfl | rfl : k = 1 ∨ k = 2 := by omega
    all_goals
      cases hs
      nofun
  have h := cancelled_run c true steps st
  refine ⟨h.1 1 _ call rfl rfl (hcancelled (by decide)),
    h.1 2 _ token rfl rfl (hcancelled (by decide)), h.2 marks fun i s hi hs => ?_⟩
  match i, hi with
  | 1, _ => exact ⟨hcancelled (by decide), call, by cases hs; rfl⟩
  | 2, _ => exact ⟨hcancelled (by decide), token, by cases hs; rfl⟩

end Session

end AgentSandbox

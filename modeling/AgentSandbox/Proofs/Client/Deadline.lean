import AgentSandbox.Proofs.Client.Session
import AgentSandbox.Proofs.Cloud.Actions
import AgentSandbox.Proofs.E2b.Tokens
import AgentSandbox.Proofs.Exchange.Deadline

/-!
# The deadline of a call

A call with a deadline is the same as without one, or it fails because the deadline expired: then it
changes no tokens, and what it sends and has noticed is the beginning of what it does otherwise.  If
a deadline changes nothing, neither does a later one (`timed_step`).
-/

namespace AgentSandbox

namespace Backend

theorem within_action (b : Backend) (call : Call) :
    (b.action call).Within (fun _ => True) Error.IsFailure := by
  cases b with
  | e2b b => exact b.within_restAction call
  | cloud b => exact b.within_cloudAction _ call

/-- A call that has no result leaves the tokens as they were. -/
theorem tokens_run_of_ok?_eq_none (b : Backend) (c : Caller) (call : Call) (w : World)
    (h : ((b.action call).run c w).1.ok? = none) :
    ((b.action call).run c w).2.tokens = w.tokens := by
  cases b with
  | cloud b => exact Action.tokens_run (b.within_cloudAction _ call) w
  | e2b b =>
    by_cases hmake : ∃ creation, call = .createInstance creation
    · obtain ⟨creation, rfl⟩ := hmake
      have haction : (Backend.e2b b).action (.createInstance creation) =
          Answer.instanceOf <$> b.createInstance creation := rfl
      rw [haction, Action.run_map] at h ⊢
      rcases b.run_createInstance c creation w with ⟨_, _, _, _, -, -, hok, -⟩ | ⟨-, ht⟩
      · rw [hok] at h
        cases h
      · exact ht
    by_cases hdelete : ∃ id, call = .deleteInstance id
    · obtain ⟨id, rfl⟩ := hdelete
      have haction : (Backend.e2b b).action (.deleteInstance id) =
          (fun _ => Answer.done) <$> b.deleteInstance id := rfl
      rw [haction, Action.run_map] at h ⊢
      rcases b.run_deleteInstance c id w with ⟨hok, -⟩ | ⟨-, ht⟩
      · rw [hok] at h
        cases h
      · exact ht
    · have hp (id : String) : Action.IsLookUp (.get id) := ⟨id, rfl⟩
      exact Action.tokens_run (b.within_restAction_of_ne hp (not_exists.1 hmake)
        (not_exists.1 hdelete)) w

end Backend

namespace Session

/-- The report of a call whose deadline of some milliseconds expired, where it would have been that
of a call without a deadline. -/
structure Report.Expires (r : Report) (operation : String) (d : Nat) (tokens : TokenCache)
    (free : Report) : Prop where
  result : r.result = .error (.deadline operation (d / 1000))
  partialOutput : ∀ e, r.result = .error e → e.partialOutput? = none
  tokens : r.tokens = tokens
  sent : r.sent <+: free.sent
  notices : r.notices <+: free.notices

theorem resultOf_of_ne_expired {α : Type} {ending : Ending α} (h : ending ≠ .expired)
    (operation : String) (d d' : Option Nat) :
    Client.resultOf operation d ending = Client.resultOf operation d' ending := by
  cases ending with
  | expired => exact absurd rfl h
  | _ => rfl

section

variable (c : Client) (connected : Bool) (s : Step) (caller : Caller) (call : Call) (st : State)

/-- A call that has no deadline does not fail because of one. -/
theorem result_perform_ne_deadline (operation : String) (n : Nat) :
    (s.perform c connected (caller.until none) call st).1.result ≠
      .error (.deadline operation n) := by
  intro hresult
  rcases s.perform_cases c connected (caller.until none) call st with
    ⟨-, -, h⟩ | ⟨ending, w, hrun, h⟩
  · rw [h] at hresult
    cases hresult
  rw [h] at hresult
  rcases ending with (e | a) | _ | _ | _
  case finished.error =>
    have hfailure := (c.backend.within_action call).allowed_of_run hrun
    cases hresult
    cases hfailure
  case expired =>
    have hexpired := congrArg Prod.fst hrun
    cases Action.isSome_deadline_of_expired hexpired
  all_goals cases hresult

theorem perform_until (d : Option Nat) :
    s.perform c connected (caller.until d) call st =
      if caller.heeds && st.cancelled then
        (⟨.error (.cancelled call.operation), [], [], st.tokens⟩, st)
      else
        let r := (c.backend.action call).run (caller.until d) (s.world connected st)
        (⟨.ofCall (Client.resultOf call.operation d r.1), r.2.sent, r.2.notices, r.2.tokens⟩,
          ⟨r.2.tokens, r.2.cancelled⟩) := by
  unfold Step.perform Client.perform Client.dispatch
  by_cases hearly : (caller.heeds && st.cancelled) = true
  · rw [if_pos hearly]
    have hearly' : ((caller.until d).heeds && (s.world connected st).cancelled) = true := hearly
    simp only [if_pos hearly']
    rfl
  · rw [if_neg hearly]
    have hearly' : ¬ ((caller.until d).heeds && (s.world connected st).cancelled) = true := hearly
    simp only [if_neg hearly']
    rfl

/-- A call with a deadline is the same as with a later one, or none, or the deadline expires. -/
theorem perform_until_cases {d : Nat} {d' : Option Nat} (hd : IsSooner (some d) d') :
    s.perform c connected (caller.until (some d)) call st =
        s.perform c connected (caller.until d') call st ∨
      (s.perform c connected (caller.until (some d)) call st).1.Expires call.operation d st.tokens
        (s.perform c connected (caller.until d') call st).1 := by
  have hagrees :=
    Action.run_agreesUntil hd caller (c.backend.action call) (s.world connected st)
  have htokens := c.backend.tokens_run_of_ok?_eq_none (caller.until (some d)) call
    (s.world connected st)
  rw [perform_until, perform_until]
  by_cases hearly : (caller.heeds && st.cancelled) = true
  · rw [if_pos hearly, if_pos hearly]
    exact .inl rfl
  rw [if_neg hearly, if_neg hearly]
  rcases hrun : (c.backend.action call).run (caller.until (some d)) (s.world connected st) with
    ⟨ending, w⟩
  rw [hrun] at hagrees htokens
  by_cases hexpired : ending = .expired
  · subst hexpired
    have hprecedes : w.Precedes
        ((c.backend.action call).run (caller.until d') (s.world connected st)).2 := by
      rcases hagrees with he | ⟨-, hprecedes⟩
      · rw [← he]
        exact .refl w
      · exact hprecedes
    have hpartial (e : Error) : Result.error (.deadline call.operation (d / 1000)) = .error e →
        e.partialOutput? = none := by
      rintro ⟨⟩
      rfl
    exact .inr ⟨rfl, hpartial, htokens rfl, hprecedes.sent, hprecedes.notices⟩
  · rcases hagrees with he | ⟨he, -⟩
    · rw [← he]
      dsimp only
      rw [resultOf_of_ne_expired hexpired _ (some d) d']
      exact .inl rfl
    · exact absurd he hexpired

end

/-- A step with a deadline is the step without one, or the deadline expires, and then the step fails
with the name of the operation and the seconds that it had, without output; it leaves the tokens as
they were, and what it sends and has noticed is the beginning of what it does otherwise.  It does
not matter whether the client or the step sets the deadline.  If a deadline makes no difference,
neither does a later one. -/
theorem timed_step (c : Client) (connected : Bool) (s : Step) (st : State) {call : Call}
    (hcall : s.command = .call call) :
    let free := step { c with callLimit := none } connected { s with callLimit := none } st
    let timed := fun d : Nat => step c connected { s with callLimit := some d } st
    (∀ d, step { c with callLimit := some d } connected { s with callLimit := none } st =
      timed d) ∧
    (∀ d, timed d = free ∨ (timed d).1.Expires call.operation d st.tokens free.1) ∧
    ∀ d d', d ≤ d' → (timed d).1 = free.1 → timed d' = free := by
  intro free timed
  let caller : Caller := ⟨true, none, s.cancelAt, s.pauseAt⟩
  have hfree : free = s.perform c connected (caller.until none) call st := by
    simp only [free, step, hcall]
    rfl
  have htimed (d : Nat) : timed d = s.perform c connected (caller.until (some d)) call st := by
    simp only [timed, step, hcall]
    rfl
  refine ⟨fun d => ?_, fun d => ?_, fun d d' hd hsame => ?_⟩
  · rw [htimed]
    simp only [step, hcall]
    rfl
  · rw [htimed, hfree]
    exact perform_until_cases c connected s caller call st trivial
  · -- the report without a deadline is not that of one that expired
    have hnot {r : Report} (h : (timed d).1.Expires call.operation d st.tokens r) : False := by
      have hresult := h.result
      rw [hsame, hfree] at hresult
      exact result_perform_ne_deadline c connected s caller call st _ _ hresult
    have hsooner : IsSooner (some d) (some d') := hd
    have hnone : IsSooner (some d) none := trivial
    have hlater := perform_until_cases c connected s caller call st hsooner
    have hnever := perform_until_cases c connected s caller call st hnone
    rw [← htimed] at hlater hnever
    rw [htimed, hfree, ← hlater.resolve_right hnot, hnever.resolve_right hnot]

/-- A deadline that expires between two lines of a stream that never ends: the first line is
noticed, and there is one second in the error. -/
theorem timed_step_inside_stream :
    let line (text : String) : List UInt8 :=
      Utf8.encode ("\x7b\"type\":\"stdout\",\"text\":\"" ++ text ++ "\"\x7d\n")
    let c : Client := ⟨.e2b ⟨⟨"", "", "", none, some "http://127.0.0.1"⟩, none, ⟨0, 0⟩⟩, none⟩
    let reply : Reply := ⟨false, 0, .answer 200 [⟨1000, line "a"⟩, ⟨1000, line "b"⟩] .silence⟩
    let s : Step := ⟨.call (.executeStream "i" "1" "" ⟨true, true⟩), [reply], none, none, none⟩
    let free := step c true s ⟨.empty, false⟩
    let timed := step c true { s with callLimit := some 1500 } ⟨.empty, false⟩
    timed.1.notices = [⟨.stdout, "a"⟩] ∧ free.1.notices = [⟨.stdout, "a"⟩, ⟨.stdout, "b"⟩] ∧
      timed.1.Expires "ExecuteStream" 1500 .empty free.1 := by
  intro line c reply s free timed
  have htimed : timed.1.notices = [⟨.stdout, "a"⟩] := by decide +kernel
  have hfree : free.1.notices = [⟨.stdout, "a"⟩, ⟨.stdout, "b"⟩] := by decide +kernel
  refine ⟨htimed, hfree, ((timed_step c true s ⟨.empty, false⟩ rfl).2.1 1500).resolve_left ?_⟩
  intro hsame
  have hnotices : timed.1.notices = free.1.notices := congrArg (·.1.notices) hsame
  rw [htimed, hfree] at hnotices
  cases hnotices

end Session

end AgentSandbox

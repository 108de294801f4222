import AgentSandbox.Proofs.Client.Session
import AgentSandbox.Proofs.Cloud.Tokens
import AgentSandbox.Proofs.Exchange.Tokens

/-!
# The tokens that the control plane grants

A call that runs code in an instance, or that asks for the URLs of its browser, first asks the
control plane for a token of the instance.  `CloudBackend.IsAuthorized` says what such a call does:
it uses the token that was granted to this one request, or it is refused and does nothing else.
`authorized_run` says that every step of every session works in this way, whatever the steps before
it did, and that the remembered tokens have no part in it.
-/

namespace AgentSandbox

open Execution

/-- The instance that a call needs a token for. -/
def Call.tokenFor? : Call → Option String
  | .execute id _ _ => some id
  | .executeStream id _ _ _ => some id
  | .browserUrls id _ => some id
  | _ => none

namespace CloudBackend

/-- How a call ends that was granted a token, and what it sends: code is run by one request that
carries the token, and browser URLs carry it themselves. -/
def Uses (b : CloudBackend) (token : String) (ending : Ending Answer) (sent : List Request) :
    Call → Prop
  | .execute id code language | .executeStream id code language _ =>
    sent = [] ∧ ending.ok? = none ∨
      ∃ url, Url.parse (executeUrl (b.executionBase id)) = .ok url ∧
        sent = [executionRequest url token code language]
  | .browserUrls id port =>
    sent = [] ∧ ending = .finished (.ok (.browser (browserUrls (b.instanceHost port id) token)))
  | _ => True

/-- How a call ends that needs a token of an instance, and what it sends. -/
inductive IsAuthorized (b : CloudBackend) (c : Caller) (w : World) (call : Call) (id : String) :
    Ending Answer → List Request → Prop where
  /-- The token is not granted, and nothing is sent but the request for it. -/
  | refused {ending : Ending Answer} (h : b.IsRefusal c w ending) {sent : List Request}
      (hsent : sent = [] ∨ sent = [b.tokenRequest id]) : IsAuthorized b c w call id ending sent
  /-- The token is granted by the reply to the first request, and no other one is asked for. -/
  | granted {token : String} {replies : List Reply} (hlink : w.link = .up replies)
      (htoken : (World.nextReply replies).1.grantedToken? = some token ∧ token ≠ "")
      {ending : Ending Answer} {sent : List Request} (huses : b.Uses token ending sent call)
      (honce : ∀ r ∈ sent, lookup? "x-tc-action" r.headers = none) :
      IsAuthorized b c w call id ending (b.tokenRequest id :: sent)

/-! ## One call -/

end CloudBackend

namespace Execution

theorem lookup?_executionRequest (url : Url) (token code language : String) :
    lookup? "x-tc-action" (executionRequest url token code language).headers = none := rfl

/-- The requests of running code carry the token that it was given. -/
theorem exists_sent_execute (c : Caller) (base code language : String) (l : Listeners)
    {token : String} (htoken : token ≠ "") (w : World) :
    ∃ sent, ((Answer.output <$> execute base (some token) code language l).run c w).2.sent =
        w.sent ++ sent ∧
      (sent = [] ∧
          ((Answer.output <$> execute base (some token) code language l).run c w).1.ok? = none ∨
        ∃ url, Url.parse (executeUrl base) = .ok url ∧
          sent = [executionRequest url token code language]) ∧
      ∀ r ∈ sent, lookup? "x-tc-action" r.headers = none := by
  rw [Action.run_map]
  dsimp only
  rcases sent_execute c base htoken code language l w with ⟨hsent, hnone⟩ | ⟨url, hurl, hsent⟩
  · refine ⟨[], ?_, .inl ⟨rfl, Ending.ok?_map_eq_none hnone _⟩, fun r hr => ?_⟩
    · rw [hsent, List.append_nil]
    · exact absurd hr List.not_mem_nil
  · refine ⟨_, hsent, .inr ⟨url, hurl, rfl⟩, fun r hr => ?_⟩
    rw [List.mem_singleton.1 hr]
    exact lookup?_executionRequest url token code language

end Execution

namespace CloudBackend

section

variable {b : CloudBackend} {c : Caller} {w : World} {call : Call} {id : String}

/-- A call goes on with the token that was granted, or it is refused. -/
theorem isAuthorized_bind (hw : w.sent = []) {f : String → Action Answer}
    (hf : ∀ token w', token ≠ "" → ∃ sent, ((f token).run c w').2.sent = w'.sent ++ sent ∧
      b.Uses token ((f token).run c w').1 sent call ∧
      ∀ r ∈ sent, lookup? "x-tc-action" r.headers = none) :
    b.IsAuthorized c w call id (((b.acquireToken id).bind f).run c w).1
      (((b.acquireToken id).bind f).run c w).2.sent := by
  rcases b.acquireToken_cases id c w with
    ⟨token, replies, w', hrun, hlink, htoken, hsent⟩ | ⟨hrefusal, hsent⟩
  · have hne := Reply.ne_empty_of_grantedToken? htoken
    obtain ⟨sent, hmore, huses, honce⟩ := hf token w' hne
    rw [Action.run_bind, hrun]
    simp only [hmore, hsent, hw]
    exact .granted hlink ⟨htoken, hne⟩ huses honce
  · obtain ⟨hrefusal, hlast⟩ := hrefusal.run_bind f
    rw [hlast]
    rw [hw, List.nil_append] at hsent
    exact .refused hrefusal hsent

theorem isAuthorized_execute (b : CloudBackend) (c : Caller) (hw : w.sent = [])
    (id code language : String) (l : Listeners)
    (huses : ∀ token ending sent, b.Uses token ending sent (.executeStream id code language l) →
      b.Uses token ending sent call) :
    b.IsAuthorized c w call id ((Answer.output <$> b.execute id code language l).run c w).1
      ((Answer.output <$> b.execute id code language l).run c w).2.sent := by
  have haction : Answer.output <$> b.execute id code language l =
      (b.acquireToken id).bind fun token =>
        Answer.output <$> Execution.execute (b.executionBase id) (some token) code language l :=
    Action.bind_assoc _ _ _
  rw [haction]
  refine isAuthorized_bind hw fun token w' htoken => ?_
  obtain ⟨sent, hsent, hone, hrest⟩ :=
    exists_sent_execute c (b.executionBase id) code language l htoken w'
  exact ⟨sent, hsent, huses _ _ _ hone, hrest⟩

/-- A call that needs a token of an instance uses the one granted to it, or is refused. -/
theorem isAuthorized_cloudAction (b : CloudBackend) (c : Caller) (hw : w.sent = [])
    (hid : call.tokenFor? = some id) :
    b.IsAuthorized c w call id ((Backend.cloudAction b call).run c w).1
      ((Backend.cloudAction b call).run c w).2.sent := by
  cases call with
  | execute id' code language =>
    obtain rfl := Option.some.inj hid
    exact isAuthorized_execute b c hw id' code language .none fun _ _ _ h => h
  | executeStream id' code language l =>
    obtain rfl := Option.some.inj hid
    exact isAuthorized_execute b c hw id' code language l fun _ _ _ h => h
  | browserUrls id' port =>
    obtain rfl := Option.some.inj hid
    have haction : Backend.cloudAction b (.browserUrls id' port) =
        (b.acquireToken id').bind fun token =>
          .done (.ok (.browser (browserUrls (b.instanceHost port id') token))) := by
      refine (Action.bind_assoc _ _ _).trans ?_
      exact Action.bind_assoc _ _ _
    rw [haction]
    refine isAuthorized_bind hw fun token w' _ => ⟨[], (List.append_nil _).symm, ⟨rfl, rfl⟩, ?_⟩
    exact List.forall_mem_nil _
  | _ => cases hid

end

end CloudBackend

/-! ## Sessions -/

namespace Session

theorem isAuthorized_perform (b : CloudBackend) (limit : Option Nat) (connected : Bool) (s : Step)
    (caller : Caller) {call : Call} {id : String} (hid : call.tokenFor? = some id) (st : State) :
    ∃ ending,
      (s.perform ⟨.cloud b, limit⟩ connected caller call st).1.result =
        .ofCall (Client.resultOf call.operation caller.deadline ending) ∧
      b.IsAuthorized caller (s.world connected st) call id ending
        (s.perform ⟨.cloud b, limit⟩ connected caller call st).1.sent := by
  rcases s.perform_cases ⟨.cloud b, limit⟩ connected caller call st with
    ⟨heeds, hcancelled, h⟩ | ⟨ending, w, hrun, h⟩
  · rw [h]
    exact ⟨.cancelled, rfl, .refused (.cancelled heeds (.inl hcancelled)) (.inl rfl)⟩
  · have hsent : (s.world connected st).sent = [] := rfl
    have hauthorized := CloudBackend.isAuthorized_cloudAction b caller hsent hid
    have hcloud : (Backend.cloudAction b call).run caller (s.world connected st) = (ending, w) :=
      hrun
    rw [hcloud] at hauthorized
    rw [h]
    exact ⟨ending, rfl, hauthorized⟩

/-- What a step on the control plane does with other tokens is the same. -/
theorem step_withTokens (b : CloudBackend) (limit : Option Nat) (connected : Bool) (s : Step)
    (st : State) (tokens : TokenCache) :
    step ⟨.cloud b, limit⟩ connected s { st with tokens := tokens } =
      ({ (step ⟨.cloud b, limit⟩ connected s st).1 with tokens := tokens },
        { (step ⟨.cloud b, limit⟩ connected s st).2 with tokens := tokens }) := by
  cases hcall : s.command.call? with
  | some call =>
    have hblind : ((Backend.cloud b).action call).Within (fun _ => False) Error.IsFailure :=
      b.within_cloudAction (fun _ => False) call
    rw [step_of_call? hcall, step_of_call? hcall]
    obtain ⟨_, rfl, h⟩ := Step.perform_related (c := ⟨.cloud b, limit⟩)
      (R := fun _ t => t = tokens) hblind (fun _ _ _ allowed => allowed.elim) connected s
      (s.caller ⟨.cloud b, limit⟩) st rfl
    exact h
  | none =>
    unfold step
    cases hc : s.command with
    | call asked =>
      rw [hc] at hcall
      cases hcall
    | unguarded asked =>
      rw [hc] at hcall
      cases hcall
    | _ => rfl

theorem run_withTokens (b : CloudBackend) (limit : Option Nat) (connected : Bool)
    (steps : List Step) (st : State) (tokens : TokenCache) :
    run ⟨.cloud b, limit⟩ connected steps { st with tokens := tokens } =
      (run ⟨.cloud b, limit⟩ connected steps st).map fun r => { r with tokens := tokens } := by
  induction steps generalizing st with
  | nil => rfl
  | cons s ss ih =>
    simp only [run, step_withTokens, List.map_cons]
    rw [ih]

/-- Every step of a session on the control plane that needs a token of an instance uses the one that
the reply to its own first request grants, or is refused and sends nothing else, and no step changes
the remembered tokens or does anything else because of them. -/
theorem authorized_run (b : CloudBackend) (limit : Option Nat) (connected : Bool)
    (steps : List Step) (st : State) :
    let c : Client := ⟨.cloud b, limit⟩
    (∀ (i : Nat) (s : Step) (call : Call) (id : String), steps[i]? = some s →
      s.command.call? = some call → call.tokenFor? = some id →
        let now := stateAfter c connected (steps.take i) st
        ∃ (r : Report) (ending : Ending Answer), (run c connected steps st)[i]? = some r ∧
          r.result = .ofCall (Client.resultOf call.operation (s.caller c).deadline ending) ∧
          b.IsAuthorized (s.caller c) (s.world connected now) call id ending r.sent) ∧
      (∀ r ∈ run c connected steps st, r.tokens = st.tokens) ∧
      ∀ tokens, run c connected steps { st with tokens := tokens } =
        (run c connected steps st).map fun r => { r with tokens := tokens } := by
  intro c
  refine ⟨?_, fun r hr => ?_, run_withTokens b limit connected steps st⟩
  · intro i s call id hs hcall hid now
    have hstep : step c connected s now = s.perform c connected (s.caller c) call now :=
      step_of_call? hcall
    obtain ⟨ending, hresult, hauthorized⟩ :=
      isAuthorized_perform b limit connected s (s.caller c) hid now
    rw [← hstep] at hresult hauthorized
    exact ⟨_, ending, getElem?_run hs c connected st, hresult, hauthorized⟩
  · have hsame : run c connected steps st =
        (run c connected steps st).map fun r => { r with tokens := st.tokens } :=
      run_withTokens b limit connected steps st st.tokens
    rw [hsame] at hr
    obtain ⟨r', -, rfl⟩ := List.mem_map.1 hr
    rfl

/-- The token that one step was granted is no token for the next one, to which nothing is
granted. -/
theorem authorized_run_execute_then_browse :
    let b : CloudBackend := ⟨⟨"", "", "r", false, none, some "http://h"⟩,
      ⟨"http", some ⟨none, some (.domain ['h']), none⟩, .segments [[]], none, none⟩, "h", none,
      ⟨0, 0⟩⟩
    let granting : Reply := ⟨false, 0,
      .whole 200 (Utf8.encode "\x7b\"Response\":\x7b\"Token\":\"t\"\x7d\x7d")⟩
    let running : Step :=
      ⟨.call (.execute "a" "1" ""), [granting, ⟨false, 0, .whole 200 []⟩], none, none, none⟩
    let browsing : Step := ⟨.call (.browserUrls "a" 9000), [], some 7000, none, none⟩
    let reports := run ⟨.cloud b, none⟩ true [running, browsing] ⟨.empty, false⟩
    granting.grantedToken? = some "t" ∧
      (∃ r ending, reports[0]? = some r ∧
        r.result = .ofCall (Client.resultOf "Execute" none ending) ∧
        b.IsAuthorized ⟨true, none, none, none⟩ (running.world true ⟨.empty, false⟩)
          (.execute "a" "1" "") "a" ending r.sent) ∧
      ∃ r, reports[1]? = some r ∧ (r.sent = [] ∨ r.sent = [b.tokenRequest "a"]) := by
  intro b granting running browsing reports
  have h := (authorized_run b none true [running, browsing] ⟨.empty, false⟩).1
  refine ⟨by decide +kernel, h 0 running _ "a" rfl rfl rfl, ?_⟩
  obtain ⟨r, ending, hr, -, hauthorized⟩ := h 1 browsing _ "a" rfl rfl rfl
  refine ⟨r, hr, ?_⟩
  generalize r.sent = sent at hauthorized ⊢
  cases hauthorized with
  | refused _ hsent => exact hsent
  | granted hlink htoken =>
    cases hlink
    cases htoken.1

end Session

end AgentSandbox

import AgentSandbox.Proofs.Client.Executing
import AgentSandbox.Proofs.Client.FreshTokens
import AgentSandbox.Proofs.Exchange.Bodies
import AgentSandbox.Proofs.Json.Rereading

/-!
# The code that is submitted

A request that `Request.Submits` some code holds it as it was given, whatever characters it is made of,
and goes to the address below the execution service with the token that there is.  A step that runs
code sends one such request and no other, behind the one for a token if it has to ask for that, or it
sends none and has no answer (`Session.submitted_code`).
-/

namespace AgentSandbox

open Execution Json

/-! ## The request -/

/-- A text is its front without solidi at the end, and then some solidi. -/
theorem Text.exists_eq_dropEndSlashes (s : String) :
    ∃ n, s = dropEndSlashes s ++ String.ofList (List.replicate n '/') ∧
      (dropEndSlashes s).toList.getLast? ≠ some '/' := by
  obtain ⟨slashes, hslashes, hs⟩ := exists_blanks_dropEndWhile (· == '/') s.toList
  refine ⟨slashes.length, ?_, ?_⟩
  · have hall : slashes = List.replicate slashes.length '/' :=
      List.eq_replicate_iff.2 ⟨rfl, fun c hc => beq_iff_eq.1 (hslashes c hc)⟩
    rw [← String.toList_inj, String.toList_append, String.toList_ofList, ← hall, dropEndSlashes,
      String.toList_ofList]
    exact hs
  · rw [dropEndSlashes, String.toList_ofList, dropEndWhile, List.getLast?_reverse]
    intro hlast
    have hnot := List.head?_dropWhile_not (· == '/') s.toList.reverse
    rw [hlast] at hnot
    exact absurd hnot (by decide)

/-- A request that submits some code in a language to the execution service below `base`: it goes to
`base` without the solidi at its end, followed by `/execute`, its body is a text that spells the code
and the language and nothing else, and it carries the token if there is one that is not empty. -/
structure Request.Submits (base code language : String) (token : Option String) (r : Request) :
    Prop where
  method : r.method = .post
  url : ∃ stem n, base = stem ++ String.ofList (List.replicate n '/') ∧
    stem.toList.getLast? ≠ some '/' ∧ Url.parse (stem ++ "/execute") = .ok r.url
  body : documentOf? (Utf8.encode r.body) = some (.record
    [(some "code", .text code), (some "language", .text (if language = "" then "python" else language))])
  token : ∀ t, ("x-access-token", t) ∈ r.headers ↔ token = some t ∧ t ≠ ""
  once : (r.headers.map (·.1)).Nodup

namespace Execution

theorem documentOf?_requestBody (code language : String) :
    documentOf? (Utf8.encode (requestBody code language).toText) = some (.record
      [(some "code", .text code),
        (some "language", .text (if language = "" then "python" else language))]) := by
  have hfits : (requestBody code language).Fits maxNesting := by
    simp [requestBody, maxNesting]
  rw [documentOf?_toText hfits]
  simp only [requestBody, Document.ofValue, memberDocuments, String.isEmpty_iff, defaultLanguage]

theorem mem_requestHeaders_iff (token : Option String) (t : String) :
    ("x-access-token", t) ∈ requestHeaders token ↔ token = some t ∧ t ≠ "" := by
  cases token with
  | none => simp [requestHeaders, Text.nonEmpty]
  | some token =>
    by_cases h : token = ""
    · subst h
      simp [requestHeaders, Text.nonEmpty]
    · rw [requestHeaders_of_ne h]
      simp only [List.mem_cons, Prod.mk.injEq, String.reduceEq, false_and, true_and,
        List.not_mem_nil, or_false, false_or, Option.some.injEq]
      exact ⟨fun heq => ⟨heq.symm, heq ▸ h⟩, fun heq => heq.1.symm⟩

theorem nodup_requestHeaders (token : Option String) :
    ((requestHeaders token).map (·.1)).Nodup := by
  rcases requestHeaders_cases token with h | ⟨t, h⟩
  · rw [h]
    decide
  · rw [h]
    show ["content-type", "x-access-token"].Nodup
    decide

theorem submits_submission {base : String} {url : Url} (hurl : Url.parse (executeUrl base) = .ok url)
    (token : Option String) (code language : String) :
    (submission url token code language).Submits base code language token where
  method := rfl
  url := by
    obtain ⟨n, hbase, hlast⟩ := Text.exists_eq_dropEndSlashes base
    exact ⟨_, n, hbase, hlast, hurl⟩
  body := documentOf?_requestBody code language
  token := mem_requestHeaders_iff token
  once := nodup_requestHeaders token

end Execution

/-! ## Steps -/

/-- The call runs some code in an instance. -/
def Call.Runs (id code language : String) (call : Call) : Prop :=
  call = .execute id code language ∨ ∃ l, call = .executeStream id code language l

theorem Call.Runs.action {id code language : String} {call : Call} (h : call.Runs id code language) :
    ∃ l, ∀ b : Backend, b.action call = Answer.output <$> b.execute id code language l := by
  rcases h with rfl | ⟨l, rfl⟩
  · exact ⟨.none, fun b => b.action_execute id code language⟩
  · exact ⟨l, fun b => b.action_executeStream id code language l⟩

/-- The requests that come before that of an execution: one for a token if tokens are not
remembered. -/
def Backend.tokenRequests (id : String) : Backend → List Request
  | .e2b _ => []
  | .cloud b => [b.tokenRequest id]

/-- Code is run with the token that is remembered. -/
theorem E2bBackend.run_execute (b : E2bBackend) (id code language : String) (l : Listeners)
    (c : Caller) (w : World) :
    ((Backend.e2b b).execute id code language l).run c w =
      (Execution.execute (b.executionBase id) (w.tokens.find? id) code language l).run c w :=
  Action.run_lookUpToken_bind id _ c w

theorem CloudBackend.IsRefusal.ok?_eq_none {b : CloudBackend} {c : Caller} {w : World} {α : Type}
    {ending : Ending α} (h : b.IsRefusal c w ending) : ending.ok? = none := by
  cases h <;> rfl

namespace Session

/-- The token that a step has for an instance: the one that is remembered, or the one that the reply to
its first request grants. -/
def Step.token? (s : Step) (st : State) (id : String) : Backend → Option String
  | .e2b _ => st.tokens.find? id
  | .cloud _ => (World.nextReply s.replies).1.grantedToken?

/-- What a step that runs code sends, and that it has no answer if it does not send the code. -/
inductive Report.IsSubmission (b : Backend) (id code language : String) (token : Option String)
    (report : Report) : Prop where
  | kept (sent : report.sent <+: b.tokenRequests id)
      (result : ∀ answer, report.result ≠ .answer answer)
  | submitted {r : Request} (sent : report.sent = b.tokenRequests id ++ [r])
      (submits : r.Submits (b.executionBase id) code language token)
      (granted : b.kind = .cloud → ∃ t, token = some t ∧ t ≠ "")

section

variable {s : Step} {call : Call} {id code language : String}

theorem isSubmission_e2b (b : E2bBackend) (limit : Option Nat) (connected : Bool)
    (hruns : call.Runs id code language) (caller : Caller) (st : State) :
    (s.perform ⟨.e2b b, limit⟩ connected caller call st).1.IsSubmission (.e2b b) id code language
      (st.tokens.find? id) := by
  obtain ⟨l, haction⟩ := hruns.action
  rcases Step.perform_map_cases (c := ⟨.e2b b, limit⟩) (haction (.e2b b)) connected s caller st with
    ⟨e, h⟩ | ⟨ending, w, hrun, h⟩
  · rw [h]
    exact .kept (List.prefix_refl _) fun answer => nofun
  · have hsent := sent_submission caller (b.executionBase id) (st.tokens.find? id) code language l
      (s.world connected st)
    rw [E2bBackend.run_execute] at hrun
    have htokens : (s.world connected st).tokens = st.tokens := rfl
    rw [htokens] at hrun
    rw [hrun] at hsent
    rw [h]
    rcases hsent with ⟨hnone, hending⟩ | ⟨url, hurl, hsent⟩
    · exact .kept (hnone ▸ List.prefix_refl _)
        fun answer => Result.ofCall_ne_answer (Ending.ok?_map_eq_none hending _) answer
    · exact .submitted hsent (submits_submission hurl _ code language) nofun

theorem isSubmission_cloud (b : CloudBackend) (limit : Option Nat) (connected : Bool)
    (hruns : call.Runs id code language) (caller : Caller) (st : State) :
    (s.perform ⟨.cloud b, limit⟩ connected caller call st).1.IsSubmission (.cloud b) id code language
      (World.nextReply s.replies).1.grantedToken? := by
  have hid : call.tokenFor? = some id := by
    rcases hruns with rfl | ⟨l, rfl⟩ <;> rfl
  obtain ⟨ending, hresult, hauthorized⟩ :=
    isAuthorized_perform b limit connected s caller hid st
  generalize (s.perform ⟨.cloud b, limit⟩ connected caller call st).1 = report at *
  generalize hsent : report.sent = sent at hauthorized
  cases hauthorized with
  | refused hrefusal hfirst =>
    refine .kept ?_ fun answer => ?_
    · rw [hsent]
      rcases hfirst with rfl | rfl
      · exact List.nil_prefix
      · exact List.prefix_refl _
    · rw [hresult]
      exact Result.ofCall_ne_answer hrefusal.ok?_eq_none answer
  | @granted token replies hlink htoken _ sent huses honce =>
    obtain rfl := s.replies_of_world hlink
    have huses : sent = [] ∧ ending.ok? = none ∨
        ∃ url, Url.parse (executeUrl (b.executionBase id)) = .ok url ∧
          sent = [executionRequest url token code language] := by
      rcases hruns with rfl | ⟨l, rfl⟩
      · exact huses
      · exact huses
    rcases huses with ⟨rfl, hnone⟩ | ⟨url, hurl, rfl⟩
    · refine .kept (hsent ▸ List.prefix_refl _) fun answer => ?_
      rw [hresult]
      exact Result.ofCall_ne_answer hnone answer
    · rw [htoken.1]
      rw [← submission_of_ne htoken.2] at hsent
      exact .submitted hsent (submits_submission hurl _ code language) fun _ => ⟨token, rfl, htoken.2⟩

end

/-- A step that runs code sends one request that submits it as it was given, with the token that there is
for the instance, or it has no answer; the control plane has been asked for that token before, and
nothing else is sent. -/
theorem submitted_code {c : Client} {s : Step} {call : Call} {id code language : String}
    (hcall : s.command.call? = some call) (hruns : call.Runs id code language) (connected : Bool)
    (st : State) :
    (step c connected s st).1.IsSubmission c.backend id code language
      (s.token? st id c.backend) := by
  rw [step_of_call? hcall]
  obtain ⟨backend, limit⟩ := c
  cases backend with
  | e2b b => exact isSubmission_e2b b limit connected hruns _ st
  | cloud b => exact isSubmission_cloud b limit connected hruns _ st

/-- Code with quotes, line breaks, a control character and one beyond the basic plane, for a service
whose address ends with solidi. -/
theorem submitted_code_quoted :
    let b : E2bBackend := ⟨{ E2bConfig.default with executeUrl := some "http://h/v1//" }, none, ⟨0, 0⟩⟩
    let code := "print(\"a\\n\")\r\n\x01'é😀'"
    let report := (step ⟨.e2b b, none⟩ true
      ⟨.call (.execute "i" code ""), [⟨false, 0, .whole 200 []⟩], none, none, none⟩
      ⟨Dictionary.empty.insert "i" "t", false⟩).1
    report.sent.map (·.url.target) = ["http://h/v1/execute"] ∧
      ∃ r, report.sent = [r] ∧ r.Submits "http://h/v1//" code "" (some "t") := by
  intro b code report
  have htarget : report.sent.map (·.url.target) = ["http://h/v1/execute"] := by decide +kernel
  refine ⟨htarget, ?_⟩
  have htoken : (Dictionary.empty.insert "i" "t").find? "i" = some "t" := by decide +kernel
  have h := submitted_code (c := ⟨.e2b b, none⟩)
    (s := ⟨.call (.execute "i" code ""), [⟨false, 0, .whole 200 []⟩], none, none, none⟩) rfl (.inl rfl)
    true ⟨Dictionary.empty.insert "i" "t", false⟩
  cases h with
  | kept hsent =>
    have hnone : report.sent = [] := List.prefix_nil.1 hsent
    rw [hnone] at htarget
    cases htarget
  | submitted hsent hsubmits => exact ⟨_, hsent, htoken ▸ hsubmits⟩

end Session

end AgentSandbox

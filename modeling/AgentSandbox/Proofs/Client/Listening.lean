import AgentSandbox.Proofs.Client.Deadline
import AgentSandbox.Proofs.Client.Reading
import AgentSandbox.Proofs.Cloud.Tokens
import AgentSandbox.Proofs.Exchange.Listening

/-!
# Executions with listeners

To run code, a backend looks for a token and then sends one request (`Backend.execute_eq`).  With
listeners it does so as it does without them, unless the caller acts on a notice
(`Backend.execute_echoes`), and when there is output then its listeners have heard it
(`Backend.execute_tells`).  So a step of a session with listeners does and reports what the step
without them does and reports (`Session.observed_execution`).
-/

namespace AgentSandbox

open Execution

/-! ## Endings -/

/-- The first action had no listeners and the second one had some. -/
def Ending.Echoes {α : Type} (c : Caller) (r r' : Ending α × World) : Prop :=
  World.Echo c (r'.1 = r.1) (r'.1 = .cancelled ∨ r'.1 = .expired) r.2 r'.2

/-- The output that came back, be it whole or part of an error. -/
def Ending.output? : Ending Output → Option Output
  | .finished (.ok output) => some output
  | .finished (.error e) => e.partialOutput?
  | _ => none

section

variable {α β : Type} {c : Caller}

theorem Ending.Echoes.refl (r : Ending α × World) : Ending.Echoes c r r :=
  ⟨r.2.alike_self, .inl ⟨rfl, fun _ => rfl⟩⟩

theorem Ending.Echoes.map {r r' : Ending α × World} (h : Ending.Echoes c r r') (f : α → β) :
    Ending.Echoes c (r.1.map f, r.2) (r'.1.map f, r'.2) := by
  refine ⟨h.alike, h.ends.imp (fun hsame => ⟨?_, hsame.2⟩) fun hstopped => ⟨hstopped.1, ?_⟩⟩
  · exact congrArg (Ending.map f) hsame.1
  · exact hstopped.2.imp (congrArg (Ending.map f)) (congrArg (Ending.map f))

theorem Action.run_bind_echoes {f g : α → Action β}
    (h : ∀ x w, Ending.Echoes c ((f x).run c w) ((g x).run c w)) (a : Action α) (w : World) :
    Ending.Echoes c ((a.bind f).run c w) ((a.bind g).run c w) := by
  rw [Action.run_bind, Action.run_bind]
  rcases a.run c w with ⟨(_ | x) | _ | _ | _, w₁⟩
  case finished.ok => exact h x w₁
  all_goals exact .refl _

end

/-! ## The request -/

theorem Execution.outputOf_muted (o : Outcome) : outputOf o.muted = outputOf o := by
  cases o with
  | fault f => rfl
  | reply status received cut =>
    simp only [Outcome.muted, outputOf, Received.output_muted, Received.rejection,
      Received.bytes_muted]

theorem Finish.ending_muted (f : Finish) : f.muted.ending outputOf = f.ending outputOf := by
  cases f with
  | outcome o => exact congrArg Ending.finished (outputOf_muted o)
  | _ => rfl

theorem Finish.Echoes.ending {c : Caller} {r r' : Finish × World}
    (h : Finish.Echoes c r r') :
    Ending.Echoes c (r.1.ending outputOf, r.2) (r'.1.ending outputOf, r'.2) := by
  refine ⟨h.alike, h.ends.imp (fun hsame => ⟨?_, hsame.2⟩) fun hstopped => ⟨hstopped.1, ?_⟩⟩
  · rw [hsame.1, Finish.ending_muted]
  · rcases hstopped.2 with hf | hf
    · exact .inl (by rw [hf]; rfl)
    · exact .inr (by rw [hf]; rfl)

theorem Execution.reception_none (l : Listeners) :
    reception .none = fun status => (reception l status).muted := by
  funext status
  unfold reception
  split
  · rfl
  · rfl

theorem Execution.execute_echoes (base : String) (token : Option String) (code language : String)
    (l : Listeners) (c : Caller) (w : World) :
    Ending.Echoes c ((execute base token code language .none).run c w)
      ((execute base token code language l).run c w) := by
  unfold execute
  cases Url.parse (executeUrl base) with
  | error f => exact .refl _
  | ok url =>
    let q : Query :=
      ⟨⟨.post, url, requestHeaders token, (requestBody code language).toText⟩, none, reception l⟩
    have hmuted : q.muted = { q with reception := reception .none } := by
      rw [reception_none l]
      rfl
    have hechoes := World.exchange_echoes c (q := q) rfl w
    rw [hmuted] at hechoes
    rw [Action.run_send_done, Action.run_send_done]
    exact hechoes.ending

/-- There is output only if the service answered with a stream that is over. -/
theorem Execution.exists_stream_of_outputOf {o : Outcome} {output : Output}
    (h : (Finish.ending outputOf (.outcome o)).output? = some output) :
    ∃ received cut, o = .reply 200 received cut ∧ received.output = output := by
  cases o with
  | fault f => cases h
  | reply status received cut =>
    simp only [Finish.ending, outputOf] at h
    split at h
    · next hstatus =>
      subst hstatus
      cases cut with
      | none =>
        cases h
        exact ⟨received, none, rfl, rfl⟩
      | some f =>
        cases h
        exact ⟨received, some f, rfl, rfl⟩
    · cases h

/-- If there is output, then it is that of the events of the stream, and the notices given are those
that these events cause. -/
theorem Execution.execute_tells {base : String} {token : Option String} {code language : String}
    {l : Listeners} {c : Caller} {w : World} {output : Output}
    (h : ((execute base token code language l).run c w).1.output? = some output) :
    let r := (execute base token code language l).run c w
    ∃ replies es, w.link = .up replies ∧
      (World.nextReply replies).1.response.events? = some es ∧
      output = es.foldl Output.record .empty ∧
      r.2.notices = w.notices ++ es.filterMap (Event.notice? l) ∧
      r.2.sent.length = w.sent.length + 1 := by
  intro r
  have h : r.1.output? = some output := h
  cases hurl : Url.parse (executeUrl base) with
  | error f =>
    have hr : r = (.finished (.error (.inContext serviceContext (.transport .unwritable))), w) := by
      simp only [r, execute, hurl]
      rfl
    rw [hr] at h
    cases h
  | ok url =>
    let q : Query :=
      ⟨⟨.post, url, requestHeaders token, (requestBody code language).toText⟩, none, reception l⟩
    have hr : r = ((w.exchange c q).1.ending outputOf, (w.exchange c q).2) := by
      simp only [r, execute, hurl]
      exact Action.run_send_done c q outputOf w
    rw [hr] at h ⊢
    have hsent := World.exchange_sent c q w
    rcases hexchange : w.exchange c q with ⟨o | _ | _ | _, w'⟩
    case outcome =>
      rw [hexchange] at h hsent
      obtain ⟨received, cut, rfl, houtput⟩ := exists_stream_of_outputOf h
      obtain ⟨replies, es, hlink, hes, htells, hnotices⟩ :=
        World.exchange_tells (q := q) rfl rfl hexchange
      have hone : w'.sent = w.sent ++ [q.request] :=
        hsent.resolve_left fun hnone => hnone.2 200 received cut rfl
      refine ⟨replies, es, hlink, hes, houtput ▸ htells.1, hnotices, ?_⟩
      rw [hone]
      exact List.length_append
    all_goals
      rw [hexchange] at h
      cases h

/-! ## Backends -/

/-- No notice has been given, and of some replies those are left behind the requests that were
sent. -/
structure World.IsFresh (replies : List Reply) (w : World) : Prop where
  silent : w.notices = []
  left : ∀ rest, w.link = .up rest → rest = replies.drop w.sent.length

/-- An exchange whose reply is no execution takes the next reply and gives no notices. -/
theorem World.IsFresh.exchange {replies : List Reply} {w : World} (hw : w.IsFresh replies)
    (c : Caller) {q : Query} (hq : ∀ status, q.reception status = .body []) :
    (w.exchange c q).2.IsFresh replies := by
  rcases World.exchange_body c hq w with ⟨hsame, -⟩ | ⟨rest, hlink, n, hlater⟩
  · rwa [hsame]
  · rw [hlater]
    refine ⟨hw.silent, ?_⟩
    rintro _ ⟨⟩
    have hnext (rest : List Reply) : (World.nextReply rest).2 = rest.tail := by cases rest <;> rfl
    have hsent : (w.sent ++ [q.request]).length = w.sent.length + 1 := List.length_append
    rw [hw.left rest hlink, hnext, List.tail_drop]
    exact congrArg (replies.drop ·) hsent.symm

/-- The lack of a token is no broken stream. -/
theorem CloudBackend.partialOutput?_of_acquired {o : Outcome} {e : Error}
    (h : acquired o = .error e) : e.partialOutput? = none := by
  unfold acquired at h
  split at h
  · cases h
  · cases h
    rfl
  · next hrecord =>
    cases h
    cases isFault_of_recordOf hrecord <;> rfl

namespace Backend

/-- The URL below which the execution service of an instance is found. -/
def executionBase (id : String) : Backend → String
  | .e2b b => b.executionBase id
  | .cloud b => b.executionBase id

/-- Code is run with the token of the instance, by one request. -/
theorem execute_eq (b : Backend) (id code language : String) (l : Listeners) :
    b.execute id code language l =
      (b.accessToken id).bind fun token =>
        Execution.execute (b.executionBase id) token code language l := by
  cases b with
  | e2b b => rfl
  | cloud b =>
    have htoken : (Backend.cloud b).accessToken id =
        (b.acquireToken id).bind fun token => .done (.ok (some token)) := rfl
    have hknown (token : String) (f : Option String → Action Output) :
        (Action.done (.ok (some token))).bind f = f (some token) := rfl
    rw [htoken, Action.bind_assoc]
    simp only [hknown]
    rfl

theorem execute_echoes (b : Backend) (id code language : String) (l : Listeners) (c : Caller)
    (w : World) :
    Ending.Echoes c ((b.execute id code language .none).run c w)
      ((b.execute id code language l).run c w) := by
  rw [execute_eq, execute_eq]
  exact Action.run_bind_echoes (fun token w => Execution.execute_echoes _ _ _ _ _ c w) _ w

theorem action_execute (b : Backend) (id code language : String) :
    b.action (.execute id code language) = Answer.output <$> b.execute id code language .none := by
  cases b <;> rfl

theorem action_executeStream (b : Backend) (id code language : String) (l : Listeners) :
    b.action (.executeStream id code language l) = Answer.output <$> b.execute id code language l := by
  cases b <;> rfl

/-- No error of an execution speaks for the caller. -/
theorem isFailure_of_execute {b : Backend} {id code language : String} {l : Listeners} {c : Caller}
    {w : World} {e : Error}
    (h : ((b.execute id code language l).run c w).1.map Answer.output = .finished (.error e)) :
    e.IsFailure := by
  have hrun : (b.action (.executeStream id code language l)).run c w =
      (.finished (.error e), ((b.execute id code language l).run c w).2) := by
    rw [action_executeStream, Action.run_map]
    exact Prod.ext h rfl
  exact (b.within_action _).allowed_of_run hrun

/-- To find a token, at most one request is sent, and its reply is no execution. -/
theorem isFresh_accessToken (b : Backend) (id : String) (c : Caller) {replies : List Reply}
    {w : World} (hw : w.IsFresh replies) : ((b.accessToken id).run c w).2.IsFresh replies := by
  cases b with
  | e2b b => exact ⟨hw.silent, hw.left⟩
  | cloud b =>
    have hrun : ((Backend.cloud b).accessToken id).run c w = (some <$> b.acquireToken id).run c w :=
      rfl
    rw [hrun, Action.run_map, CloudBackend.acquireToken_eq, Action.run_send_done]
    exact hw.exchange c fun _ => rfl

theorem within_accessToken (b : Backend) (id : String) :
    (b.accessToken id).Within (fun _ => True) fun e => e.partialOutput? = none := by
  cases b with
  | e2b b => exact Action.within_lookUpToken trivial
  | cloud b =>
    have hacquire : (b.acquireToken id).Within (fun _ => True) fun e => e.partialOutput? = none := by
      rw [CloudBackend.acquireToken_eq]
      exact .send _ fun o => .done fun e => CloudBackend.partialOutput?_of_acquired
    exact hacquire.map some

/-- If there is output, then it is that of the events of the stream in the reply to the last request,
and the notices given are those that these events cause. -/
theorem execute_tells {b : Backend} {id code language : String} {l : Listeners} {c : Caller}
    {replies : List Reply} {w : World} (hw : w.IsFresh replies) {output : Output}
    (h : ((b.execute id code language l).run c w).1.output? = some output) :
    let r := (b.execute id code language l).run c w
    ∃ reply es, replies[r.2.sent.length - 1]? = some reply ∧ reply.response.events? = some es ∧
      output = es.foldl Output.record .empty ∧
      r.2.notices = es.filterMap (Event.notice? l) := by
  intro r
  have hfresh := b.isFresh_accessToken id c hw
  have hr : r = _ := (congrArg (·.run c w) (b.execute_eq id code language l)).trans
    (Action.run_bind _ _ w)
  have h : r.1.output? = some output := h
  rcases htoken : (b.accessToken id).run c w with ⟨(e | token) | _ | _ | _, w₁⟩
  case finished.ok =>
    rw [htoken] at hr hfresh
    rw [hr] at h ⊢
    obtain ⟨rest, es, hlink, hes, houtput, hnotices, hsent⟩ := Execution.execute_tells h
    rw [hfresh.left rest hlink] at hes
    have hreply : ∃ reply, replies[w₁.sent.length]? = some reply ∧
        reply.response.events? = some es := by
      rw [← List.head?_drop]
      cases hrest : replies.drop w₁.sent.length with
      | nil =>
        rw [hrest] at hes
        cases hes
      | cons reply rest' =>
        rw [hrest] at hes
        exact ⟨reply, rfl, hes⟩
    obtain ⟨reply, hreply, hes⟩ := hreply
    refine ⟨reply, es, ?_, hes, houtput, ?_⟩
    · rw [hsent]
      exact hreply
    · rw [hnotices, hfresh.silent]
      rfl
  case finished.error =>
    rw [htoken] at hr
    rw [hr] at h
    cases ((b.within_accessToken id).allowed_of_run htoken).symm.trans h
  all_goals
    rw [htoken] at hr
    rw [hr] at h
    cases h

end Backend

/-! ## Steps -/

namespace Session

/-- The output that came back, be it whole or part of an error. -/
def Result.output? : Result → Option Output
  | .answer (.output output) => some output
  | .error e => e.partialOutput?
  | _ => none

/-- The result of another operation: if the caller ended the call then the error names that one. -/
def Result.under (operation : String) : Result → Result
  | .error (.cancelled _) => .error (.cancelled operation)
  | .error (.deadline _ seconds) => .error (.deadline operation seconds)
  | r => r

/-- The caller ended the call, by cancelling it or by the deadline. -/
def Result.IsStopped (operation : String) (r : Result) : Prop :=
  r = .error (.cancelled operation) ∨ ∃ seconds, r = .error (.deadline operation seconds)

/-- The step with a call, asked of the client or of the backend itself. -/
def Step.asking (guarded : Bool) (call : Call) (s : Step) : Step :=
  { s with command := if guarded then .call call else .unguarded call }

theorem Step.call?_asking (guarded : Bool) (call : Call) (s : Step) :
    (s.asking guarded call).command.call? = some call := by
  cases guarded <;> rfl

theorem Step.caller_asking (c : Client) (guarded : Bool) (call call' : Call) (s : Step) :
    (s.asking guarded call).caller c = (s.asking guarded call').caller c := by
  cases guarded <;> rfl

/-- An ending of a call is reported under the name of its operation. -/
theorem Result.ofCall_under {operation : String} {limit : Option Nat} {ending : Ending Answer}
    (h : ∀ e, ending = .finished (.error e) → e.IsFailure) (operation' : String) :
    Result.ofCall (Client.resultOf operation' limit ending) =
      (Result.ofCall (Client.resultOf operation limit ending)).under operation' := by
  rcases ending with (e | a) | _ | _ | _
  case finished.error =>
    have hfailure := h e rfl
    cases e with
    | cancelled => cases hfailure
    | deadline => cases hfailure
    | _ => rfl
  all_goals rfl

theorem Result.isStopped_ofCall {operation : String} {limit : Option Nat} {ending : Ending Answer}
    (h : ending = .cancelled ∨ ending = .expired) :
    (Result.ofCall (Client.resultOf operation limit ending)).IsStopped operation := by
  rcases h with rfl | rfl
  · exact .inl rfl
  · exact .inr ⟨_, rfl⟩

/-- The output that a step reports is that with which the execution ended. -/
theorem Result.output?_ofCall {operation : String} {limit : Option Nat} {ending : Ending Output}
    {output : Output}
    (h : (Result.ofCall (Client.resultOf operation limit (ending.map .output))).output? =
      some output) : ending.output? = some output := by
  rcases ending with (e | o) | _ | _ | _
  case finished.error => exact h
  case finished.ok => exact h
  all_goals cases h

/-- With listeners, a step that runs code sends what it sends without them, leaves the same tokens and
reports the same result under its own name, unless the caller acts on a notice, by cancelling the call
or by letting time pass, and so ends it.  If output comes back then it is made up of the events of the
lines in the stream that answered the last request; the notices given are those that these events
cause, in their order, and the texts that the listener of a channel hears are those that were printed
on it. -/
theorem observed_execution (c : Client) (connected guarded : Bool) (s : Step)
    (id code language : String) (l : Listeners) (st : State) :
    let silent := s.asking guarded (.execute id code language)
    let heard := s.asking guarded (.executeStream id code language l)
    let r := step c connected silent st
    let t := step c connected heard st
    let acts := (heard.caller c).ActsWithin t.1.notices.length
    t.1.sent = r.1.sent ∧ t.1.tokens = r.1.tokens ∧
      (t.1.result = r.1.result.under "ExecuteStream" ∨
        acts ∧ t.1.result.IsStopped "ExecuteStream") ∧
      (¬ acts → t.2 = r.2) ∧
      ∀ output, t.1.result.output? = some output →
        ∃ reply es, s.replies[t.1.sent.length - 1]? = some reply ∧
          reply.response.events? = some es ∧ output = es.foldl Output.record .empty ∧
          t.1.notices = es.filterMap (Event.notice? l) ∧
          ∀ channel, l.hears channel = true →
            texts channel t.1.notices = output.printed channel := by
  intro silent heard r t acts
  let caller := heard.caller c
  let world := s.world connected st
  have hr : r = _ := step_eq_reportOf (s.call?_asking guarded _) connected st
  have ht : t = _ := step_eq_reportOf (s.call?_asking guarded _) connected st
  rw [s.caller_asking c guarded _ (.executeStream id code language l)] at hr
  split at ht
  case isTrue hearly =>
    rw [if_pos hearly] at hr
    rw [hr, ht]
    exact ⟨rfl, rfl, .inl rfl, fun _ => rfl, nofun⟩
  case isFalse hbegun =>
    rw [if_neg hbegun, c.backend.action_execute, Action.run_map] at hr
    rw [c.backend.action_executeStream, Action.run_map] at ht
    have hechoes := (c.backend.execute_echoes id code language l caller world).map Answer.output
    have hfresh : world.IsFresh s.replies := ⟨rfl, fun rest hlink => (s.replies_of_world hlink).symm⟩
    have hacts : acts = caller.ActsWithin
        ((c.backend.execute id code language l).run caller world).2.notices.length :=
      congrArg (fun t : Report × State => caller.ActsWithin t.1.notices.length) ht
    rw [hr, ht, hacts]
    refine ⟨hechoes.alike.sent, hechoes.alike.tokens, ?_, fun hstill => ?_, fun output houtput => ?_⟩
    · refine hechoes.ends.imp (fun hsame => ?_) fun hstopped => ?_
      · exact (congrArg (fun ending => Result.ofCall (Client.resultOf _ caller.deadline ending))
          hsame.1).trans (Result.ofCall_under (fun e => Backend.isFailure_of_execute) _)
      · exact ⟨hstopped.1, Result.isStopped_ofCall hstopped.2⟩
    · obtain ⟨-, hcancelled⟩ := hechoes.ends.resolve_right fun hstopped => hstill hstopped.1
      exact (State.mk.injEq ..).mpr ⟨hechoes.alike.tokens, hcancelled hstill⟩
    · obtain ⟨reply, es, hreply, hes, hevents, hnotices⟩ :=
        Backend.execute_tells hfresh (Result.output?_ofCall houtput)
      refine ⟨reply, es, hreply, hes, hevents, hnotices, fun channel hhears => ?_⟩
      rw [hevents, ← texts_of_hears hhears es]
      exact congrArg (texts channel) hnotices

/-- A stream that prints on both channels and breaks inside a third line. -/
theorem observed_execution_broken :
    let b : E2bBackend := ⟨⟨"", "", "", none, some "http://h"⟩, none, ⟨0, 0⟩⟩
    let stream := "\x7b\"type\":\"stderr\",\"text\":\"b\"\x7d\n" ++
      "\x7b\"type\":\"stdout\",\"text\":\"a\"\x7d\n\x7b\"type\":"
    let s : Step :=
      ⟨.rescope, [⟨false, 0, .answer 200 [⟨0, Utf8.encode stream⟩] .broken⟩], none, none, none⟩
    let report (call : Call) : Report :=
      (step ⟨.e2b b, none⟩ true (s.asking true call) ⟨.empty, false⟩).1
    let silent := report (.execute "i" "1" "")
    let heard := report (.executeStream "i" "1" "" ⟨true, true⟩)
    heard.sent = silent.sent ∧
      heard.result.output?.map (fun o => (o.stdout, o.stderr)) = some (["a"], ["b"]) ∧
      texts .stdout heard.notices = ["a"] ∧ texts .stderr heard.notices = ["b"] := by
  intro b stream s report silent heard
  have hprinted : heard.result.output?.map (fun o => (o.stdout, o.stderr)) = some (["a"], ["b"]) := by
    decide +kernel
  obtain ⟨output, houtput, hboth⟩ := Option.map_eq_some_iff.1 hprinted
  obtain ⟨hstdout, hstderr⟩ := Prod.mk.inj hboth
  obtain ⟨hsent, -, -, -, htells⟩ :=
    observed_execution ⟨.e2b b, none⟩ true true s "i" "1" "" ⟨true, true⟩ ⟨.empty, false⟩
  obtain ⟨-, -, -, -, -, -, hheard⟩ := htells output houtput
  exact ⟨hsent, hprinted, (hheard .stdout rfl).trans hstdout, (hheard .stderr rfl).trans hstderr⟩

end Session

end AgentSandbox

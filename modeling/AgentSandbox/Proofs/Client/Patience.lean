import AgentSandbox.Proofs.Client.Building
import AgentSandbox.Proofs.Client.Submission
import AgentSandbox.Proofs.Cloud.Signing
import AgentSandbox.Proofs.Exchange.Timing

/-!
# Patience with executions

The limit that is configured for requests is one for management requests.  An execution that needs no
other request is the same with every such limit, however long the service pauses; one that needs a
token is the same with every limit under which the token is acquired in the same way
(`Session.patient_execution`).
-/

namespace AgentSandbox

open Execution

/-! ## The token -/

namespace CloudBackend

/-- There is no token if the request for it was given up. -/
theorem exists_error_of_isLate {f : Finish} (h : f.IsLate) :
    ∃ e, f.ending acquired = .finished (.error e) := by
  rcases f with o | _ | _ | _
  case outcome =>
    rcases hacquired : acquired o with e | token
    · exact ⟨e, congrArg Ending.finished hacquired⟩
    · obtain ⟨received, rfl, -⟩ := acquired_eq_ok hacquired
      cases h
  all_goals cases h

theorem acquireToken_withLimit {b : CloudBackend} {limit : Option Nat} {id : String} {c : Caller}
    {w : World}
    (h : (((b.withLimit limit).acquireToken id).run c w).1 = ((b.acquireToken id).run c w).1) :
    ((b.withLimit limit).acquireToken id).run c w = (b.acquireToken id).run c w ∨
      ∃ e, ((b.acquireToken id).run c w).1 = .finished (.error e) := by
  have hquery : (b.withLimit limit).tokenQuery id = (b.tokenQuery id).withLimit limit := rfl
  rw [acquireToken_eq, acquireToken_eq, hquery, Action.run_send_done, Action.run_send_done] at h ⊢
  by_cases hlate : (w.exchange c (b.tokenQuery id)).1.IsLate
  · exact .inr (exists_error_of_isLate hlate)
  by_cases hlate' : (w.exchange c ((b.tokenQuery id).withLimit limit)).1.IsLate
  · obtain ⟨e, he⟩ := exists_error_of_isLate hlate'
    exact .inr ⟨e, h.symm.trans he⟩
  · rw [World.exchange_eq_of_not_late hlate hlate']
    exact .inl rfl

end CloudBackend

namespace Backend

variable {id : String} {limit : Option Nat} {c : Caller} {w : World}

theorem executionBase_withLimit (limit : Option Nat) (b : Backend) (id : String) :
    (b.withLimit limit).executionBase id = b.executionBase id := by
  cases b <;> rfl

theorem run_accessToken_cloud (b : CloudBackend) (id : String) (c : Caller) (w : World) :
    ((Backend.cloud b).accessToken id).run c w =
      (((b.acquireToken id).run c w).1.map some, ((b.acquireToken id).run c w).2) :=
  Action.run_map some _ w

/-- If the same comes of finding a token under two limits, then it leaves the same, or it had to be
acquired and there is an error. -/
theorem accessToken_withLimit {b : Backend}
    (h : (((b.withLimit limit).accessToken id).run c w).1 = ((b.accessToken id).run c w).1) :
    ((b.withLimit limit).accessToken id).run c w = (b.accessToken id).run c w ∨
      b.kind = .cloud ∧ ∃ e, ((b.accessToken id).run c w).1 = .finished (.error e) := by
  cases b with
  | e2b b => exact .inl rfl
  | cloud b =>
    have hcloud : (Backend.cloud b).withLimit limit = .cloud (b.withLimit limit) := rfl
    rw [hcloud, run_accessToken_cloud, run_accessToken_cloud] at h ⊢
    have hsome : Function.Injective (Ending.map (some : String → Option String)) := by
      rintro ((_ | _) | _ | _ | _) ((_ | _) | _ | _ | _) heq <;> cases heq <;> rfl
    rcases CloudBackend.acquireToken_withLimit (hsome h) with hsame | ⟨e, he⟩
    · rw [hsame]
      exact .inl rfl
    · rw [he]
      exact .inr ⟨rfl, e, rfl⟩

/-- Finding a token does nothing, or a request arrives that names an action and time passes. -/
theorem accessToken_leaves (b : Backend) (id : String) (c : Caller) (w : World) :
    ((b.accessToken id).run c w).2 = w ∨ ∃ request reply, request.NamesAction ∧
      (w.arrive request reply).IsLater ((b.accessToken id).run c w).2 := by
  cases b with
  | e2b b => exact .inl rfl
  | cloud b =>
    rw [run_accessToken_cloud, CloudBackend.acquireToken_eq, Action.run_send_done]
    rcases World.exchange_body c (q := b.tokenQuery id) (fun _ => rfl) w with ⟨h, -⟩ | ⟨replies, -, h⟩
    · exact .inl h
    · exact .inr ⟨b.tokenRequest id, World.nextReply replies, rfl, h⟩

/-- Under two limits that leave some time, it leaves the same but for the time. -/
theorem accessToken_leaves_same {b : Backend} (hb : b.limit ≠ some 0) (hlimit : limit ≠ some 0)
    (id : String) (c : Caller) (w : World) :
    ∃ w₀ : World, w₀.IsLater ((b.accessToken id).run c w).2 ∧
      w₀.IsLater (((b.withLimit limit).accessToken id).run c w).2 := by
  cases b with
  | e2b b => exact ⟨w, w.isLater_self, w.isLater_self⟩
  | cloud b =>
    have hcloud : (Backend.cloud b).withLimit limit = .cloud (b.withLimit limit) := rfl
    have hquery : (b.withLimit limit).tokenQuery id = (b.tokenQuery id).withLimit limit := rfl
    rw [hcloud, run_accessToken_cloud, run_accessToken_cloud, CloudBackend.acquireToken_eq,
      CloudBackend.acquireToken_eq, hquery, Action.run_send_done, Action.run_send_done]
    rcases World.exchange_body_limits c (q := b.tokenQuery id) (fun _ => rfl) hb hlimit w with
      ⟨h, h'⟩ | h
    · exact ⟨w, by rw [h]; exact w.isLater_self, by rw [h']; exact w.isLater_self⟩
    · exact h

/-- What an execution is under two limits under which the same comes of finding a token: the same, or
the token had to be acquired, and the execution ends in the same way and leaves what that left. -/
theorem execute_withLimit {b : Backend}
    (h : (((b.withLimit limit).accessToken id).run c w).1 = ((b.accessToken id).run c w).1)
    (code language : String) (l : Listeners) :
    let r := (b.execute id code language l).run c w
    let r' := ((b.withLimit limit).execute id code language l).run c w
    r' = r ∨ b.kind = .cloud ∧ r'.1 = r.1 ∧ r.2 = ((b.accessToken id).run c w).2 ∧
      r'.2 = (((b.withLimit limit).accessToken id).run c w).2 := by
  intro r r'
  have hr : r = _ := (congrArg (·.run c w) (b.execute_eq id code language l)).trans
    (Action.run_bind _ _ w)
  have hr' : r' = _ :=
    (congrArg (·.run c w) ((b.withLimit limit).execute_eq id code language l)).trans
      (Action.run_bind _ _ w)
  rw [hr, hr', executionBase_withLimit]
  rcases accessToken_withLimit h with hsame | ⟨hkind, e, he⟩
  · rw [hsame]
    exact .inl rfl
  · refine .inr ⟨hkind, ?_⟩
    generalize (b.accessToken id).run c w = t at h he ⊢
    generalize ((b.withLimit limit).accessToken id).run c w = t' at h ⊢
    obtain ⟨ending, w₁⟩ := t
    obtain ⟨ending', w₂⟩ := t'
    obtain rfl : ending' = ending := h
    obtain rfl : ending' = _ := he
    exact ⟨rfl, rfl, rfl⟩

end Backend

/-! ## Pauses -/

theorem Action.run_bind_untimed {α β : Type} {c : Caller} {a : Action α} {f : α → Action β}
    {w w' : World} (ha : World.SameButTime (a.run c w) (a.run c w'))
    (hf : ∀ x (w w' : World), w.untimed = w'.untimed →
      World.SameButTime ((f x).run c w) ((f x).run c w')) :
    World.SameButTime ((a.bind f).run c w) ((a.bind f).run c w') := by
  rw [Action.run_bind, Action.run_bind]
  generalize a.run c w = r at ha ⊢
  generalize a.run c w' = r' at ha ⊢
  obtain ⟨ending, w₁⟩ := r
  obtain ⟨ending', w₁'⟩ := r'
  obtain ⟨hending, hworlds⟩ := ha
  obtain rfl : ending = ending' := hending
  rcases ending with (_ | x) | _ | _ | _
  case finished.ok => exact hf x w₁ w₁' hworlds
  all_goals exact ⟨rfl, hworlds⟩

theorem Execution.execute_untimed {c : Caller} (hd : c.deadline = none) (base : String)
    (token : Option String) (code language : String) (l : Listeners) {w w' : World}
    (h : w.untimed = w'.untimed) :
    World.SameButTime ((execute base token code language l).run c w)
      ((execute base token code language l).run c w') := by
  unfold execute
  split
  · exact ⟨rfl, h⟩
  · rw [Action.run_send_done, Action.run_send_done]
    have hsame (q : Query) (hlimit : q.limit = none) := World.exchange_untimed hd hlimit h
    exact ⟨congrArg (Finish.ending outputOf) (hsame _ rfl).1, (hsame _ rfl).2⟩

namespace Backend

/-- The replies are the same but for the pauses in those to the execution service. -/
def SameReplies (replies replies' : List Reply) : Backend → Prop
  | .e2b _ => replies.map Reply.untimed = replies'.map Reply.untimed
  | .cloud _ => replies.head? = replies'.head? ∧
      replies.tail.map Reply.untimed = replies'.tail.map Reply.untimed

variable {replies replies' : List Reply} {c : Caller}

theorem accessToken_untimed {b : Backend} (h : b.SameReplies replies replies') (id : String)
    (c : Caller) (w : World) :
    World.SameButTime ((b.accessToken id).run c (w.withReplies replies))
      ((b.accessToken id).run c (w.withReplies replies')) := by
  cases b with
  | e2b b => exact ⟨rfl, World.withReplies_untimed h w⟩
  | cloud b =>
    rw [run_accessToken_cloud, run_accessToken_cloud, CloudBackend.acquireToken_eq,
      Action.run_send_done, Action.run_send_done]
    obtain ⟨hhead, htail⟩ := h
    rcases replies with _ | ⟨reply, rest⟩ <;> rcases replies' with _ | ⟨reply', rest'⟩
    · exact ⟨rfl, rfl⟩
    · cases hhead
    · cases hhead
    · obtain rfl : reply = reply' := Option.some.inj hhead
      obtain ⟨hfinish, hworlds⟩ := World.exchange_first c (b.tokenQuery id) w reply htail
      exact ⟨congrArg (fun f => (Finish.ending CloudBackend.acquired f).map some) hfinish, hworlds⟩

/-- Without a deadline, an execution does not depend on how long the execution service takes. -/
theorem execute_untimed (hd : c.deadline = none) {b : Backend} (h : b.SameReplies replies replies')
    (id code language : String) (l : Listeners) (w : World) :
    World.SameButTime ((b.execute id code language l).run c (w.withReplies replies))
      ((b.execute id code language l).run c (w.withReplies replies')) := by
  rw [execute_eq]
  exact Action.run_bind_untimed (accessToken_untimed h id c w) fun token w w' h =>
    Execution.execute_untimed hd _ token code language l h

end Backend

/-! ## Steps -/

namespace Session

/-- What comes of finding a token for an instance in a step. -/
def Step.acquisition (c : Client) (connected : Bool) (s : Step) (st : State) (id : String) :
    Ending (Option String) :=
  ((c.backend.accessToken id).run (s.caller c) (s.world connected st)).1

/-- The requests of a report that name no action, so that the execution service gets them. -/
def Report.submissions (r : Report) : List Request :=
  r.sent.filter fun request => (request.header? "x-tc-action").isNone

/-- Two reports are the same but for requests that name an action. -/
structure Report.SameExecution (r r' : Report) : Prop where
  result : r'.result = r.result
  submissions : r'.submissions = r.submissions
  notices : r'.notices = r.notices
  tokens : r'.tokens = r.tokens

theorem Report.SameExecution.refl (r : Report) : r.SameExecution r := ⟨rfl, rfl, rfl, rfl⟩

theorem reportOf_untimed (operation : String) (caller : Caller) {r r' : Ending Answer × World}
    (h : World.SameButTime r r') : reportOf operation caller r = reportOf operation caller r' := by
  have hreport (r : Ending Answer × World) :
      reportOf operation caller r = reportOf operation caller (r.1, r.2.untimed) := rfl
  rw [hreport r, hreport r', h.1, h.2]

/-- Nothing but a request that names an action has arrived, and no notice was given. -/
theorem submissions_of_leaves {w w₁ : World} (hw : w.sent = [])
    (h : w₁ = w ∨ ∃ request reply, request.NamesAction ∧ (w.arrive request reply).IsLater w₁) :
    (w₁.sent.filter fun request => (request.header? "x-tc-action").isNone) = [] ∧
      w₁.notices = w.notices ∧ w₁.tokens = w.tokens := by
  rcases h with rfl | ⟨request, reply, hnames, n, rfl⟩
  · exact ⟨by rw [hw]; rfl, rfl, rfl⟩
  · refine ⟨List.filter_eq_nil_iff.2 fun r hr => ?_, rfl, rfl⟩
    have hsent : (w.arrive request reply).sent = [request] := congrArg (· ++ [request]) hw
    obtain rfl := List.mem_singleton.1 (hsent ▸ hr)
    rw [← Option.not_isSome, hnames]
    exact Bool.false_ne_true

variable {c : Client} {s : Step} {st : State} {call : Call} {id code language : String}

/-- A step that runs code under another limit, under which the same comes of finding a token. -/
theorem step_withLimit {b : Backend} (hcall : s.command.call? = some call)
    (hruns : call.Runs id code language) {limit callLimit : Option Nat} {connected : Bool}
    (h : s.acquisition ⟨b.withLimit limit, callLimit⟩ connected st id =
      s.acquisition ⟨b, callLimit⟩ connected st id) :
    let t := step ⟨b, callLimit⟩ connected s st
    let t' := step ⟨b.withLimit limit, callLimit⟩ connected s st
    t.1.SameExecution t'.1 ∧ (b.kind = .e2b ∨ b.limit ≠ some 0 ∧ limit ≠ some 0 → t' = t) := by
  intro t t'
  obtain ⟨l, haction⟩ := hruns.action
  simp only [t, t', step_eq_reportOf hcall]
  have hcaller : s.caller ⟨b.withLimit limit, callLimit⟩ = s.caller ⟨b, callLimit⟩ := rfl
  rw [hcaller]
  unfold Step.acquisition at h
  rw [hcaller] at h
  generalize s.caller ⟨b, callLimit⟩ = caller at h ⊢
  split
  · exact ⟨.refl _, fun _ => rfl⟩
  rw [haction, haction, Action.run_map, Action.run_map]
  have hsent : (s.world connected st).sent = [] := rfl
  generalize s.world connected st = w at h hsent ⊢
  rcases Backend.execute_withLimit h code language l with hsame | ⟨hkind, hending, hleft, hleft'⟩
  · rw [hsame]
    exact ⟨.refl _, fun _ => rfl⟩
  rw [hending, hleft, hleft']
  have hleaves := submissions_of_leaves hsent (b.accessToken_leaves id caller w)
  have hleaves' := submissions_of_leaves hsent ((b.withLimit limit).accessToken_leaves id caller w)
  refine ⟨⟨rfl, hleaves'.1.trans hleaves.1.symm, hleaves'.2.1.trans hleaves.2.1.symm,
    hleaves'.2.2.trans hleaves.2.2.symm⟩, fun h => ?_⟩
  obtain ⟨hb, hlimit⟩ := h.resolve_left fun he2b => by cases hkind.symm.trans he2b
  obtain ⟨w₀, ⟨n, hn⟩, n', hn'⟩ := Backend.accessToken_leaves_same hb hlimit id caller w
  rw [hn, hn']
  rfl

/-- A step that runs code with other pauses in the replies of the execution service. -/
theorem step_untimed (hcall : s.command.call? = some call) (hruns : call.Runs id code language)
    (hd : (s.caller c).deadline = none) (connected : Bool) {replies : List Reply}
    (h : c.backend.SameReplies s.replies replies) :
    step c connected (s.withReplies replies) st = step c connected s st := by
  obtain ⟨l, haction⟩ := hruns.action
  have hcall' : (s.withReplies replies).command.call? = some call := hcall
  have hcaller : (s.withReplies replies).caller c = s.caller c := rfl
  rw [step_eq_reportOf hcall', step_eq_reportOf hcall, hcaller]
  split
  · rfl
  rw [haction, Action.run_map, Action.run_map]
  cases connected with
  | false => rfl
  | true =>
    have hsame := Backend.execute_untimed hd h id code language l (s.world true st)
    exact reportOf_untimed _ _ ⟨congrArg (Ending.map Answer.output) hsame.1.symm, hsame.2.symm⟩

/-- A step that runs code is the same whatever limit is configured for requests, and whether or not
the backend of the client was given that limit, where tokens are remembered; if one has to be
acquired, it is the same for every limit that leaves some time and has the same come of that, and a
limit that leaves none makes a difference to the request for the token only.  Unless the call itself
has a deadline, the execution service may pause as long as it likes. -/
theorem patient_execution {a a' : Client.Assembly} (ha : a ≠ .configured) (ha' : a' ≠ .configured)
    {config : Config} {now : Instant} (hc : Client.build a config now = .ok c) (seconds : Nat)
    (hcall : s.command.call? = some call) (hruns : call.Runs id code language) (connected : Bool)
    (st : State) :
    ∃ c', Client.build a' (config.withTimeout seconds) now = .ok c' ∧
      (c.backend.kind = .e2b → step c' connected s st = step c connected s st) ∧
      (s.acquisition c' connected st id = s.acquisition c connected st id →
        (step c connected s st).1.SameExecution (step c' connected s st).1 ∧
        (config.http.timeoutSeconds ≠ 0 → seconds ≠ 0 →
          step c' connected s st = step c connected s st)) ∧
      ((s.caller c).deadline = none → ∀ replies, c.backend.SameReplies s.replies replies →
        step c connected (s.withReplies replies) st = step c connected s st) := by
  obtain ⟨hlimit, hbuild⟩ := Client.build_withTimeout ha ha' hc seconds
  obtain ⟨b, callLimit⟩ := c
  refine ⟨_, hbuild, fun hkind => ?_, fun h => ?_, fun hd replies =>
    step_untimed hcall hruns hd connected⟩
  · -- the token is looked up, which no limit has to do with
    have hfound : s.acquisition ⟨b.withLimit (a'.limit seconds), callLimit⟩ connected st id =
        s.acquisition ⟨b, callLimit⟩ connected st id := by
      cases b with
      | e2b b => rfl
      | cloud b => cases hkind
    exact (step_withLimit hcall hruns hfound).2 (.inl hkind)
  · obtain ⟨hsame, heq⟩ := step_withLimit hcall hruns h
    refine ⟨hsame, fun hzero hzero' => heq (.inr ⟨?_, a'.limit_ne_zero hzero'⟩)⟩
    exact hlimit ▸ a.limit_ne_zero hzero

/-- A stream that pauses for hours is heard to its end with a limit of one second for requests, just as
with a limit that leaves no time and without any pauses. -/
theorem patient_execution_for_hours :
    let hour := 3600000
    let line (text : String) : List UInt8 :=
      Utf8.encode ("\x7b\"type\":\"stdout\",\"text\":\"" ++ text ++ "\"\x7d\n")
    let reply (pause : Nat) : Reply :=
      ⟨false, pause, .answer 200 [⟨pause, line "a"⟩, ⟨pause, line "b"⟩] .complete⟩
    let s : Step := ⟨.call (.executeStream "i" "1" "" ⟨true, true⟩), [reply hour], none, none, none⟩
    let config : Config := { Config.default with
      http := ⟨1, none⟩
      e2b := { E2bConfig.default with executeUrl := some "http://h" } }
    let c : Client := ⟨.e2b ⟨config.e2b, some (Client.milliseconds 1), ⟨0, 0⟩⟩, none⟩
    (step c true s ⟨.empty, false⟩).1.notices = [⟨.stdout, "a"⟩, ⟨.stdout, "b"⟩] ∧
      (∃ c', Client.build .limited (config.withTimeout 0) ⟨0, 0⟩ = .ok c' ∧
        step c' true s ⟨.empty, false⟩ = step c true s ⟨.empty, false⟩) ∧
      step c true (s.withReplies [reply 0]) ⟨.empty, false⟩ = step c true s ⟨.empty, false⟩ := by
  intro hour line reply s config c
  have hkind : config.backendKind = .e2b := by decide +kernel
  have hc : Client.build .limited config ⟨0, 0⟩ = .ok c :=
    Client.build_eq_ok_iff.2 ⟨nofun, Client.backendOf_e2b hkind _ _, rfl⟩
  have hlimited : Client.Assembly.limited ≠ .configured := nofun
  obtain ⟨c', hc', hlimit, -, hpauses⟩ :=
    patient_execution hlimited hlimited hc 0 (s := s) rfl (.inr ⟨_, rfl⟩) true ⟨.empty, false⟩
  have hnotices : (step c true s ⟨.empty, false⟩).1.notices = [⟨.stdout, "a"⟩, ⟨.stdout, "b"⟩] := by
    decide +kernel
  exact ⟨hnotices, ⟨c', hc', hlimit rfl⟩, hpauses rfl [reply 0] rfl⟩

end Session

end AgentSandbox

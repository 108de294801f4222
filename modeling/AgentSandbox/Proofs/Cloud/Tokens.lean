import AgentSandbox.Proofs.Cloud.Actions
import AgentSandbox.Proofs.Text.Blank

/-!
# Tokens of the control plane

A token is asked for by one request (`acquireToken_eq`) and comes from the reply to it:
`Reply.grantedToken?` is what a reply grants, and `acquireToken_cases` says that there is no token
but that one, and why there may be none.
-/

namespace AgentSandbox

open Cloud Json

/-- The token in the response to a request for one, if it has no error. -/
def Cloud.tokenOfResponse? (response : Value) : Option String :=
  if (response.member? "Error").isSome then none
  else (tokenOfDocument? (Document.ofValue response)).join

/-- The token that a reply grants: its status is 200, its body came whole and holds a response
without an error and with a token that is not empty. -/
def Reply.grantedToken? (r : Reply) : Option String :=
  match r.response with
  | .answer 200 chunks .complete =>
    ((documentOf? (chunks.flatMap (·.bytes))).bind responseOfDocument?).bind tokenOfResponse?
  | _ => none

theorem Cloud.ne_empty_of_tokenOfResponse? {response : Value} {token : String}
    (h : tokenOfResponse? response = some token) : token ≠ "" := by
  unfold tokenOfResponse? at h
  split at h
  · cases h
  have hd := Option.join_eq_some_iff.1 h
  simp only [tokenOfDocument?, Option.bind_eq_bind, Option.bind_eq_some_iff,
    Option.some.injEq] at hd
  obtain ⟨fs, -, token', -, htoken⟩ := hd
  intro hempty
  exact Text.nonEmpty_ne token' (by rw [htoken, hempty])

theorem Reply.ne_empty_of_grantedToken? {r : Reply} {token : String}
    (h : r.grantedToken? = some token) : token ≠ "" := by
  unfold grantedToken? at h
  split at h
  · obtain ⟨response, -, hresponse⟩ := Option.bind_eq_some_iff.1 h
    exact ne_empty_of_tokenOfResponse? hresponse
  · cases h

/-- A record comes from a response without an error, or stands for one that is `null`. -/
theorem Cloud.openResponse_eq_ok {α : Type} {action : String} {decode : Document → Option α}
    {response : Value} {a : α} (h : openResponse action decode response = .ok a) :
    response.member? "Error" = none ∧
      (decode (Document.ofValue (.object [])) = some a ∨
        decode (Document.ofValue response) = some a) := by
  unfold openResponse at h
  split at h
  · cases h
  · next herror =>
    refine ⟨herror, ?_⟩
    split at h
    · dsimp only at h
      split at h
      · next ha =>
        cases h
        exact .inl ha
      · cases h
    · dsimp only at h
      split at h
      · next ha =>
        cases h
        exact .inr ha
      · cases h

theorem Cloud.tokenOfResponse?_of_open {action : String} {response : Value} {token : String}
    (h : openResponse action tokenOfDocument? response = .ok (some token)) :
    tokenOfResponse? response = some token := by
  obtain ⟨herror, hempty | hresponse⟩ := openResponse_eq_ok h
  · have hnone : tokenOfDocument? (Document.ofValue (.object [])) = some none := rfl
    cases hnone.symm.trans hempty
  · rw [tokenOfResponse?, herror, hresponse]
    rfl

namespace CloudBackend

/-- The request for a token of an instance. -/
def tokenRequest (b : CloudBackend) (id : String) : Request :=
  b.request "AcquireSandboxInstanceToken" (instanceBody id).toText

/-- The request for a token, whose reply is read. -/
def tokenQuery (b : CloudBackend) (id : String) : Query :=
  ⟨b.tokenRequest id, b.limit, fun _ => .body []⟩

/-- The token that the outcome of a request for one stands for. -/
def acquired (o : Outcome) : Except Error String :=
  match recordOf "AcquireSandboxInstanceToken" tokenOfDocument? o with
  | .ok (some token) => .ok token
  | .ok none =>
    .error (.inContext tokenContext (.incomplete "AcquireSandboxInstanceToken" "Token"))
  | .error e => .error (.inContext tokenContext e)

theorem acquireToken_eq (b : CloudBackend) (id : String) :
    b.acquireToken id = .send (b.tokenQuery id) fun o => .done (acquired o) := by
  refine congrArg (Action.send (b.tokenQuery id)) (funext fun o => ?_)
  dsimp only
  unfold acquired
  rcases recordOf "AcquireSandboxInstanceToken" tokenOfDocument? o with e | _ | token
  · rfl
  · rfl
  · rfl

theorem acquired_eq_error {o : Outcome} {e : Error} (h : acquired o = .error e) :
    ∃ cause, e = .inContext tokenContext cause := by
  unfold acquired at h
  split at h
  · cases h
  · cases h
    exact ⟨_, rfl⟩
  · cases h
    exact ⟨_, rfl⟩

/-- There is a token only if a whole reply of status 200 holds it. -/
theorem acquired_eq_ok {o : Outcome} {token : String} (h : acquired o = .ok token) :
    ∃ received, o = .reply 200 received none ∧
      ((documentOf? received.bytes).bind responseOfDocument?).bind tokenOfResponse? =
        some token := by
  have hrecord : recordOf "AcquireSandboxInstanceToken" tokenOfDocument? o = .ok (some token) := by
    unfold acquired at h
    split at h
    · next t ht =>
      cases h
      exact ht
    · cases h
    · cases h
  rcases recordOf_cases "AcquireSandboxInstanceToken" tokenOfDocument? o with
    ⟨e, -, hr⟩ | ⟨content, response, haccepted, hdecoded, hr⟩
  · cases hr.symm.trans hrecord
  obtain ⟨status, rfl, hstatus⟩ := Outcome.accepted_eq_ok haccepted
  obtain ⟨hcut, hresponse⟩ := Content.decode_eq_ok hdecoded
  obtain rfl : status = 200 := by simpa using hstatus
  refine ⟨content.received, by rw [hcut], ?_⟩
  rw [hresponse]
  exact tokenOfResponse?_of_open (hr.symm.trans hrecord)

/-- Why there is no token for a call that began in some world: the request for it failed, or the
caller ended the call, or the service says nothing and nobody set a limit. -/
inductive IsRefusal (b : CloudBackend) (c : Caller) (w : World) {α : Type} : Ending α → Prop where
  | failed (cause : Error) : IsRefusal b c w (.finished (.error (.inContext tokenContext cause)))
  | cancelled (heeds : c.heeds = true)
      (h : w.cancelled = true ∨
        ∃ replies, w.link = .up replies ∧ (World.nextReply replies).1.cancels = true) :
      IsRefusal b c w .cancelled
  | expired (h : c.deadline.isSome = true) : IsRefusal b c w .expired
  | unending (hlimit : b.limit = none) (hdeadline : c.deadline = none)
      (h : ∃ replies, w.link = .up replies ∧ (World.nextReply replies).1.response.Stalls) :
      IsRefusal b c w .unending

/-- What follows the request for a token is left out if there is none. -/
theorem IsRefusal.run_bind {b : CloudBackend} {c : Caller} {w₀ w : World} {α β : Type}
    {a : Action α} (h : b.IsRefusal c w₀ (a.run c w).1) (f : α → Action β) :
    b.IsRefusal c w₀ ((a.bind f).run c w).1 ∧ ((a.bind f).run c w).2 = (a.run c w).2 := by
  rw [Action.run_bind]
  rcases hrun : a.run c w with ⟨ending, w'⟩
  rw [hrun] at h
  cases h with
  | failed cause => exact ⟨.failed cause, rfl⟩
  | cancelled heeds h => exact ⟨.cancelled heeds h, rfl⟩
  | expired h => exact ⟨.expired h, rfl⟩
  | unending hlimit hdeadline h => exact ⟨.unending hlimit hdeadline h, rfl⟩

theorem grantedToken?_of_exchange {b : CloudBackend} {id token : String} {c : Caller} {w w' : World}
    {received : Received} {replies : List Reply} (hlink : w.link = .up replies)
    (h : w.exchange c (b.tokenQuery id) = (.outcome (.reply 200 received none), w'))
    (htoken : ((documentOf? received.bytes).bind responseOfDocument?).bind tokenOfResponse? =
      some token) :
    (World.nextReply replies).1.grantedToken? = some token := by
  obtain ⟨replies', chunks, ending, hlink', hresponse, hend, rfl⟩ := World.exchange_whole h
  obtain rfl := Link.up.inj (hlink.symm.trans hlink')
  simp only [tokenQuery, reduceCtorEq, false_or] at hend
  simp only [tokenQuery, Received.whole_body, List.nil_append] at htoken
  rw [Reply.grantedToken?, hresponse, hend]
  exact htoken

/-- The one request for a token is sent and the reply grants the token, or there is none. -/
theorem acquireToken_cases (b : CloudBackend) (id : String) (c : Caller) (w : World) :
    (∃ token replies w', (b.acquireToken id).run c w = (.finished (.ok token), w') ∧
      w.link = .up replies ∧ (World.nextReply replies).1.grantedToken? = some token ∧
      w'.sent = w.sent ++ [b.tokenRequest id]) ∨
    IsRefusal b c w ((b.acquireToken id).run c w).1 ∧
      (((b.acquireToken id).run c w).2.sent = w.sent ∨
        ((b.acquireToken id).run c w).2.sent = w.sent ++ [b.tokenRequest id]) := by
  have hbody (status : Nat) : (b.tokenQuery id).reception status = .body [] := rfl
  have hexchange := World.exchange_body c hbody w
  have hfounded := World.exchange_isFounded c (b.tokenQuery id) w
  rw [acquireToken_eq, Action.run_send_done]
  rcases he : w.exchange c (b.tokenQuery id) with ⟨finish, w'⟩
  rw [he] at hexchange hfounded
  dsimp only at hexchange
  have hsent : w'.sent = w.sent ∨ w'.sent = w.sent ++ [b.tokenRequest id] := by
    rcases hexchange with ⟨hw, -⟩ | ⟨replies, -, n, hw⟩
    · exact .inl (by rw [hw])
    · exact .inr (by rw [hw]; rfl)
  cases finish with
  | outcome o =>
    rcases hacquired : acquired o with e | token
    · obtain ⟨cause, rfl⟩ := acquired_eq_error hacquired
      simp only [Finish.ending, hacquired]
      exact .inr ⟨.failed cause, hsent⟩
    · obtain ⟨received, rfl, htoken⟩ := acquired_eq_ok hacquired
      rcases hexchange with ⟨-, hnone⟩ | ⟨replies, hlink, n, hw⟩
      · exact absurd rfl (hnone 200 received none)
      · have hgranted := grantedToken?_of_exchange hlink he htoken
        simp only [Finish.ending, hacquired]
        exact .inl ⟨token, replies, w', rfl, hlink, hgranted, by rw [hw]; rfl⟩
  | cancelled =>
    obtain ⟨heeds, hcancelled⟩ := hfounded
    refine .inr ⟨.cancelled heeds ?_, hsent⟩
    rcases hexchange with ⟨hw, -⟩ | ⟨replies, hlink, n, hw⟩
    · exact .inl (hw ▸ hcancelled)
    · rw [hw] at hcancelled
      exact (Bool.or_eq_true_iff.1 hcancelled).imp_right fun h => ⟨replies, hlink, h⟩
  | expired => exact .inr ⟨.expired hfounded, hsent⟩
  | unending =>
    obtain ⟨hstalls, hlimit, hd⟩ := hfounded
    exact .inr ⟨.unending hlimit hd hstalls, hsent⟩

end CloudBackend

end AgentSandbox

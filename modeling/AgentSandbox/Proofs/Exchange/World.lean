import AgentSandbox.Exchange.Body
import AgentSandbox.Exchange.World

/-!
# What happens during an exchange

`World.wait_cases`, `World.waitInVain_cases` and `World.exchange_cases` say what can happen at each
point.  An exchange changes a world by three moves only: time passes, a notice is given, and a
request arrives.  `World.IsKept` says of a property that these moves keep it, and whatever they keep
is kept by every exchange (`World.IsKept.exchange`); at most the one request arrives
(`World.exchange_sent`).  `World.exchange_whole` is about replies: one that was not cut short is the
one that the service had ready.  There is a reason if an exchange has no outcome
(`World.exchange_isFounded`).  One whose reply is no execution gives no notices, so that nothing
happens but the arrival of the request and the passing of time (`World.exchange_body`).
-/

namespace AgentSandbox

namespace Received

/-- After all chunks of a body and its proper end. -/
def whole (r : Received) (chunks : List Chunk) : Received :=
  (chunks.foldl (fun r chunk => r.feed chunk.bytes) r).finish

theorem whole_nothing (chunks : List Chunk) : whole .nothing chunks = .nothing := by
  induction chunks with
  | nil => rfl
  | cons chunk chunks ih => exact ih

theorem whole_body (bytes : List UInt8) (chunks : List Chunk) :
    whole (.body bytes) chunks = .body (bytes ++ chunks.flatMap (·.bytes)) := by
  induction chunks generalizing bytes with
  | nil => exact congrArg Received.body (List.append_nil bytes).symm
  | cons chunk chunks ih =>
    rw [List.flatMap_cons, ← List.append_assoc]
    exact ih _

end Received

/-- The service leaves the connection open and says nothing more. -/
def Response.Stalls (r : Response) : Prop :=
  r = .silence ∨ ∃ status chunks, r = .answer status chunks .silence

/-- It is not the end of an exchange that had a reply. -/
def Finish.LacksReply (f : Finish) : Prop :=
  ∀ status received cut, f ≠ .outcome (.reply status received cut)

namespace World

/-- The world after a request has arrived at a service with a reply and others behind it. -/
def arrive (request : Request) (r : Reply × List Reply) (w : World) : World :=
  { w with
    link := .up r.2
    sent := w.sent ++ [request]
    cancelled := w.cancelled || r.1.cancels }

/-- There is a reason for an end without an outcome: the caller cancelled or has a deadline, or what
`endless` says is why nothing ever ends. -/
def IsFounded (c : Caller) (endless : Prop) (r : Finish × World) : Prop :=
  match r.1 with
  | .outcome _ => True
  | .cancelled => c.heeds = true ∧ r.2.cancelled = true
  | .expired => c.deadline.isSome = true
  | .unending => endless

theorem IsFounded.mono {c : Caller} {endless endless' : Prop} {r : Finish × World}
    (h : IsFounded c endless r) (he : endless → endless') : IsFounded c endless' r := by
  rcases r with ⟨_ | _ | _ | _, w⟩
  case unending => exact he h
  all_goals exact h

/-! ## Points of an exchange -/

section

variable (c : Caller) (limit : Option Nat) (late : Outcome) (w : World)

theorem wait_cases (next : World → Finish × World) :
    w.wait c limit late next = (.cancelled, w) ∧ c.heeds = true ∧ w.cancelled = true ∨
      w.wait c limit late next = (.outcome late, w) ∨
      w.wait c limit late next = (.expired, w) ∧ c.deadline.isSome = true ∨
      w.wait c limit late next = next w := by
  unfold wait
  split
  · next h => exact .inl ⟨rfl, Bool.and_eq_true_iff.1 h⟩
  split
  · exact .inr (.inl rfl)
  split
  · next h =>
    have hd : c.deadline.isSome = true := by
      cases hnone : c.deadline with
      | none =>
        rw [hnone] at h
        cases h
      | some d => rfl
    exact .inr (.inr (.inl ⟨rfl, hd⟩))
  · exact .inr (.inr (.inr rfl))

theorem waitInVain_cases :
    ∃ n, w.elapsed ≤ n ∧
      (w.waitInVain c limit late = (.outcome late, { w with elapsed := n }) ∨
        w.waitInVain c limit late = (.expired, { w with elapsed := n }) ∧
          c.deadline.isSome = true ∨
        w.waitInVain c limit late = (.unending, { w with elapsed := n }) ∧
          limit = none ∧ c.deadline = none) := by
  have hmax (n : Nat) : w.elapsed ≤ max w.elapsed n := Nat.le_max_left _ _
  unfold waitInVain
  rcases limit with _ | l <;> rcases hd : c.deadline with _ | d
  · exact ⟨_, Nat.le_refl _, .inr (.inr ⟨rfl, rfl, rfl⟩)⟩
  · exact ⟨_, hmax d, .inr (.inl ⟨rfl, rfl⟩)⟩
  · exact ⟨_, hmax l, .inl rfl⟩
  · by_cases hle : l ≤ d
    · exact ⟨_, hmax l, .inl (if_pos hle)⟩
    · exact ⟨_, hmax d, .inr (.inl ⟨if_neg hle, rfl⟩)⟩

theorem exchange_cases (q : Query) :
    (w.exchange c q).2 = w ∧ IsFounded c False (w.exchange c q) ∧
        (w.exchange c q).1.LacksReply ∨
      ∃ replies, w.link = .up replies ∧
        w.exchange c q =
          ((w.arrive q.request (nextReply replies)).pass (nextReply replies).1.pause).wait c
            (q.limit.map (w.elapsed + ·)) (.fault .timeout)
            fun w' =>
              w'.respond c q (q.limit.map (w.elapsed + ·)) (nextReply replies).1.response := by
  unfold exchange
  split
  case isFalse => exact .inl ⟨rfl, trivial, fun _ _ _ => nofun⟩
  rcases wait_cases c (q.limit.map (w.elapsed + ·)) (.fault .timeout) w _ with
    ⟨h, hc⟩ | h | ⟨h, hd⟩ | h
  · rw [h]
    exact .inl ⟨rfl, hc, fun _ _ _ => nofun⟩
  · rw [h]
    exact .inl ⟨rfl, trivial, fun _ _ _ => nofun⟩
  · rw [h]
    exact .inl ⟨rfl, hd, fun _ _ _ => nofun⟩
  · rw [h]
    cases hlink : w.link with
    | down => exact .inl ⟨rfl, trivial, fun _ _ _ => nofun⟩
    | up replies => exact .inr ⟨replies, rfl, rfl⟩

end

/-! ## What is kept -/

/-- The moves of an exchange keep the property. -/
structure IsKept (c : Caller) (P : World → Prop) : Prop where
  elapse : ∀ w n, P w → w.elapsed ≤ n → P { w with elapsed := n }
  notify : ∀ w n, P w → P (w.notify c n)
  arrive : ∀ w request replies, P w → w.link = .up replies →
    P (w.arrive request (nextReply replies))

/-- The moves of an exchange after the arrival of the request keep the property. -/
structure IsSteady (c : Caller) (P : World → Prop) : Prop where
  elapse : ∀ w n, P w → w.elapsed ≤ n → P { w with elapsed := n }
  notify : ∀ w n, P w → P (w.notify c n)

section

variable {P : World → Prop} {c : Caller} {limit : Option Nat} {late : Outcome} {w : World}

theorem IsKept.isSteady (hP : IsKept c P) : IsSteady c P := ⟨hP.elapse, hP.notify⟩

theorem wait_kept {next : World → Finish × World} (h : P w) (hn : P w → P (next w).2) :
    P (w.wait c limit late next).2 := by
  rcases wait_cases c limit late w next with ⟨he, -⟩ | he | ⟨he, -⟩ | he
  · rwa [he]
  · rwa [he]
  · rwa [he]
  · rw [he]
    exact hn h

namespace IsSteady

theorem pass (hP : IsSteady c P) (h : P w) (pause : Nat) : P (w.pass pause) :=
  hP.elapse w _ h (Nat.le_add_right _ _)

theorem foldl_notify (hP : IsSteady c P) (h : P w) (ns : List Execution.Notice) :
    P (ns.foldl (World.notify c) w) := by
  induction ns generalizing w with
  | nil => exact h
  | cons n ns ih => exact ih (hP.notify w n h)

theorem waitInVain (hP : IsSteady c P) (h : P w) : P (w.waitInVain c limit late).2 := by
  obtain ⟨n, hn, he | ⟨he, -⟩ | ⟨he, -⟩⟩ := waitInVain_cases c limit late w
  all_goals
    rw [he]
    exact hP.elapse w n h hn

theorem receive (hP : IsSteady c P) (h : P w) (status : Nat) (ending : BodyEnd) (chunks : List Chunk)
    (r : Received) : P (World.receive c limit status ending chunks r w).2 := by
  induction chunks generalizing r w with
  | nil =>
    unfold World.receive
    refine wait_kept h fun h => ?_
    cases ending with
    | complete => exact hP.foldl_notify h _
    | broken => exact h
    | silence => exact hP.waitInVain h
  | cons chunk chunks ih =>
    unfold World.receive
    exact wait_kept (hP.pass h _) fun h => ih (hP.foldl_notify h _) _

theorem respond (hP : IsSteady c P) (h : P w) (q : Query) (response : Response) :
    P (w.respond c q limit response).2 := by
  cases response with
  | closed => exact h
  | silence => exact hP.waitInVain h
  | answer status chunks ending =>
    simp only [World.respond]
    split
    · exact h
    · exact hP.receive h _ _ _ _

end IsSteady

/-- What the moves of an exchange keep is kept by the whole exchange. -/
theorem IsKept.exchange (hP : IsKept c P) (h : P w) (q : Query) : P (w.exchange c q).2 := by
  rcases exchange_cases c w q with ⟨hw, -⟩ | ⟨replies, hlink, he⟩
  · rwa [hw]
  · have harrive : P (w.arrive q.request (nextReply replies)) := hP.arrive w _ _ h hlink
    rw [he]
    exact wait_kept (hP.isSteady.pass harrive _) fun h => hP.isSteady.respond h _ _

end

theorem isSteady_sent (c : Caller) (sent : List Request) : IsSteady c fun w => w.sent = sent where
  elapse _ _ h _ := h
  notify _ _ h := h

/-- At most the one request arrives, and it has arrived if there is a reply. -/
theorem exchange_sent (c : Caller) (q : Query) (w : World) :
    (w.exchange c q).2.sent = w.sent ∧ (w.exchange c q).1.LacksReply ∨
      (w.exchange c q).2.sent = w.sent ++ [q.request] := by
  rcases exchange_cases c w q with ⟨hw, -, hnone⟩ | ⟨replies, -, he⟩
  · exact .inl ⟨by rw [hw], hnone⟩
  · have hP := isSteady_sent c (w.sent ++ [q.request])
    have hpass : (w.arrive q.request (nextReply replies)).sent = w.sent ++ [q.request] := rfl
    rw [he]
    exact .inr (wait_kept (P := fun w' => w'.sent = _) (hP.pass hpass _) fun h => hP.respond h _ _)

theorem isKept_tokens (c : Caller) (tokens : TokenCache) :
    IsKept c fun w => w.tokens = tokens where
  elapse _ _ h _ := h
  notify _ _ h := h
  arrive _ _ _ h _ := h

/-- No exchange changes the tokens. -/
theorem tokens_exchange (c : Caller) (q : Query) (w : World) :
    (w.exchange c q).2.tokens = w.tokens :=
  (isKept_tokens c w.tokens).exchange rfl q

/-! ## Whole replies -/

section

variable {c : Caller} {limit : Option Nat} {late o : Outcome} {w w' : World}

theorem wait_outcome {next : World → Finish × World}
    (h : w.wait c limit late next = (.outcome o, w')) : o = late ∨ next w = (.outcome o, w') := by
  rcases wait_cases c limit late w next with ⟨he, -⟩ | he | ⟨he, -⟩ | he
  · cases he.symm.trans h
  · cases he.symm.trans h
    exact .inl rfl
  · cases he.symm.trans h
  · exact .inr (he.symm.trans h)

theorem waitInVain_outcome (h : w.waitInVain c limit late = (.outcome o, w')) : o = late := by
  obtain ⟨n, -, he | ⟨he, -⟩ | ⟨he, -⟩⟩ := waitInVain_cases c limit late w
  · cases he.symm.trans h
    rfl
  · cases he.symm.trans h
  · cases he.symm.trans h

/-- A body that was not cut short came to its end and was received from its first chunk to its
last. -/
theorem receive_whole {status status' : Nat} {ending : BodyEnd} {chunks : List Chunk}
    {r received : Received}
    (h : receive c limit status ending chunks r w = (.outcome (.reply status' received none), w')) :
    status' = status ∧ ending = .complete ∧ received = r.whole chunks := by
  induction chunks generalizing r w with
  | nil =>
    unfold receive at h
    rcases wait_outcome h with h | h
    · cases h
    cases ending with
    | complete =>
      cases h
      exact ⟨rfl, rfl, rfl⟩
    | broken => cases h
    | silence => cases waitInVain_outcome h
  | cons chunk chunks ih =>
    unfold receive at h
    rcases wait_outcome h with h | h
    · cases h
    · exact ih h

theorem respond_whole {q : Query} {response : Response} {status : Nat} {received : Received}
    (h : w.respond c q limit response = (.outcome (.reply status received none), w')) :
    ∃ chunks ending, response = .answer status chunks ending ∧
      (q.reception status = .nothing ∨ ending = .complete) ∧
      received = (q.reception status).whole chunks := by
  cases response with
  | closed => cases h
  | silence => cases waitInVain_outcome h
  | answer status' chunks ending =>
    simp only [respond] at h
    split at h
    · next hq =>
      cases h
      exact ⟨chunks, ending, rfl, .inl hq, by rw [hq, Received.whole_nothing]⟩
    · obtain ⟨rfl, hend, hr⟩ := receive_whole h
      exact ⟨chunks, ending, rfl, .inr hend, hr⟩

/-- A reply that was not cut short is the one that the service had ready for the request. -/
theorem exchange_whole {q : Query} {status : Nat} {received : Received}
    (h : w.exchange c q = (.outcome (.reply status received none), w')) :
    ∃ replies chunks ending, w.link = .up replies ∧
      (nextReply replies).1.response = .answer status chunks ending ∧
      (q.reception status = .nothing ∨ ending = .complete) ∧
      received = (q.reception status).whole chunks := by
  rcases exchange_cases c w q with ⟨-, -, hnone⟩ | ⟨replies, hlink, he⟩
  · exact absurd (congrArg Prod.fst h) (hnone _ _ _)
  · rcases wait_outcome (he.symm.trans h) with h | h
    · cases h
    · obtain ⟨chunks, ending, hr⟩ := respond_whole h
      exact ⟨replies, chunks, ending, hlink, hr⟩

end

/-! ## Ends without an outcome -/

section

variable {c : Caller} {limit : Option Nat} {late : Outcome} {w : World} {endless : Prop}

theorem wait_isFounded {next : World → Finish × World} (h : IsFounded c endless (next w)) :
    IsFounded c endless (w.wait c limit late next) := by
  rcases wait_cases c limit late w next with ⟨he, hc⟩ | he | ⟨he, hd⟩ | he
  · rw [he]
    exact hc
  · rw [he]
    exact trivial
  · rw [he]
    exact hd
  · rwa [he]

theorem waitInVain_isFounded (h : limit = none → c.deadline = none → endless) :
    IsFounded c endless (w.waitInVain c limit late) := by
  obtain ⟨n, -, he | ⟨he, hd⟩ | ⟨he, hlimit, hd⟩⟩ := waitInVain_cases c limit late w
  · rw [he]
    exact trivial
  · rw [he]
    exact hd
  · rw [he]
    exact h hlimit hd

theorem receive_isFounded {ending : BodyEnd}
    (h : ending = .silence → limit = none → c.deadline = none → endless) (status : Nat)
    (chunks : List Chunk) (r : Received) :
    IsFounded c endless (receive c limit status ending chunks r w) := by
  induction chunks generalizing r w with
  | nil =>
    unfold receive
    refine wait_isFounded ?_
    cases ending with
    | complete => trivial
    | broken => trivial
    | silence => exact waitInVain_isFounded (h rfl)
  | cons chunk chunks ih =>
    unfold receive
    exact wait_isFounded (ih _)

theorem respond_isFounded {response : Response}
    (h : response.Stalls → limit = none → c.deadline = none → endless) (q : Query) :
    IsFounded c endless (w.respond c q limit response) := by
  cases response with
  | closed => trivial
  | silence => exact waitInVain_isFounded (h (.inl rfl))
  | answer status chunks ending =>
    simp only [respond]
    split
    · trivial
    · refine receive_isFounded (fun hending => h (.inr ⟨status, chunks, ?_⟩)) status chunks _
      rw [hending]

/-- An exchange has an outcome unless the caller ends it, or nobody does and the service stalls. -/
theorem exchange_isFounded (c : Caller) (q : Query) (w : World) :
    IsFounded c
      ((∃ replies, w.link = .up replies ∧ (nextReply replies).1.response.Stalls) ∧
        q.limit = none ∧ c.deadline = none)
      (w.exchange c q) := by
  rcases exchange_cases c w q with ⟨-, h, -⟩ | ⟨replies, hlink, he⟩
  · exact h.mono False.elim
  · rw [he]
    refine wait_isFounded (respond_isFounded (fun hstalls hlimit hd => ?_) q)
    exact ⟨⟨replies, hlink, hstalls⟩, Option.map_eq_none_iff.1 hlimit, hd⟩

end

/-! ## Exchanges without notices -/

section

variable {c : Caller} {limit : Option Nat} {w : World}

/-- Time has passed since the first world, and nothing else has happened. -/
def IsLater (w w' : World) : Prop := ∃ n, w' = { w with elapsed := n }

theorem isLater_self (w : World) : w.IsLater w := ⟨w.elapsed, rfl⟩

theorem waitInVain_isLater (late : Outcome) : w.IsLater (w.waitInVain c limit late).2 := by
  obtain ⟨n, -, he | ⟨he, -⟩ | ⟨he, -⟩⟩ := waitInVain_cases c limit late w
  all_goals exact ⟨n, by rw [he]⟩

theorem receive_isLater (status : Nat) (ending : BodyEnd) (chunks : List Chunk)
    (bytes : List UInt8) :
    w.IsLater (receive c limit status ending chunks (.body bytes) w).2 := by
  induction chunks generalizing bytes w with
  | nil =>
    unfold receive
    refine wait_kept (P := w.IsLater) w.isLater_self fun _ => ?_
    cases ending with
    | complete => exact w.isLater_self
    | broken => exact w.isLater_self
    | silence => exact waitInVain_isLater _
  | cons chunk chunks ih =>
    unfold receive
    exact wait_kept (P := w.IsLater) ⟨_, rfl⟩ fun _ => ih (bytes ++ chunk.bytes)

theorem respond_isLater {q : Query} (hq : ∀ status, q.reception status = .body [])
    (response : Response) : w.IsLater (w.respond c q limit response).2 := by
  cases response with
  | closed => exact w.isLater_self
  | silence => exact waitInVain_isLater _
  | answer status chunks ending =>
    simp only [respond, hq]
    exact receive_isLater status ending chunks []

/-- If no reply is an execution, nothing happens, or the request arrives and time passes. -/
theorem exchange_body (c : Caller) {q : Query} (hq : ∀ status, q.reception status = .body [])
    (w : World) :
    (w.exchange c q).2 = w ∧ (w.exchange c q).1.LacksReply ∨
      ∃ replies, w.link = .up replies ∧
        (w.arrive q.request (nextReply replies)).IsLater (w.exchange c q).2 := by
  rcases exchange_cases c w q with ⟨hw, -, hnone⟩ | ⟨replies, hlink, he⟩
  · exact .inl ⟨hw, hnone⟩
  · refine .inr ⟨replies, hlink, ?_⟩
    rw [he]
    exact wait_kept (P := (w.arrive q.request (nextReply replies)).IsLater) ⟨_, rfl⟩ fun _ =>
      respond_isLater hq _

end

end World

/-! ## Bodies -/

/-- An error of the call itself, which the caller did not end. -/
def Error.IsFailure (e : Error) : Prop := e.isCancelled = false

theorem Error.IsFailure.inContext {e : Error} (h : e.IsFailure) (context : String) :
    (Error.inContext context e).IsFailure := h

theorem Outcome.accepted_eq_ok {context : String} {accepts : List Nat}
    {lost : TransportFault → Error} {o : Outcome} {content : Content}
    (h : o.accepted context accepts lost = .ok content) :
    ∃ status, o = .reply status content.received content.cut ∧ accepts.contains status := by
  cases o with
  | fault f => cases h
  | reply status received cut =>
    simp only [accepted] at h
    split at h
    · next ha =>
      cases h
      exact ⟨status, rfl, ha⟩
    · cases h

theorem Outcome.accepted_eq_error {context : String} {accepts : List Nat}
    {lost : TransportFault → Error} {o : Outcome} {e : Error}
    (h : o.accepted context accepts lost = .error e) :
    (∃ f, e = lost f) ∨ ∃ status body, e = .api context status body := by
  cases o with
  | fault f =>
    cases h
    exact .inl ⟨f, rfl⟩
  | reply status received cut =>
    simp only [accepted] at h
    split at h
    · cases h
    · cases h
      exact .inr ⟨_, _, rfl⟩

theorem Outcome.isFailure_of_accepted {context : String} {accepts : List Nat}
    {lost : TransportFault → Error} {o : Outcome} {e : Error}
    (h : o.accepted context accepts lost = .error e) (hlost : ∀ f, (lost f).IsFailure) :
    e.IsFailure := by
  rcases accepted_eq_error h with ⟨f, rfl⟩ | ⟨status, body, rfl⟩
  · exact hlost f
  · rfl

theorem Content.decode_eq_ok {α : Type} {context : String} {decode : Json.Document → Option α}
    {content : Content} {a : α} (h : content.decode context decode = .ok a) :
    content.cut = none ∧
      (documentOf? content.received.bytes).bind decode = some a := by
  unfold Content.decode at h
  split at h
  · cases h
  · next hcut =>
    split at h
    · next ha =>
      cases h
      exact ⟨hcut, ha⟩
    · cases h

theorem Content.decode_eq_error {α : Type} {context : String}
    {decode : Json.Document → Option α} {content : Content} {e : Error}
    (h : content.decode context decode = .error e) :
    (∃ f, e = .inContext context (.transport f)) ∨ e = .decode context := by
  unfold Content.decode at h
  split at h
  · cases h
    exact .inl ⟨_, rfl⟩
  · split at h
    · cases h
    · cases h
      exact .inr rfl

theorem Content.isFailure_of_decode {α : Type} {context : String}
    {decode : Json.Document → Option α} {content : Content} {e : Error}
    (h : content.decode context decode = .error e) : e.IsFailure := by
  rcases decode_eq_error h with ⟨f, rfl⟩ | rfl
  · rfl
  · rfl

end AgentSandbox

import AgentSandbox.Proofs.Exchange.Bodies
import AgentSandbox.Proofs.Exchange.Listening
import AgentSandbox.Proofs.Exchange.Tokens

/-!
# Time that does not matter

An exchange that was not given up at its limit is what it is without a limit
(`World.exchange_unlimited`), and one whose reply is no execution leaves the same but for the time if
it has any time to begin with (`World.exchange_body_limits`).  Without a limit and without a deadline
it does not matter how long the service takes (`World.exchange_untimed`), and what the replies to
later requests are never matters (`World.exchange_first`).
-/

namespace AgentSandbox

open Execution

/-! ## Limits -/

/-- The exchange was given up at its limit. -/
def Finish.IsLate : Finish → Prop
  | .outcome (.fault f) => f = .timeout
  | .outcome (.reply _ _ cut) => cut = some .timeout
  | _ => False

theorem Finish.isLate_fault : (Finish.outcome (.fault .timeout)).IsLate := rfl

theorem Finish.isLate_reply (status : Nat) (received : Received) :
    (Finish.outcome (.reply status received (some .timeout))).IsLate := rfl

/-- The same query with another limit. -/
def Query.withLimit (limit : Option Nat) (q : Query) : Query := { q with limit := limit }

namespace World

/-- The first end came with the limit, or the second one is the same. -/
def LateOrSame (r r' : Finish × World) : Prop := r.1.IsLate ∨ r' = r

section

variable {c : Caller} {limit : Option Nat} {late : Outcome} {w : World}

theorem wait_unlimited (hlate : (Finish.outcome late).IsLate) {next next' : World → Finish × World}
    (h : LateOrSame (next w) (next' w)) :
    LateOrSame (w.wait c limit late next) (w.wait c none late next') := by
  rw [wait_none]
  unfold wait
  split
  · exact .inr rfl
  split
  · exact .inl hlate
  split
  · exact .inr rfl
  · exact h

theorem waitInVain_unlimited (hlate : (Finish.outcome late).IsLate) :
    LateOrSame (w.waitInVain c limit late) (w.waitInVain c none late) := by
  unfold waitInVain
  rcases limit with _ | l
  · exact .inr rfl
  cases c.deadline with
  | none => exact .inl hlate
  | some d =>
    dsimp only
    split
    · exact .inl hlate
    · exact .inr rfl

theorem receive_unlimited (status : Nat) (ending : BodyEnd) (chunks : List Chunk) (r : Received) :
    LateOrSame (receive c limit status ending chunks r w)
      (receive c none status ending chunks r w) := by
  induction chunks generalizing r w with
  | nil =>
    unfold receive
    refine wait_unlimited (Finish.isLate_reply status r) ?_
    cases ending with
    | complete => exact .inr rfl
    | broken => exact .inr rfl
    | silence => exact waitInVain_unlimited (Finish.isLate_reply status r)
  | cons chunk chunks ih =>
    unfold receive
    exact wait_unlimited (Finish.isLate_reply status r) (ih _)

theorem respond_unlimited (q : Query) (response : Response) :
    LateOrSame (w.respond c q limit response) (w.respond c (q.withLimit none) none response) := by
  cases response with
  | closed => exact .inr rfl
  | silence => exact waitInVain_unlimited Finish.isLate_fault
  | answer status chunks ending =>
    have hreception : (q.withLimit none).reception = q.reception := rfl
    simp only [respond, hreception]
    split
    · exact .inr rfl
    · exact receive_unlimited status ending chunks _

/-- An exchange that was not given up at its limit is what it is without one. -/
theorem exchange_unlimited (c : Caller) (q : Query) (w : World) :
    LateOrSame (w.exchange c q) (w.exchange c (q.withLimit none)) := by
  have hrequest : (q.withLimit none).request = q.request := rfl
  have hlimit : (q.withLimit none).limit.map (w.elapsed + ·) = none := rfl
  unfold exchange
  rw [hrequest, hlimit]
  split
  case isFalse => exact .inr rfl
  refine wait_unlimited Finish.isLate_fault ?_
  cases w.link with
  | down => exact .inr rfl
  | up replies => exact wait_unlimited Finish.isLate_fault (respond_unlimited q _)

/-- With two limits under neither of which it was given up, an exchange is the same. -/
theorem exchange_eq_of_not_late {q : Query} {limit' : Option Nat}
    (h : ¬ (w.exchange c q).1.IsLate) (h' : ¬ (w.exchange c (q.withLimit limit')).1.IsLate) :
    w.exchange c (q.withLimit limit') = w.exchange c q :=
  ((exchange_unlimited c (q.withLimit limit') w).resolve_left h').symm.trans
    ((exchange_unlimited c q w).resolve_left h)

/-- A limit that leaves some time does not end the wait at the beginning of an exchange. -/
theorem wait_begin (hlimit : limit ≠ some 0) (next : World → Finish × World) :
    w.wait c (limit.map (w.elapsed + ·)) late next = w.wait c none late next := by
  have hany : ¬ (limit.map (w.elapsed + ·)).any (· ≤ w.elapsed) = true := by
    rcases limit with _ | l
    · exact Bool.false_ne_true
    · have hpos : 0 < l := Nat.pos_of_ne_zero fun h => hlimit (congrArg some h)
      simp only [Option.map_some, Option.any_some, decide_eq_true_eq]
      omega
  unfold wait
  rw [if_neg hany]
  rfl

/-- With two limits that leave some time, an exchange whose reply is no execution does nothing in
either case, or the request arrives in both and time passes. -/
theorem exchange_body_limits (c : Caller) {q : Query}
    (hq : ∀ status, q.reception status = .body []) {limit' : Option Nat} (hlimit : q.limit ≠ some 0)
    (hlimit' : limit' ≠ some 0) (w : World) :
    let w₁ := (w.exchange c q).2
    let w₂ := (w.exchange c (q.withLimit limit')).2
    w₁ = w ∧ w₂ = w ∨ ∃ w₀ : World, w₀.IsLater w₁ ∧ w₀.IsLater w₂ := by
  have hrequest : (q.withLimit limit').request = q.request := rfl
  have hlimit'' : (q.withLimit limit').limit = limit' := rfl
  unfold exchange
  rw [hrequest, hlimit'']
  split
  case isFalse => exact .inl ⟨rfl, rfl⟩
  rw [wait_begin hlimit, wait_begin hlimit']
  refine wait_related (R := fun r r' => r.2 = w ∧ r'.2 = w ∨
    ∃ w₀ : World, w₀.IsLater r.2 ∧ w₀.IsLater r'.2) rfl rfl (.inl ⟨rfl, rfl⟩) (.inl ⟨rfl, rfl⟩)
    (.inl ⟨rfl, rfl⟩) ?_
  cases w.link with
  | down => exact .inl ⟨rfl, rfl⟩
  | up replies =>
    let w₀ := w.arrive q.request (nextReply replies)
    exact .inr ⟨w₀, wait_kept (P := w₀.IsLater) ⟨_, rfl⟩ fun _ => respond_isLater hq _,
      wait_kept (P := w₀.IsLater) ⟨_, rfl⟩ fun _ => respond_isLater hq _⟩

end

end World

/-! ## Pauses -/

/-- The response, without its pauses. -/
def Response.untimed : Response → Response
  | .answer status chunks ending => .answer status (chunks.map fun chunk => ⟨0, chunk.bytes⟩) ending
  | r => r

/-- The reply, without its pauses. -/
def Reply.untimed (r : Reply) : Reply := ⟨r.cancels, 0, r.response.untimed⟩

/-- The connection to services that take no time. -/
def Link.untimed : Link → Link
  | .down => .down
  | .up replies => .up (replies.map Reply.untimed)

namespace World

/-- The world, without its time. -/
def untimed (w : World) : World := { w with link := w.link.untimed, elapsed := 0 }

/-- The ends are the same, and so are the worlds that are left, but for the time. -/
def SameButTime {ε : Type} (r r' : ε × World) : Prop := r.1 = r'.1 ∧ r.2.untimed = r'.2.untimed

theorem untimed_arrive (w : World) (request : Request) (r : Reply × List Reply) :
    (w.arrive request r).untimed =
      w.untimed.arrive request (r.1.untimed, r.2.map Reply.untimed) := rfl

section

variable {c : Caller} {late : Outcome} {w w' : World}

theorem wait_untimed (hd : c.deadline = none) (h : w.untimed = w'.untimed)
    {next next' : World → Finish × World} (hnext : SameButTime (next w) (next' w')) :
    SameButTime (w.wait c none late next) (w'.wait c none late next') := by
  have hcancelled : w.cancelled = w'.cancelled := (World.mk.inj h).2.2.1
  rw [wait_none, wait_none, hd, hcancelled]
  split
  · exact ⟨rfl, h⟩
  · exact hnext

theorem waitInVain_untimed (hd : c.deadline = none) (h : w.untimed = w'.untimed) :
    SameButTime (w.waitInVain c none late) (w'.waitInVain c none late) := by
  unfold waitInVain
  rw [hd]
  exact ⟨rfl, h⟩

theorem foldl_notify_untimed (c : Caller) (h : w.untimed = w'.untimed) (ns : List Notice) :
    (ns.foldl (notify c) w).untimed = (ns.foldl (notify c) w').untimed := by
  induction ns generalizing w w' with
  | nil => exact h
  | cons n ns ih =>
    refine ih (congrArg (fun v : World => { v with
      notices := v.notices ++ [n]
      cancelled := v.cancelled || c.cancelAt = some (v.notices.length + 1) }) h)

theorem receive_untimed (hd : c.deadline = none) (h : w.untimed = w'.untimed) (status : Nat)
    (ending : BodyEnd) {chunks chunks' : List Chunk}
    (hchunks : chunks.map (·.bytes) = chunks'.map (·.bytes)) (r : Received) :
    SameButTime (receive c none status ending chunks r w)
      (receive c none status ending chunks' r w') := by
  induction chunks generalizing chunks' r w w' with
  | nil =>
    obtain rfl : chunks' = [] := List.map_eq_nil_iff.1 hchunks.symm
    unfold receive
    refine wait_untimed hd h ?_
    cases ending with
    | complete => exact ⟨rfl, foldl_notify_untimed c h _⟩
    | broken => exact ⟨rfl, h⟩
    | silence => exact waitInVain_untimed hd h
  | cons chunk chunks ih =>
    rcases chunks' with _ | ⟨chunk', chunks'⟩
    · cases hchunks
    obtain ⟨hbytes, hchunks⟩ := List.cons.inj hchunks
    have hbytes : chunk.bytes = chunk'.bytes := hbytes
    have hpassed : (w.pass chunk.pause).untimed = (w'.pass chunk'.pause).untimed := h
    unfold receive
    rw [hbytes]
    exact wait_untimed hd hpassed (ih (foldl_notify_untimed c hpassed _) hchunks _)

theorem respond_untimed (hd : c.deadline = none) (h : w.untimed = w'.untimed) (q : Query)
    {response response' : Response} (hresponse : response.untimed = response'.untimed) :
    SameButTime (w.respond c q none response) (w'.respond c q none response') := by
  rcases response with _ | _ | ⟨status, chunks, ending⟩
  case closed =>
    obtain rfl : response' = .closed := by
      cases response' with
      | closed => rfl
      | _ => cases hresponse
    exact ⟨rfl, h⟩
  case silence =>
    obtain rfl : response' = .silence := by
      cases response' with
      | silence => rfl
      | _ => cases hresponse
    exact waitInVain_untimed hd h
  case answer =>
    rcases response' with _ | _ | ⟨status', chunks', ending'⟩
    case closed => cases hresponse
    case silence => cases hresponse
    obtain ⟨rfl, hchunks, rfl⟩ := Response.answer.inj hresponse
    have hbytes := congrArg (List.map Chunk.bytes) hchunks
    simp only [List.map_map] at hbytes
    simp only [respond]
    split
    · exact ⟨rfl, h⟩
    · exact receive_untimed hd h status ending hbytes _

theorem nextReply_untimed (replies : List Reply) :
    nextReply (replies.map Reply.untimed) =
      ((nextReply replies).1.untimed, (nextReply replies).2.map Reply.untimed) := by
  cases replies with
  | nil => rfl
  | cons r rs => rfl

/-- Without a limit and a deadline, an exchange does not depend on how long the service takes. -/
theorem exchange_untimed (hd : c.deadline = none) {q : Query} (hlimit : q.limit = none)
    (h : w.untimed = w'.untimed) : SameButTime (w.exchange c q) (w'.exchange c q) := by
  unfold exchange
  rw [hlimit]
  split
  case isFalse => exact ⟨rfl, h⟩
  refine wait_untimed hd h ?_
  have hlink : w.link.untimed = w'.link.untimed := congrArg World.link h
  rcases hw : w.link with _ | replies <;> rcases hw' : w'.link with _ | replies'
  · exact ⟨rfl, h⟩
  · rw [hw, hw'] at hlink
    cases hlink
  · rw [hw, hw'] at hlink
    cases hlink
  · rw [hw, hw'] at hlink
    have hreplies := congrArg nextReply (Link.up.inj hlink)
    rw [nextReply_untimed, nextReply_untimed] at hreplies
    have harrived : (w.arrive q.request (nextReply replies)).untimed =
        (w'.arrive q.request (nextReply replies')).untimed := by
      rw [untimed_arrive, untimed_arrive, h, hreplies]
    have hresponse := congrArg (fun r => r.1.response) hreplies
    dsimp only [Option.map_none]
    generalize nextReply replies = r at harrived hresponse ⊢
    generalize nextReply replies' = r' at harrived hresponse ⊢
    have hpassed : ((w.arrive q.request r).pass r.1.pause).untimed =
        ((w'.arrive q.request r').pass r'.1.pause).untimed := harrived
    refine wait_untimed hd hpassed ?_
    exact respond_untimed hd hpassed q hresponse

theorem withReplies_untimed {replies replies' : List Reply}
    (h : replies.map Reply.untimed = replies'.map Reply.untimed) (w : World) :
    (w.withReplies replies).untimed = (w.withReplies replies').untimed :=
  congrArg (fun replies => w.untimed.withReplies replies) h

theorem isUnseen_withReplies (c : Caller) (replies : List Reply) :
    IsUnseen c (withReplies replies) where
  cancelled _ := rfl
  elapsed _ := rfl
  elapse _ _ := rfl
  notify _ _ := rfl

theorem isSteady_link (c : Caller) (link : Link) : IsSteady c fun w => w.link = link where
  elapse _ _ h _ := h
  notify _ _ h := h

/-- An exchange does not look at the replies behind the first one. -/
theorem exchange_first (c : Caller) (q : Query) (w : World) (reply : Reply) {rest rest' : List Reply}
    (h : rest.map Reply.untimed = rest'.map Reply.untimed) :
    SameButTime ((w.withReplies (reply :: rest)).exchange c q)
      ((w.withReplies (reply :: rest')).exchange c q) := by
  have hreplies : (reply :: rest).map Reply.untimed = (reply :: rest').map Reply.untimed :=
    congrArg (reply.untimed :: ·) h
  have hbegun := withReplies_untimed hreplies w
  unfold exchange
  split
  case isFalse => exact ⟨rfl, hbegun⟩
  refine wait_related rfl rfl ⟨rfl, hbegun⟩ ⟨rfl, hbegun⟩ ⟨rfl, hbegun⟩ ?_
  -- the request arrives, and from here on the worlds differ in nothing but the replies that are left
  let w₁ := (w.arrive q.request (reply, rest)).pass reply.pause
  let limit := q.limit.map (w.elapsed + ·)
  let next (w : World) := w.respond c q limit reply.response
  have hrun : (w₁.withReplies rest').wait c limit (.fault .timeout) next =
      changed (withReplies rest') (w₁.wait c limit (.fault .timeout) next) :=
    (isUnseen_withReplies c rest').wait ((isUnseen_withReplies c rest').respond q _)
  have hlink : (w₁.wait c limit (.fault .timeout) next).2.link = .up rest :=
    wait_kept (P := fun w => w.link = .up rest) rfl fun h =>
      (isSteady_link c (.up rest)).respond h q _
  have hsame : SameButTime (w₁.wait c limit (.fault .timeout) next)
      ((w₁.withReplies rest').wait c limit (.fault .timeout) next) := by
    rw [hrun]
    generalize w₁.wait c limit (.fault .timeout) next = r at hlink
    have hleft : r.2.withReplies rest = r.2 := by rw [withReplies, ← hlink]
    exact ⟨rfl, (congrArg untimed hleft).symm.trans (withReplies_untimed h r.2)⟩
  exact hsame

end

end World

end AgentSandbox

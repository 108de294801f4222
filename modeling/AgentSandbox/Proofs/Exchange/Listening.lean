import AgentSandbox.Proofs.Exchange.Bodies
import AgentSandbox.Proofs.Execution.Listening

/-!
# Exchanges with listeners

An exchange without a limit of its own ends with listeners as it does without them, unless the caller
acts on one of the notices given, by a cancellation or by letting time pass; then it may be stopped
(`World.exchange_echoes`).  When the stream of an execution is over, the notices given are those that
its events cause (`World.exchange_tells`).
-/

namespace AgentSandbox

open Execution

/-- The caller cancels, or lets time pass, on one of the first notices. -/
def Caller.ActsWithin (c : Caller) (notices : Nat) : Prop :=
  (∃ k, c.cancelAt = some k ∧ 0 < k ∧ k ≤ notices) ∨
    ∃ k pause, c.pauseAt = some (k, pause) ∧ 0 < k ∧ k ≤ notices

theorem Caller.ActsWithin.mono {c : Caller} {m n : Nat} (h : c.ActsWithin m) (hmn : m ≤ n) :
    c.ActsWithin n := by
  rcases h with ⟨k, hk, hpos, hle⟩ | ⟨k, pause, hk, hpos, hle⟩
  · exact .inl ⟨k, hk, hpos, Nat.le_trans hle hmn⟩
  · exact .inr ⟨k, pause, hk, hpos, Nat.le_trans hle hmn⟩

/-- The same outcome for nobody. -/
def Outcome.muted : Outcome → Outcome
  | .fault f => .fault f
  | .reply status received cut => .reply status received.muted cut

/-- The same end for nobody. -/
def Finish.muted : Finish → Finish
  | .outcome o => .outcome o.muted
  | f => f

/-- The caller ended the exchange, by cancelling it or by the deadline. -/
def Finish.IsStopped (f : Finish) : Prop := f = .cancelled ∨ f = .expired

namespace World

/-- Neither requests nor replies nor tokens tell the worlds apart. -/
structure Alike (w w' : World) : Prop where
  link : w'.link = w.link
  tokens : w'.tokens = w.tokens
  sent : w'.sent = w.sent

theorem isSteady_alike (c : Caller) (w : World) : IsSteady c w.Alike where
  elapse _ _ h _ := ⟨h.link, h.tokens, h.sent⟩
  notify _ _ h := ⟨h.link, h.tokens, h.sent⟩

theorem alike_self (w : World) : w.Alike w := ⟨rfl, rfl, rfl⟩

theorem Alike.of_both {w₀ w w' : World} (h : w₀.Alike w) (h' : w₀.Alike w') : w.Alike w' :=
  ⟨h'.link.trans h.link.symm, h'.tokens.trans h.tokens.symm, h'.sent.trans h.sent.symm⟩

/-- The second world is the first one with some more notices, and what the caller did on them. -/
structure Echoes (c : Caller) (w w' : World) : Prop extends Alike w w' where
  cancelled : w.cancelled = true → w'.cancelled = true
  elapsed : w.elapsed ≤ w'.elapsed
  same : ¬ c.ActsWithin w'.notices.length → w'.cancelled = w.cancelled ∧ w'.elapsed = w.elapsed

/-- Something ended without listeners in the first world and with listeners in the second one: in the
same way, or the caller acted on a notice and it was stopped. -/
structure Echo (c : Caller) (same stopped : Prop) (w w' : World) : Prop where
  alike : w.Alike w'
  ends : same ∧ (¬ c.ActsWithin w'.notices.length → w'.cancelled = w.cancelled) ∨
    c.ActsWithin w'.notices.length ∧ stopped

end World

/-- The first exchange had no listeners and the second one had some. -/
def Finish.Echoes (c : Caller) (r r' : Finish × World) : Prop :=
  World.Echo c (r.1 = r'.1.muted) r'.1.IsStopped r.2 r'.2

namespace World

variable {c : Caller} {w w' : World}

/-- An exchange without a limit waits until the caller ends it. -/
theorem wait_none (c : Caller) (late : Outcome) (w : World) (next : World → Finish × World) :
    w.wait c none late next =
      if c.heeds && w.cancelled then (.cancelled, w)
      else if c.deadline.any (· ≤ w.elapsed) then (.expired, w)
      else next w := rfl

namespace Echoes

theorem refl (c : Caller) (w : World) : w.Echoes c w where
  toAlike := w.alike_self
  cancelled := id
  elapsed := Nat.le_refl _
  same _ := ⟨rfl, rfl⟩

theorem pass (h : w.Echoes c w') (pause : Nat) : (w.pass pause).Echoes c (w'.pass pause) where
  toAlike := ⟨h.link, h.tokens, h.sent⟩
  cancelled := h.cancelled
  elapsed := Nat.add_le_add_right h.elapsed _
  same hstill := ⟨(h.same hstill).1, congrArg (· + pause) (h.same hstill).2⟩

theorem notify (h : w.Echoes c w') (n : Notice) : w.Echoes c (w'.notify c n) where
  toAlike := ⟨h.link, h.tokens, h.sent⟩
  cancelled hc := Bool.or_eq_true_iff.2 (.inl (h.cancelled hc))
  elapsed := Nat.le_trans h.elapsed (Nat.le_add_right _ _)
  same hstill := by
    have hcount : (w'.notify c n).notices.length = w'.notices.length + 1 := List.length_append
    rw [hcount] at hstill
    have hcancel : c.cancelAt ≠ some (w'.notices.length + 1) := fun hk =>
      hstill (.inl ⟨_, hk, Nat.succ_pos _, Nat.le_refl _⟩)
    have hpause : c.pauseAt.filter (·.1 = w'.notices.length + 1) = none := by
      refine Option.filter_eq_none_iff.2 ?_
      rintro ⟨k, pause⟩ hk heq
      obtain rfl := of_decide_eq_true heq
      exact hstill (.inr ⟨_, pause, hk, Nat.succ_pos _, Nat.le_refl _⟩)
    obtain ⟨hcancelled, helapsed⟩ :=
      h.same fun hacts => hstill (hacts.mono (Nat.le_succ _))
    simp only [World.notify, hcancel, hpause, decide_false, Bool.or_false, Option.map_none,
      Option.getD_none, Nat.add_zero]
    exact ⟨hcancelled, helapsed⟩

theorem foldl_notify (h : w.Echoes c w') (ns : List Notice) :
    w.Echoes c (ns.foldl (World.notify c) w') := by
  induction ns generalizing w' with
  | nil => exact h
  | cons n ns ih => exact ih (h.notify n)

/-- Both end in the same way. -/
theorem ended (h : w.Echoes c w') {f f' : Finish} (hf : f = f'.muted) :
    Finish.Echoes c (f, w) (f', w') :=
  ⟨h.toAlike, .inl ⟨hf, fun hstill => (h.same hstill).1⟩⟩

theorem wait (h : w.Echoes c w') {late late' : Outcome} {next next' : World → Finish × World}
    (hkept : w.Alike (next w).2) (hnext : Finish.Echoes c (next w) (next' w')) :
    Finish.Echoes c (w.wait c none late next) (w'.wait c none late' next') := by
  -- what ends the second exchange but not the first one is what the caller did on a notice
  have hstopped {f : Finish} (hf : f.IsStopped)
      (hacts : ¬ (w'.cancelled = w.cancelled ∧ w'.elapsed = w.elapsed)) :
      Finish.Echoes c (w.wait c none late next) (f, w') :=
    ⟨.of_both (wait_kept (P := w.Alike) w.alike_self fun _ => hkept) h.toAlike,
      .inr ⟨Classical.byContradiction fun hstill => hacts (h.same hstill), hf⟩⟩
  rw [wait_none c late' w']
  split
  case isTrue hcancelled =>
    by_cases hsame : w'.cancelled = w.cancelled ∧ w'.elapsed = w.elapsed
    · rw [hsame.1] at hcancelled
      rw [wait_none, if_pos hcancelled]
      exact h.ended rfl
    · exact hstopped (.inl rfl) hsame
  case isFalse hgoes =>
  split
  case isTrue hexpired =>
    by_cases hsame : w'.cancelled = w.cancelled ∧ w'.elapsed = w.elapsed
    · rw [hsame.1] at hgoes
      rw [hsame.2] at hexpired
      rw [wait_none, if_neg hgoes, if_pos hexpired]
      exact h.ended rfl
    · exact hstopped (.inr rfl) hsame
  case isFalse hintime =>
    have hgoes₀ : ¬ (c.heeds && w.cancelled) = true := fun hc =>
      hgoes (Bool.and_eq_true_iff.2 ((Bool.and_eq_true_iff.1 hc).imp_right h.cancelled))
    have hintime₀ : ¬ c.deadline.any (· ≤ w.elapsed) = true := by
      intro hexpired
      obtain ⟨d, hd, hle⟩ := (Option.any_eq_true _ _).1 hexpired
      have hle' : d ≤ w'.elapsed := Nat.le_trans (of_decide_eq_true hle) h.elapsed
      exact hintime ((Option.any_eq_true _ _).2 ⟨d, hd, decide_eq_true hle'⟩)
    rw [wait_none, if_neg hgoes₀, if_neg hintime₀]
    exact hnext

theorem waitInVain (h : w.Echoes c w') (late late' : Outcome) :
    Finish.Echoes c (w.waitInVain c none late) (w'.waitInVain c none late') := by
  unfold World.waitInVain
  cases c.deadline with
  | none => exact h.ended rfl
  | some d =>
    exact ⟨⟨h.link, h.tokens, h.sent⟩, .inl ⟨rfl, fun hstill => (h.same hstill).1⟩⟩

theorem receive (h : w.Echoes c w') (status : Nat) (ending : BodyEnd) (chunks : List Chunk)
    (r : Received) :
    Finish.Echoes c (World.receive c none status ending chunks r.muted w)
      (World.receive c none status ending chunks r w') := by
  induction chunks generalizing r w w' with
  | nil =>
    unfold World.receive
    refine h.wait ?_ ?_
    · cases ending with
      | complete => exact (isSteady_alike c w).foldl_notify w.alike_self _
      | broken => exact w.alike_self
      | silence => exact (isSteady_alike c w).waitInVain w.alike_self
    · cases ending with
      | complete =>
        simp only [← Received.muted_finish, Received.notices_muted, List.drop_nil, List.foldl_nil]
        exact (h.foldl_notify _).ended rfl
      | broken => exact h.ended rfl
      | silence => exact h.waitInVain _ _
  | cons chunk chunks ih =>
    have hpassed := h.pass chunk.pause
    have hsteady := isSteady_alike c (w.pass chunk.pause)
    unfold World.receive
    simp only [← Received.muted_feed, Received.notices_muted, List.drop_nil, List.foldl_nil]
    exact hpassed.wait (hsteady.receive (alike_self _) _ _ _ _)
      (ih (hpassed.foldl_notify _) (r.feed chunk.bytes))

end Echoes

end World

/-- The same query for nobody. -/
def Query.muted (q : Query) : Query := { q with reception := fun status => (q.reception status).muted }

namespace World

variable {c : Caller} {w : World}

theorem respond_echoes (q : Query) (response : Response) :
    Finish.Echoes c (w.respond c q.muted none response) (w.respond c q none response) := by
  have hself := Echoes.refl c w
  cases response with
  | closed => exact hself.ended rfl
  | silence => exact hself.waitInVain _ _
  | answer status chunks ending =>
    simp only [respond, Query.muted]
    cases q.reception status with
    | nothing => exact hself.ended rfl
    | body bytes => exact hself.receive status ending chunks (.body bytes)
    | execution l d => exact hself.receive status ending chunks (.execution l d)

/-- An exchange without a limit of its own ends with listeners as without them, unless the caller acts
on one of the notices. -/
theorem exchange_echoes (c : Caller) {q : Query} (hlimit : q.limit = none) (w : World) :
    Finish.Echoes c (w.exchange c q.muted) (w.exchange c q) := by
  have hself := Echoes.refl c w
  have hlimit' : q.muted.limit = none := hlimit
  have hwritable : q.muted.request.isWritable = q.request.isWritable := rfl
  unfold exchange
  rw [hlimit, hlimit', hwritable]
  simp only [Option.map_none]
  split
  case isFalse => exact hself.ended rfl
  refine wait_related rfl rfl (hself.ended rfl) (hself.ended rfl) (hself.ended rfl) ?_
  cases w.link with
  | down => exact hself.ended rfl
  | up replies =>
    let w₁ := (w.arrive q.request (nextReply replies)).pass (nextReply replies).1.pause
    have hself₁ := Echoes.refl c w₁
    exact wait_related (w := w₁) rfl rfl (hself₁.ended rfl) (hself₁.ended rfl)
      (hself₁.ended rfl) (respond_echoes q _)

/-! ## Notices -/

theorem notices_foldl_notify (c : Caller) (ns : List Notice) (w : World) :
    (ns.foldl (notify c) w).notices = w.notices ++ ns := by
  induction ns generalizing w with
  | nil => exact (List.append_nil _).symm
  | cons n ns ih =>
    rw [List.foldl_cons, ih]
    exact List.append_assoc _ _ _

/-- The new notices are given behind those that were given before. -/
theorem notices_foldl_drop {before : List Notice} {r r' : Received}
    (h : w.notices = before ++ r.notices) (hgrows : r.notices <+: r'.notices) :
    ((r'.notices.drop r.notices.length).foldl (notify c) w).notices = before ++ r'.notices := by
  rw [notices_foldl_notify, h, List.append_assoc, List.prefix_iff_eq_append.1 hgrows]

variable {w' : World} {o : Outcome}

theorem wait_none_outcome {late : Outcome} {next : World → Finish × World}
    (h : w.wait c none late next = (.outcome o, w')) : next w = (.outcome o, w') := by
  rw [wait_none] at h
  split at h
  · cases h
  split at h
  · cases h
  · exact h

theorem waitInVain_none_ne_outcome (late o : Outcome) :
    w.waitInVain c none late ≠ (.outcome o, w') := by
  unfold waitInVain
  cases c.deadline with
  | none => nofun
  | some d => nofun

/-- The end of a body that was received without a limit: the chunks were received and the body was
complete or broke behind them, and the notices of all that were given. -/
theorem receive_outcome {status : Nat} {ending : BodyEnd} {chunks : List Chunk} {r : Received}
    (h : receive c none status ending chunks r w = (.outcome o, w')) :
    ∃ received cut, o = .reply status received cut ∧
      (ending = .complete ∧ received = r.whole chunks ∨
        ending = .broken ∧ received = r.feedAll chunks) ∧
      ∀ before, w.notices = before ++ r.notices → w'.notices = before ++ received.notices := by
  induction chunks generalizing r w with
  | nil =>
    unfold receive at h
    have h := wait_none_outcome h
    cases ending with
    | complete =>
      cases h
      exact ⟨_, _, rfl, .inl ⟨rfl, rfl⟩, fun _ hw => notices_foldl_drop hw r.notices_prefix_finish⟩
    | broken =>
      cases h
      exact ⟨_, _, rfl, .inr ⟨rfl, rfl⟩, fun _ hw => hw⟩
    | silence => exact absurd h (waitInVain_none_ne_outcome _ _)
  | cons chunk chunks ih =>
    unfold receive at h
    have h := wait_none_outcome h
    obtain ⟨received, cut, ho, hreceived, hnotices⟩ := ih h
    refine ⟨received, cut, ho, hreceived, fun before hw => hnotices before ?_⟩
    have hpassed : (w.pass chunk.pause).notices = before ++ r.notices := hw
    exact notices_foldl_drop hpassed (r.notices_prefix_feed _)

theorem respond_tells {q : Query} {l : Listeners} (hreception : q.reception 200 = .execution l .start)
    {response : Response} {received : Received} {cut : Option TransportFault}
    (h : w.respond c q none response = (.outcome (.reply 200 received cut), w')) :
    ∃ es, response.events? = some es ∧ received.Tells l es ∧
      w'.notices = w.notices ++ es.filterMap (Event.notice? l) := by
  cases response with
  | closed => cases h
  | silence => exact absurd h (waitInVain_none_ne_outcome _ _)
  | answer status chunks ending =>
    simp only [respond] at h
    split at h
    · next hnothing =>
      cases h
      cases hnothing.symm.trans hreception
    obtain ⟨received', cut', ho, hreceived, hnotices⟩ := receive_outcome h
    cases ho
    rw [hreception] at hreceived hnotices
    have hnotices := hnotices w.notices (List.append_nil _).symm
    obtain ⟨htells, hwhole⟩ := Received.tells_stream l chunks
    rcases hreceived with ⟨rfl, rfl⟩ | ⟨rfl, rfl⟩
    · exact ⟨_, rfl, hwhole, by rw [hnotices, hwhole.2]⟩
    · exact ⟨_, rfl, htells, by rw [hnotices, htells.2]⟩

/-- When the stream of an execution is over, it has told of the events of its lines, and the notices
given are those that these events cause. -/
theorem exchange_tells {q : Query} (hlimit : q.limit = none) {l : Listeners}
    (hreception : q.reception 200 = .execution l .start) {received : Received}
    {cut : Option TransportFault}
    (h : w.exchange c q = (.outcome (.reply 200 received cut), w')) :
    ∃ replies es, w.link = .up replies ∧ (nextReply replies).1.response.events? = some es ∧
      received.Tells l es ∧ w'.notices = w.notices ++ es.filterMap (Event.notice? l) := by
  rcases exchange_cases c w q with ⟨-, -, hnone⟩ | ⟨replies, hlink, he⟩
  · exact absurd (congrArg Prod.fst h) (hnone _ _ _)
  rw [h, hlimit] at he
  have hresponds := wait_none_outcome he.symm
  obtain ⟨es, hes, htells, hnotices⟩ := respond_tells hreception hresponds
  exact ⟨replies, es, hlink, hes, htells, hnotices⟩

end World

end AgentSandbox

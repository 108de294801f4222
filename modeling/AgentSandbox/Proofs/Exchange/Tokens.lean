import AgentSandbox.Proofs.Exchange.Action

/-!
# Actions and tokens that they cannot tell apart

From the arrival of its request on, an exchange looks at the time, at the cancellation and at the
notices only, so it does the same in a world that is changed elsewhere (`World.IsUnseen.respond`).  It
does not depend on the tokens that are remembered at all.  So an action does the same with other
tokens as long as it finds the same of them (`Action.run_related`), and one that does nothing with
them does the same whatever they are (`Action.run_withTokens`).
-/

namespace AgentSandbox

open Execution

namespace World

/-- A change of worlds that an exchange does not see from the moment its request has arrived. -/
structure IsUnseen (c : Caller) (f : World → World) : Prop where
  cancelled : ∀ w, (f w).cancelled = w.cancelled
  elapsed : ∀ w, (f w).elapsed = w.elapsed
  elapse : ∀ w n, { f w with elapsed := n } = f { w with elapsed := n }
  notify : ∀ w n, (f w).notify c n = f (w.notify c n)

/-- The same end in a changed world. -/
def changed (f : World → World) (r : Finish × World) : Finish × World := (r.1, f r.2)

namespace IsUnseen

variable {c : Caller} {f : World → World} {limit : Option Nat} {late : Outcome} {w : World}

theorem wait (hf : IsUnseen c f) {next next' : World → Finish × World}
    (h : next' (f w) = changed f (next w)) :
    (f w).wait c limit late next' = changed f (w.wait c limit late next) := by
  unfold World.wait
  rw [hf.cancelled, hf.elapsed]
  split
  · rfl
  split
  · rfl
  split
  · rfl
  · exact h

theorem waitInVain (hf : IsUnseen c f) :
    (f w).waitInVain c limit late = changed f (w.waitInVain c limit late) := by
  unfold World.waitInVain
  rw [hf.elapsed]
  simp only [hf.elapse]
  split
  · rfl
  · rfl
  · rfl
  · split
    · rfl
    · rfl

theorem foldl_notify (hf : IsUnseen c f) (ns : List Notice) :
    ns.foldl (World.notify c) (f w) = f (ns.foldl (World.notify c) w) := by
  induction ns generalizing w with
  | nil => rfl
  | cons n ns ih =>
    rw [List.foldl_cons, hf.notify]
    exact ih

theorem receive (hf : IsUnseen c f) (status : Nat) (ending : BodyEnd) (chunks : List Chunk)
    (r : Received) :
    World.receive c limit status ending chunks r (f w) =
      changed f (World.receive c limit status ending chunks r w) := by
  induction chunks generalizing r w with
  | nil =>
    unfold World.receive
    refine hf.wait ?_
    cases ending with
    | complete => exact Prod.ext rfl (hf.foldl_notify _)
    | broken => rfl
    | silence => exact hf.waitInVain
  | cons chunk chunks ih =>
    have hpass : (f w).pass chunk.pause = f (w.pass chunk.pause) := by
      rw [pass, hf.elapsed]
      exact hf.elapse w _
    unfold World.receive
    rw [hpass]
    refine hf.wait ?_
    simp only [hf.foldl_notify]
    exact ih _

theorem respond (hf : IsUnseen c f) (q : Query) (response : Response) :
    (f w).respond c q limit response = changed f (w.respond c q limit response) := by
  cases response with
  | closed => rfl
  | silence => exact hf.waitInVain
  | answer status chunks ending =>
    simp only [World.respond]
    split
    · rfl
    · exact hf.receive status ending chunks _

end IsUnseen

/-- The world with other tokens. -/
def withTokens (tokens : TokenCache) (w : World) : World := { w with tokens := tokens }

theorem isUnseen_withTokens (c : Caller) (tokens : TokenCache) : IsUnseen c (withTokens tokens) where
  cancelled _ := rfl
  elapsed _ := rfl
  elapse _ _ := rfl
  notify _ _ := rfl

theorem exchange_withTokens (c : Caller) (q : Query) (tokens : TokenCache) (w : World) :
    (w.withTokens tokens).exchange c q =
      ((w.exchange c q).1, (w.exchange c q).2.withTokens tokens) := by
  have hunseen := isUnseen_withTokens c tokens
  unfold exchange
  split
  case isFalse => rfl
  refine hunseen.wait ?_
  have hlink : (w.withTokens tokens).link = w.link := rfl
  rw [hlink]
  cases w.link with
  | down => rfl
  | up replies =>
    refine hunseen.wait (w := (w.arrive q.request (nextReply replies)).pass _) ?_
    exact hunseen.respond q _

end World

namespace Action

variable {α : Type} {a : Action α} {p : TokenCache.Operation → Prop} {e : Error → Prop}

/-- An action does the same with tokens that it cannot tell apart, and leaves such tokens: what it
does to them keeps a relation under which it always finds the same. -/
theorem run_related {R : TokenCache → TokenCache → Prop} (ha : a.Within p e)
    (hR : ∀ op t t', p op → R t t' →
      TokenCache.answer t op = TokenCache.answer t' op ∧
        R (TokenCache.after t op) (TokenCache.after t' op))
    (c : Caller) (w : World) {tokens : TokenCache} (h : R w.tokens tokens) :
    ∃ tokens', R (a.run c w).2.tokens tokens' ∧
      a.run c (w.withTokens tokens) = ((a.run c w).1, (a.run c w).2.withTokens tokens') := by
  induction ha generalizing w tokens with
  | ok x => exact ⟨tokens, h, rfl⟩
  | error _ => exact ⟨tokens, h, rfl⟩
  | @token op next allowed _ ih =>
    obtain ⟨hanswer, hafter⟩ := hR op _ _ allowed h
    obtain ⟨tokens', hrel, hrun⟩ :=
      ih (TokenCache.answer w.tokens op) (w.withTokens (TokenCache.after w.tokens op)) hafter
    refine ⟨tokens', hrel, ?_⟩
    simp only [run, World.withTokens] at hrun ⊢
    rw [← hanswer, hrun]
  | send q _ ih =>
    have htokens := World.tokens_exchange c q w
    simp only [run, World.exchange_withTokens]
    generalize w.exchange c q = r at htokens
    rcases r with ⟨o | _ | _ | _, w'⟩
    case outcome => exact ih o w' (htokens ▸ h)
    all_goals exact ⟨tokens, htokens ▸ h, rfl⟩

/-- What an action does that does nothing with the tokens does not depend on them. -/
theorem run_withTokens (ha : a.Within (fun _ => False) e) (c : Caller) (w : World)
    (tokens : TokenCache) :
    a.run c (w.withTokens tokens) = ((a.run c w).1, (a.run c w).2.withTokens tokens) := by
  obtain ⟨_, rfl, hrun⟩ := run_related (R := fun _ t => t = tokens) ha
    (fun _ _ _ allowed => allowed.elim) c w rfl
  exact hrun

end Action

end AgentSandbox

import AgentSandbox.Proofs.Client.Disclosure
import AgentSandbox.Proofs.TokenCache

/-!
# Instances do not interfere

What a step of the REST backend does to one instance depends on the token of that instance alone.
Steps that are about other instances leave that token as it is (`find?_step_of_ne`), and a step that
is about the instance does the same whatever the other tokens are (`step_of_instance`).  So a session
goes on in the same way for an instance without steps that are about others, as long as the client
itself is not cancelled by them (`undisturbed_run`): a cancellation is one of all calls
(`disturbed_run_by_cancellation`).
-/

namespace AgentSandbox.Session

open E2bBackend

/-- The step is not about an instance, and neither cancels the client nor gives it a new
cancellation. -/
def Step.Spares (id : String) (s : Step) : Prop :=
  s.instance? ≠ some id ∧ s.command ≠ .cancel ∧ s.command ≠ .rescope

/-- The caller does not cancel the client during the step. -/
def Step.IsUninterrupted (s : Step) : Prop :=
  s.cancelAt = none ∧ ∀ r ∈ s.replies, r.cancels = false

/-- What the caller and the services get to see of a step. -/
def Report.seen (r : Report) : Result × List Request × List Execution.Notice :=
  (r.result, r.sent, r.notices)

/-- Whether the client is cancelled when each of some steps begins. -/
def cancellations (c : Client) (connected : Bool) : List Step → State → List Bool
  | [], _ => []
  | s :: ss, st => st.cancelled :: cancellations c connected ss (step c connected s st).2

/-! ## One step -/

section

variable (b : E2bBackend) (limit : Option Nat) (connected : Bool) {s : Step} {st : State}
  {id : String}

theorem find?_settle_of_ne (hid : s.instance? ≠ some id) (result : Result) (tokens : TokenCache) :
    (s.settle result tokens).find? id = tokens.find? id := by
  unfold Step.settle
  split
  · next hcall =>
    split
    · next made token hmade =>
      have hne : id ≠ made := by
        rintro rfl
        exact hid (by simp only [Step.instance?, hcall, hmade, Option.bind_some])
      exact tokens.find?_insert_of_ne hne token
    · rfl
  · next other _ hcall =>
    have hne : id ≠ other := by
      rintro rfl
      exact hid (by simp only [Step.instance?, hcall])
    split
    · exact tokens.find?_erase_of_ne hne
    · rfl
  · rfl

/-- A step that is not about an instance leaves its token as it is. -/
theorem find?_step_of_ne (hid : s.instance? ≠ some id) (st : State) :
    (step ⟨.e2b b, limit⟩ connected s st).2.tokens.find? id = st.tokens.find? id := by
  rw [tokens_step, (settles_step b limit connected s st).tokens_eq]
  exact find?_settle_of_ne hid _ _

/-- What a call does that looks up no token but that of an instance keeps two caches alike in that
token. -/
theorem find?_after_of_eq (op : TokenCache.Operation) (t t' : TokenCache)
    (hop : ∀ other, op = .get other → other = id) (h : t.find? id = t'.find? id) :
    TokenCache.answer t op = TokenCache.answer t' op ∧
      (TokenCache.after t op).find? id = (TokenCache.after t' op).find? id := by
  refine ⟨?_, TokenCache.find?_after_congr op h⟩
  cases op with
  | get other =>
    obtain rfl := hop other rfl
    exact h
  | _ => rfl

/-- A step that is about an instance looks up no other token. -/
theorem exists_call_of_instance? (hid : s.instance? = some id) :
    ∃ call, s.command.call? = some call ∧ ∀ other, call.looksUp? = some other → other = id := by
  unfold Step.instance? at hid
  split at hid
  · next hcall => exact ⟨_, hcall, fun _ => nofun⟩
  · next hcall => exact ⟨_, hcall, fun _ => nofun⟩
  · next hcall =>
    exact ⟨_, hcall, fun other h => Option.some.inj (h.symm.trans hid)⟩
  · cases hid

/-- A step that is about an instance does the same whatever the tokens of the others are. -/
theorem step_of_instance (hid : s.instance? = some id) {st' : State}
    (htoken : st.tokens.find? id = st'.tokens.find? id) (hcancelled : st.cancelled = st'.cancelled) :
    let r := step ⟨.e2b b, limit⟩ connected s st
    let r' := step ⟨.e2b b, limit⟩ connected s st'
    r.1.seen = r'.1.seen ∧ r.2.tokens.find? id = r'.2.tokens.find? id ∧
      r.2.cancelled = r'.2.cancelled := by
  intro r r'
  obtain ⟨call, hcall, hlook⟩ := exists_call_of_instance? hid
  have hwithin : ((Backend.e2b b).action call).Within (fun op => ∀ other, op = .get other → other = id)
      Error.IsFailure := by
    refine within_restAction_of b (fun other h => ?_) (fun _ _ _ _ => fun _ => nofun)
      fun _ _ => fun _ => nofun
    rintro _ ⟨⟩
    exact hlook other h
  have hst' : { st with tokens := st'.tokens } = st' := by
    rw [hcancelled]
  obtain ⟨tokens', hrel, hperform⟩ :=
    Step.perform_related (c := ⟨.e2b b, limit⟩) (R := fun t t' => t.find? id = t'.find? id) hwithin
      find?_after_of_eq connected s (s.caller ⟨.e2b b, limit⟩) st htoken
  rw [hst', ← step_of_call? hcall, ← step_of_call? hcall] at hperform
  rw [← step_of_call? hcall] at hrel
  have hr' : r' = ({ r.1 with tokens := tokens' }, { r.2 with tokens := tokens' }) := hperform
  rw [hr']
  exact ⟨rfl, hrel, rfl⟩

end

/-! ## The cancellation of the client -/

section

variable {c : Client} {connected : Bool} {s : Step} {st : State}

/-- The client is cancelled or not, and no reply that is to come changes that. -/
def IsSettled (cancelled : Bool) (w : World) : Prop :=
  w.cancelled = cancelled ∧ ∀ replies, w.link = .up replies → ∀ r ∈ replies, r.cancels = false

theorem isKept_isSettled {caller : Caller} (h : caller.cancelAt = none) (cancelled : Bool) :
    World.IsKept caller (IsSettled cancelled) where
  elapse _ _ hw _ := hw
  notify w n hw := by
    refine ⟨?_, hw.2⟩
    simp [World.notify, h, hw.1]
  arrive w request replies hw hlink := by
    have hreplies := hw.2 replies hlink
    cases replies with
    | nil =>
      refine ⟨(Bool.or_false _).trans hw.1, ?_⟩
      rintro _ ⟨⟩ r hr
      cases hr
    | cons reply replies =>
      refine ⟨?_, ?_⟩
      · have hreply := hreplies reply List.mem_cons_self
        simp only [World.arrive, World.nextReply, hreply, Bool.or_false]
        exact hw.1
      · rintro _ ⟨⟩ r hr
        exact hreplies r (List.mem_cons_of_mem _ hr)

theorem isSettled_world (h : s.IsUninterrupted) : IsSettled st.cancelled (s.world connected st) := by
  refine ⟨rfl, fun replies hlink r hr => h.2 r ?_⟩
  rwa [Step.replies_of_world hlink]

/-- A step in which the caller does not cancel the client leaves it cancelled or not. -/
theorem cancelled_step_of_isUninterrupted (h : s.IsUninterrupted) (hcancel : s.command ≠ .cancel)
    (hrescope : s.command ≠ .rescope) :
    (step c connected s st).2.cancelled = st.cancelled := by
  have hperform (caller : Caller) (call : Call) (hcaller : caller.cancelAt = none) :
      (s.perform c connected caller call st).2.cancelled = st.cancelled := by
    have hworld : IsSettled st.cancelled (s.world connected st) := isSettled_world h
    have hkept := Action.run_kept (isKept_isSettled hcaller st.cancelled) (fun _ _ hw => hw)
      (c.backend.action call) hworld
    rcases s.perform_cases c connected caller call st with ⟨-, -, he⟩ | ⟨ending, w, hrun, he⟩
    · rw [he]
    · rw [hrun] at hkept
      rw [he]
      exact hkept.1
  unfold step
  cases hc : s.command with
  | call call => exact hperform _ call h.1
  | unguarded call => exact hperform _ call h.1
  | cancel => exact absurd hc hcancel
  | rescope => exact absurd hc hrescope
  | _ => rfl

end

/-! ## Sessions -/

/-- The steps that are left out spare the instance. -/
def Spared (id : String) (marks : List Bool) (steps : List Step) : Prop :=
  ∀ (i : Nat) (s : Step), marks[i]? = some false → steps[i]? = some s → s.Spares id

theorem Spared.tail {id : String} {marks : List Bool} {s : Step} {steps : List Step}
    (h : Spared id marks (s :: steps)) : Spared id marks.tail steps :=
  fun i s hi hs => h (i + 1) s (List.getElem?_tail ▸ hi) hs

theorem kept_cons {α : Type} (marks : List Bool) (x : α) (xs : List α) :
    kept marks (x :: xs) =
      if marks[0]? = some false then kept marks.tail xs else x :: kept marks.tail xs := by
  rcases marks with _ | ⟨_ | _, marks⟩ <;> rfl

section

variable (b : E2bBackend) (limit : Option Nat) (connected : Bool) {marks : List Bool}
  {steps : List Step} {st st' : State} {id : String}

theorem seen_run {j : Nat} {s : Step}
    (hleft : Spared id marks steps)
    (htoken : st.tokens.find? id = st'.tokens.find? id) (hs : (kept marks steps)[j]? = some s)
    (hid : s.instance? = some id)
    (hagree : ∀ (k : Nat) (s : Step), k ≤ j → (kept marks steps)[k]? = some s →
      s.instance? = some id →
        (kept marks (cancellations ⟨.e2b b, limit⟩ connected steps st))[k]? =
          (cancellations ⟨.e2b b, limit⟩ connected (kept marks steps) st')[k]?) :
    ∃ r r', (kept marks (run ⟨.e2b b, limit⟩ connected steps st))[j]? = some r ∧
      (run ⟨.e2b b, limit⟩ connected (kept marks steps) st')[j]? = some r' ∧ r.seen = r'.seen := by
  induction steps generalizing marks st st' j with
  | nil => cases marks <;> cases hs
  | cons s₀ ss ih =>
    simp only [kept_cons, run, cancellations] at hs hagree ⊢
    by_cases hout : marks[0]? = some false
    · simp only [if_pos hout] at hs hagree ⊢
      refine ih hleft.tail ?_ hs hagree
      rw [find?_step_of_ne b limit connected (hleft 0 s₀ hout rfl).1, htoken]
    · simp only [if_neg hout] at hs hagree ⊢
      have hsame (hid : s₀.instance? = some id) :=
        step_of_instance b limit connected hid htoken
          (Option.some.inj (hagree 0 s₀ (Nat.zero_le j) rfl hid))
      cases j with
      | zero =>
        obtain rfl := Option.some.inj hs
        exact ⟨_, _, rfl, rfl, (hsame hid).1⟩
      | succ j =>
        refine ih hleft.tail ?_ hs fun k s hk => hagree (k + 1) s (Nat.succ_le_succ hk)
        by_cases hid₀ : s₀.instance? = some id
        · exact (hsame hid₀).2.1
        · rw [find?_step_of_ne b limit connected hid₀, find?_step_of_ne b limit connected hid₀,
            htoken]

/-- Steps that leave the client cancelled or not unless they are about the instance keep two states
alike in its token and in the cancellation. -/
theorem alike_step {s : Step} (hquiet : s.instance? ≠ some id → s.IsUninterrupted)
    (htoken : st.tokens.find? id = st'.tokens.find? id) (hcancelled : st.cancelled = st'.cancelled) :
    let r := step ⟨.e2b b, limit⟩ connected s st
    let r' := step ⟨.e2b b, limit⟩ connected s st'
    r.2.tokens.find? id = r'.2.tokens.find? id ∧ r.2.cancelled = r'.2.cancelled := by
  intro r r'
  by_cases hid : s.instance? = some id
  · exact (step_of_instance b limit connected hid htoken hcancelled).2
  · refine ⟨?_, ?_⟩
    · simp only [r, r', find?_step_of_ne b limit connected hid, htoken]
    · have hboth {command : Command} (hc : s.command = command)
          (hcancel : command ≠ .cancel) (hrescope : command ≠ .rescope) :
          r.2.cancelled = r'.2.cancelled := by
        subst hc
        simp only [r, r', cancelled_step_of_isUninterrupted (hquiet hid) hcancel hrescope, hcancelled]
      cases hc : s.command with
      | cancel => simp only [r, r', step, hc]
      | rescope => simp only [r, r', step, hc]
      | _ => exact hboth hc nofun nofun

theorem cancellations_kept
    (hleft : Spared id marks steps)
    (hquiet : ∀ s ∈ steps, s.instance? ≠ some id → s.IsUninterrupted)
    (htoken : st.tokens.find? id = st'.tokens.find? id) (hcancelled : st.cancelled = st'.cancelled) :
    kept marks (cancellations ⟨.e2b b, limit⟩ connected steps st) =
      cancellations ⟨.e2b b, limit⟩ connected (kept marks steps) st' := by
  induction steps generalizing marks st st' with
  | nil => cases marks <;> rfl
  | cons s₀ ss ih =>
    have hquiet₀ := hquiet s₀ List.mem_cons_self
    have hquiet' (s : Step) (hs : s ∈ ss) : s.instance? ≠ some id → s.IsUninterrupted :=
      hquiet s (List.mem_cons_of_mem _ hs)
    by_cases hout : marks[0]? = some false
    · obtain ⟨hid, hcancel, hrescope⟩ := hleft 0 s₀ hout rfl
      simp only [cancellations, kept_cons, if_pos hout]
      refine ih hleft.tail hquiet' ?_ ?_
      · rw [find?_step_of_ne b limit connected hid, htoken]
      · rw [cancelled_step_of_isUninterrupted (hquiet₀ hid) hcancel hrescope, hcancelled]
    · obtain ⟨htoken', hcancelled'⟩ := alike_step b limit connected hquiet₀ htoken hcancelled
      simp only [cancellations, kept_cons, if_neg hout, hcancelled,
        ih hleft.tail hquiet' htoken' hcancelled']

end

/-- In a session without some steps that are about other instances, and with other tokens of these,
every step that is about one instance has the same result, sends the same and gives the same notices,
as long as the steps about it find the client cancelled in both sessions or in neither; and so they
do if the caller does not cancel the client during the steps that are not about it.  No step sends or
tells a token but one that was given to the instance that the step is about. -/
theorem undisturbed_run (b : E2bBackend) (limit : Option Nat) (connected : Bool) {id : String}
    {marks : List Bool} {steps : List Step} {st st' : State}
    (hleft : Spared id marks steps) (htoken : st.tokens.find? id = st'.tokens.find? id) :
    let c : Client := ⟨.e2b b, limit⟩
    let rest := kept marks steps
    let agree := fun k : Nat =>
      (kept marks (cancellations c connected steps st))[k]? =
        (cancellations c connected rest st')[k]?
    (∀ (j : Nat) (s : Step), rest[j]? = some s → s.instance? = some id →
      (∀ (k : Nat) (s : Step), k ≤ j → rest[k]? = some s → s.instance? = some id → agree k) →
      ∃ r r', (kept marks (run c connected steps st))[j]? = some r ∧
        (run c connected rest st')[j]? = some r' ∧ r.seen = r'.seen) ∧
    (st.cancelled = st'.cancelled → (∀ s ∈ steps, s.instance? ≠ some id → s.IsUninterrupted) →
      ∀ k, agree k) ∧
    ∀ (i : Nat) (s : Step) (r : Report) (token : String), steps[i]? = some s →
      (run c connected steps st)[i]? = some r → s.Discloses b r token →
      ∃ owner, s.instance? = some owner ∧ IsIssued (steps.take (i + 1)) st.tokens owner token := by
  intro c rest agree
  refine ⟨fun j s => seen_run b limit connected hleft htoken, fun hcancelled hquiet k => ?_,
    fun i s r token => isIssued_of_discloses b limit connected⟩
  simp only [agree, rest, c, cancellations_kept b limit connected hleft hquiet htoken hcancelled]

/-- Making and running another instance, and a token that it had before, make no difference to an
instance that is run afterwards. -/
theorem undisturbed_run_behind_creation :
    let b : E2bBackend := ⟨⟨"", "", "", some "http://h", some "http://h"⟩, none, ⟨0, 0⟩⟩
    let execution (id : String) : Step :=
      ⟨.call (.execute id "1" ""), [⟨false, 0, .whole 200 []⟩], none, none, none⟩
    let creation : Step :=
      ⟨.call (.createInstance ⟨none, none, none, []⟩),
        [⟨false, 0, .whole 201 (Utf8.encode "\x7b\"sandboxID\":\"b\",\"envdAccessToken\":\"u\"\x7d")⟩],
        none, none, none⟩
    let steps := [creation, execution "b", execution "a"]
    let marks := [false, false, true]
    let tokens : TokenCache := Dictionary.empty.insert "a" "t"
    ∃ r r', (kept marks (run ⟨.e2b b, none⟩ true steps ⟨tokens.insert "b" "v", false⟩))[0]? = some r ∧
      (run ⟨.e2b b, none⟩ true (kept marks steps) ⟨tokens, false⟩)[0]? = some r' ∧
      r.seen = r'.seen := by
  intro b execution creation steps marks tokens
  have hleft : Spared "a" marks steps := by
    intro i s hi hs
    match i with
    | 0 | 1 =>
      cases hs
      exact ⟨by decide +kernel, nofun, nofun⟩
    | 2 | _ + 3 => cases hi
  have hquiet : ∀ s ∈ steps, s.instance? ≠ some "a" → s.IsUninterrupted := by
    intro s hs _
    simp only [steps, List.mem_cons, List.not_mem_nil, or_false] at hs
    rcases hs with rfl | rfl | rfl
    all_goals exact ⟨rfl, by rintro r (_ | ⟨_, ⟨⟩⟩); rfl⟩
  have htoken : (⟨tokens.insert "b" "v", false⟩ : State).tokens.find? "a" =
      (⟨tokens, false⟩ : State).tokens.find? "a" := by decide +kernel
  have h := undisturbed_run b none true hleft htoken
  exact h.1 0 (execution "a") rfl rfl fun k _ _ _ _ => h.2.1 rfl hquiet k

/-- A cancellation while one instance is run ends every later call: a run of another instance that
would have sent a request fails at once behind it. -/
theorem disturbed_run_by_cancellation :
    let b : E2bBackend := ⟨⟨"", "", "", some "http://h", some "http://h"⟩, none, ⟨0, 0⟩⟩
    let execution (id : String) (reply : Reply) : Step :=
      ⟨.call (.execute id "1" ""), [reply], none, none, none⟩
    let cancelled := execution "b" ⟨true, 0, .silence⟩
    let running := execution "a" ⟨false, 0, .whole 200 []⟩
    let reports := run ⟨.e2b b, none⟩ true [cancelled, running] ⟨.empty, false⟩
    let reports' := run ⟨.e2b b, none⟩ true [running] ⟨.empty, false⟩
    cancelled.Spares "a" ∧ running.instance? = some "a" ∧
      reports[1]?.map (·.sent.length) = some 0 ∧ reports'[0]?.map (·.sent.length) = some 1 := by
  refine ⟨⟨by decide, nofun, nofun⟩, rfl, by decide +kernel, by decide +kernel⟩

end AgentSandbox.Session

import AgentSandbox.Proofs.Exchange.Action

/-!
# Deadlines

What a caller does with a deadline agrees with what it does with a later one, or with none, until it
expires: either nothing is different, or the deadline has expired, and what was sent and noticed up
to then is the beginning of what is sent and noticed otherwise.  `World.AgreesUntil` is this
relation between two runs; each point of an exchange keeps it, hence so does a whole action
(`Action.run_agreesUntil`).
-/

namespace AgentSandbox

/-- One deadline comes no later than another; no deadline at all comes last. -/
def IsSooner : Option Nat → Option Nat → Prop
  | _, none => True
  | none, some _ => False
  | some d, some d' => d ≤ d'

theorem IsSooner.any_le {d d' : Option Nat} (h : IsSooner d d') {t : Nat}
    (hd' : d'.any (· ≤ t) = true) : d.any (· ≤ t) = true := by
  cases d' with
  | none => cases hd'
  | some d' =>
    cases d with
    | none => exact h.elim
    | some d => exact decide_eq_true (Nat.le_trans h (of_decide_eq_true hd'))

/-- The caller with another deadline. -/
def Caller.until (c : Caller) (deadline : Option Nat) : Caller := { c with deadline := deadline }

namespace World

/-- What arrived and was noticed up to one world is the beginning of what did up to another. -/
structure Precedes (w w' : World) : Prop where
  sent : w.sent <+: w'.sent
  notices : w.notices <+: w'.notices

theorem Precedes.refl (w : World) : w.Precedes w :=
  ⟨List.prefix_refl _, List.prefix_refl _⟩

theorem Precedes.trans {w w' w'' : World} (h : w.Precedes w') (h' : w'.Precedes w'') :
    w.Precedes w'' :=
  ⟨h.sent.trans h'.sent, h.notices.trans h'.notices⟩

/-- Whatever happens during an exchange comes behind what happened before. -/
theorem isKept_precedes (c : Caller) (w : World) : IsKept c w.Precedes where
  elapse _ _ h _ := ⟨h.sent, h.notices⟩
  notify _ _ h := ⟨h.sent, h.notices.trans (List.prefix_append _ _)⟩
  arrive _ _ _ h _ := ⟨h.sent.trans (List.prefix_append _ _), h.notices⟩

/-- The first of two runs is the second one, or it expired on the way. -/
def AgreesUntil {ε : Type} (expired : ε) (r r' : ε × World) : Prop :=
  r = r' ∨ r.1 = expired ∧ r.2.Precedes r'.2

section

variable {c : Caller} {d d' limit : Option Nat} {late : Outcome} {w : World}

theorem wait_agreesUntil (hd : IsSooner d d') {next next' : World → Finish × World}
    (hnext : AgreesUntil .expired (next w) (next' w)) (hlater : w.Precedes (next' w).2) :
    AgreesUntil .expired (w.wait (c.until d) limit late next)
      (w.wait (c.until d') limit late next') := by
  change AgreesUntil .expired
    (if c.heeds && w.cancelled then (.cancelled, w)
      else if limit.any (· ≤ w.elapsed) then (.outcome late, w)
      else if d.any (· ≤ w.elapsed) then (.expired, w) else next w)
    (if c.heeds && w.cancelled then (.cancelled, w)
      else if limit.any (· ≤ w.elapsed) then (.outcome late, w)
      else if d'.any (· ≤ w.elapsed) then (.expired, w) else next' w)
  by_cases hc : (c.heeds && w.cancelled) = true
  · rw [if_pos hc, if_pos hc]
    exact .inl rfl
  by_cases hl : limit.any (· ≤ w.elapsed) = true
  · rw [if_neg hc, if_neg hc, if_pos hl, if_pos hl]
    exact .inl rfl
  rw [if_neg hc, if_neg hc, if_neg hl, if_neg hl]
  by_cases hexpired : d.any (· ≤ w.elapsed) = true
  · rw [if_pos hexpired]
    by_cases hexpired' : d'.any (· ≤ w.elapsed) = true
    · rw [if_pos hexpired']
      exact .inl rfl
    · rw [if_neg hexpired']
      exact .inr ⟨rfl, hlater⟩
  · rw [if_neg hexpired, if_neg fun h => hexpired (hd.any_le h)]
    exact hnext

theorem waitInVain_agreesUntil (hd : IsSooner d d') :
    AgreesUntil .expired (w.waitInVain (c.until d) limit late)
      (w.waitInVain (c.until d') limit late) := by
  have hexpired {n n' : Nat} {f : Finish} :
      AgreesUntil .expired (.expired, { w with elapsed := n }) (f, { w with elapsed := n' }) :=
    .inr ⟨rfl, List.prefix_refl _, List.prefix_refl _⟩
  cases d with
  | none =>
    cases d' with
    | none => exact .inl rfl
    | some d' => exact hd.elim
  | some d =>
    cases limit with
    | none =>
      cases d' with
      | none => exact hexpired
      | some d' => exact hexpired
    | some l =>
      simp only [waitInVain, Caller.until]
      by_cases hl : l ≤ d
      · rw [if_pos hl]
        cases d' with
        | none => exact .inl rfl
        | some d' =>
          have hl' : l ≤ d' := Nat.le_trans hl hd
          simp only [if_pos hl']
          exact .inl rfl
      · rw [if_neg hl]
        cases d' with
        | none => exact hexpired
        | some d' =>
          dsimp only
          split
          · exact hexpired
          · exact hexpired

theorem receive_agreesUntil (hd : IsSooner d d') (status : Nat) (ending : BodyEnd)
    (chunks : List Chunk) (r : Received) :
    AgreesUntil .expired (receive (c.until d) limit status ending chunks r w)
      (receive (c.until d') limit status ending chunks r w) := by
  induction chunks generalizing r w with
  | nil =>
    unfold receive
    refine wait_agreesUntil hd ?_ ?_
    · cases ending with
      | complete => exact .inl rfl
      | broken => exact .inl rfl
      | silence => exact waitInVain_agreesUntil hd
    · cases ending with
      | complete => exact (isKept_precedes _ w).isSteady.foldl_notify (.refl w) _
      | broken => exact .refl w
      | silence => exact (isKept_precedes _ w).isSteady.waitInVain (.refl w)
  | cons chunk chunks ih =>
    unfold receive
    have hsteady := (isKept_precedes (c.until d') (w.pass chunk.pause)).isSteady
    refine wait_agreesUntil hd (ih _) ?_
    exact hsteady.receive (hsteady.foldl_notify (.refl _) _) _ _ _ _

theorem respond_agreesUntil (hd : IsSooner d d') (q : Query) (response : Response) :
    AgreesUntil .expired (w.respond (c.until d) q limit response)
      (w.respond (c.until d') q limit response) := by
  cases response with
  | closed => exact .inl rfl
  | silence => exact waitInVain_agreesUntil hd
  | answer status chunks ending =>
    simp only [respond]
    split
    · exact .inl rfl
    · exact receive_agreesUntil hd status ending chunks _

theorem exchange_agreesUntil (hd : IsSooner d d') (q : Query) (w : World) :
    AgreesUntil .expired (w.exchange (c.until d) q) (w.exchange (c.until d') q) := by
  have hkept := isKept_precedes (c.until d') w
  unfold exchange
  split
  case isFalse => exact .inl rfl
  refine wait_agreesUntil hd ?_ ?_
  · cases w.link with
    | down => exact .inl rfl
    | up replies =>
      refine wait_agreesUntil hd (respond_agreesUntil hd q _) ?_
      exact (isKept_precedes _ _).isSteady.respond (.refl _) q _
  · cases hlink : w.link with
    | down => exact .refl w
    | up replies =>
      have harrive : w.Precedes (w.arrive q.request (nextReply replies)) :=
        hkept.arrive w _ _ (.refl w) hlink
      exact wait_kept (hkept.isSteady.pass harrive _) fun h => hkept.isSteady.respond h q _

end

end World

/-! ## Actions -/

namespace Action

variable {α : Type}

theorem precedes_send {c : Caller} {next : Outcome → Action α}
    (h : ∀ (o : Outcome) (w : World), w.Precedes ((next o).run c w).2) (q : Query) (w : World) :
    (w.exchange c q).2.Precedes ((Action.send q next).run c w).2 := by
  simp only [run]
  rcases w.exchange c q with ⟨o | _ | _ | _, w'⟩
  · exact h o w'
  · exact .refl w'
  · exact .refl w'
  · exact .refl w'

/-- What an action sends and has noticed comes behind what was before. -/
theorem precedes_run (c : Caller) (a : Action α) (w : World) : w.Precedes (a.run c w).2 :=
  run_kept (World.isKept_precedes c w) (fun _ _ h => ⟨h.sent, h.notices⟩) a (.refl w)

/-- An action that is carried out with a sooner deadline is the same, or it expires on the way. -/
theorem run_agreesUntil {d d' : Option Nat} (hd : IsSooner d d') (c : Caller) (a : Action α)
    (w : World) : World.AgreesUntil .expired (a.run (c.until d) w) (a.run (c.until d') w) := by
  induction a generalizing w with
  | done r => exact .inl rfl
  | token op next ih => exact ih _ _
  | send q next ih =>
    rcases World.exchange_agreesUntil (c := c) hd q w with he | ⟨he, hprecedes⟩
    · simp only [run, he]
      rcases w.exchange (c.until d') q with ⟨o | _ | _ | _, w'⟩
      · exact ih o w'
      · exact .inl rfl
      · exact .inl rfl
      · exact .inl rfl
    · -- what the other run goes on to do comes behind the exchange that expired here
      have hrest := precedes_send (fun o => precedes_run (c.until d') (next o)) q w
      have hrun : (Action.send q next).run (c.until d) w =
          (.expired, (w.exchange (c.until d) q).2) := by
        simp only [run]
        rcases hw : w.exchange (c.until d) q with ⟨finish, w'⟩
        rw [hw] at he
        subst he
        rfl
      rw [hrun]
      exact .inr ⟨rfl, hprecedes.trans hrest⟩

/-- Only an action that has a deadline expires. -/
theorem isSome_deadline_of_expired {c : Caller} {a : Action α} {w : World}
    (h : (a.run c w).1 = .expired) : c.deadline.isSome = true := by
  induction a generalizing w with
  | done r => cases h
  | token op next ih => exact ih _ h
  | send q next ih =>
    have hfounded := World.exchange_isFounded c q w
    simp only [run] at h
    rcases he : w.exchange c q with ⟨o | _ | _ | _, w'⟩
    all_goals rw [he] at h hfounded
    · exact ih o h
    · cases h
    · exact hfounded
    · cases h

end Action

end AgentSandbox

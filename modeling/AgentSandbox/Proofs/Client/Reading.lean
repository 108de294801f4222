import AgentSandbox.Proofs.Client.Session
import AgentSandbox.Proofs.Cloud.Reading
import AgentSandbox.Proofs.E2b.Reading

/-!
# Fields that the services leave out

Two steps whose first replies differ in their bodies end early and alike, or each of them goes on
with what it decodes (`Session.step_twins`).  So a field that says nothing can be left out or added,
anywhere in the body and as often as one likes, and makes no difference to the step; any field can be
left out, and what is left is still of the expected form; and only the id of a new sandbox and the
token of an instance are missed (`Session.absent_fields`).
-/

namespace AgentSandbox

open Cloud E2b Json

/-- What a call to a backend reads the reply to its first request as, if it reads it. -/
def Backend.reading? : Backend → Call → Option Reading
  | .e2b _, call => E2b.reading? call
  | .cloud _, call => some (Cloud.reading call)

theorem Backend.readsAs_action (b : Backend) {call : Call} {reading : Reading}
    (h : b.reading? call = some reading) : (b.action call).ReadsAs reading := by
  cases b with
  | e2b b => exact b.readsAs_restAction h
  | cloud b =>
    cases h
    exact b.readsAs_cloudAction call

/-- The body spells a document that is no report of an error. -/
def Reading.Spells (reading : Reading) (body : List UInt8) (d : Document) : Prop :=
  documentOf? body = some d ∧ reading.fits d

/-- Two replies with an accepted status differ in nothing but the documents in their bodies. -/
inductive Reading.Pairs (reading : Reading) (d d' : Document) :
    Reply → Reply → Prop where
  | intro {status : Nat} {body body' : List UInt8} {r r' : Reply}
      (accepted : status ∈ reading.accepts) (twins : Reply.Twins status body body' r r')
      (spells : reading.Spells body d) (spells' : reading.Spells body' d') :
      reading.Pairs d d' r r'

namespace Session

/-! ## Reports -/

/-- The sandboxes that came back. -/
def Result.instances : Result → List Instance
  | .answer (.instances page) => page.instances
  | _ => []

/-- The message of the error that came back. -/
def Result.message : Result → String
  | .error e => e.message
  | _ => ""

/-- What came back is an error with the property. -/
def Result.Fails (P : Error → Prop) (r : Result) : Prop := ∃ e, r = .error e ∧ P e

/-- What came back is no answer, and no error about the body of a reply. -/
def Result.IsEarly (r : Result) : Prop :=
  (∀ a, r ≠ .answer a) ∧ ∀ e, r = .error e → e.IsEarly

/-- The report of a call that ended, and the state that it leaves. -/
def reportOf (operation : String) (caller : Caller) (r : Ending Answer × World) : Report × State :=
  (⟨.ofCall (Client.resultOf operation caller.deadline r.1), r.2.sent, r.2.notices, r.2.tokens⟩,
    ⟨r.2.tokens, r.2.cancelled⟩)

section

variable {operation : String} {caller : Caller} {ending : Ending Answer} {w w' : World}

theorem reportOf_unlinked (h : w.unlinked = w'.unlinked) :
    reportOf operation caller (ending, w) = reportOf operation caller (ending, w') := by
  have hreport (w : World) : reportOf operation caller (ending, w) =
      reportOf operation caller (ending, w.unlinked) := rfl
  rw [hreport w, hreport w', h]

/-- An error that came back is one that the call ended with, unless the caller ended the call. -/
theorem error_of_reportOf {e : Error}
    (h : (reportOf operation caller (ending, w)).1.result = .error e) :
    ending = .finished (.error e) ∨ e.IsEarly := by
  rcases ending with (err | a) | _ | _ | _
  · cases h
    exact .inl rfl
  · cases h
  · cases h
    exact .inr trivial
  · cases h
    exact .inr trivial
  · cases h

theorem isEarly_of_reportOf (h : ending.IsEarly) :
    (reportOf operation caller (ending, w)).1.result.IsEarly := by
  refine ⟨fun a => Result.ofCall_ne_answer h.1 a, fun e he => ?_⟩
  exact (error_of_reportOf he).elim (h.2 e) id

end

/-! ## Steps with two replies -/

variable {c : Client} {s : Step} {st : State} {call : Call}

/-- The step with other replies. -/
def Step.withReplies (replies : List Reply) (s : Step) : Step := { s with replies := replies }

/-- The report of a step that is not cancelled before it begins is that of its call. -/
theorem step_eq_reportOf (hcall : s.command.call? = some call) (connected : Bool) (st : State) :
    step c connected s st =
      if (s.caller c).heeds && st.cancelled then
        (⟨.error (.cancelled call.operation), [], [], st.tokens⟩, st)
      else reportOf call.operation (s.caller c)
        ((c.backend.action call).run (s.caller c) (s.world connected st)) := by
  rw [step_of_call? hcall]
  unfold Step.perform Client.perform Client.dispatch
  by_cases hearly : ((s.caller c).heeds && st.cancelled) = true
  · have hearly' : ((s.caller c).heeds && (s.world connected st).cancelled) = true := hearly
    rw [if_pos hearly, if_pos hearly']
    rfl
  · have hearly' : ¬ ((s.caller c).heeds && (s.world connected st).cancelled) = true := hearly
    rw [if_neg hearly, if_neg hearly']
    rfl

theorem step_withReplies (hcall : s.command.call? = some call) (replies : List Reply) :
    step c true (s.withReplies replies) st =
      if (s.caller c).heeds && st.cancelled then
        (⟨.error (.cancelled call.operation), [], [], st.tokens⟩, st)
      else reportOf call.operation (s.caller c) ((c.backend.action call).run (s.caller c)
        (World.withReplies replies ⟨.down, st.tokens, st.cancelled, 0, [], []⟩)) :=
  step_eq_reportOf (s := s.withReplies replies) hcall true st

/-- With two replies that differ in their bodies a step ends early and alike, or goes on in the same
world with what it decodes of either body. -/
theorem step_twins (hcall : s.command.call? = some call) {α : Type} {reading : Reading}
    {decode : Document → Option α} {e : Error} {g : α → Action Answer}
    (reads : (c.backend.action call).Reads reading.accepts reading.fits decode e g) {status : Nat}
    (hstatus : status ∈ reading.accepts) {body body' : List UInt8} {r r' : Reply}
    (htwins : Reply.Twins status body body' r r') {d d' : Document} (hd : reading.Spells body d)
    (hd' : reading.Spells body' d') (rest : List Reply) (st : State) :
    let t := step c true (s.withReplies (r :: rest)) st
    let t' := step c true (s.withReplies (r' :: rest)) st
    t = t' ∧ t.1.result.IsEarly ∨
      ∃ w, t = reportOf call.operation (s.caller c)
          ((Action.goOn e g (decode d)).run (s.caller c) w) ∧
        t' = reportOf call.operation (s.caller c)
          ((Action.goOn e g (decode d')).run (s.caller c) w) := by
  intro t t'
  simp only [t, t', step_withReplies hcall]
  split
  · refine .inl ⟨rfl, nofun, ?_⟩
    rintro _ ⟨⟩
    trivial
  · rcases reads.run_twins hstatus htwins hd.1 hd.2 hd'.1 hd'.2 (s.caller c) rest
      ⟨.down, st.tokens, st.cancelled, 0, [], []⟩ with
      ⟨ending, w, w', hearly, hworlds, hrun, hrun'⟩ | ⟨w, hrun, hrun'⟩
    · rw [hrun, hrun']
      exact .inl ⟨reportOf_unlinked hworlds, isEarly_of_reportOf hearly⟩
    · rw [hrun, hrun']
      exact .inr ⟨w, rfl, rfl⟩

section

variable {α : Type} {reading : Reading} {decode : Document → Option α} {e : Error}
  {g : α → Action Answer} {operation : String} {caller : Caller} {w : World}

/-- If nothing was decoded then that is the error, and otherwise the reading allows the error. -/
theorem goOn_cases (later : ∀ x, (g x).Within (fun _ => True) reading.Allows) {x : Option α}
    {t : Report × State}
    (ht : t = reportOf operation caller ((Action.goOn e g x).run caller w)) :
    x = none ∧ t.1.result = .error e ∨
      x.isSome = true ∧ ∀ err, t.1.result = .error err → reading.Allows err := by
  subst ht
  cases x with
  | none => exact .inl ⟨rfl, rfl⟩
  | some x =>
    refine .inr ⟨rfl, fun err herr => ?_⟩
    rcases error_of_reportOf herr with hending | hearly
    · exact (later x).allowed_of_run (Prod.ext hending rfl)
    · exact hearly.allowed reading

end

/-- What a part of a tool or a sandbox stands for that has no zero value and is lacking. -/
structure LackingParts : Prop where
  vpc : ∀ d network, networkOfDocument? d = some network → d.Lacks ["VpcConfig"] →
    network.2 = none
  source : ∀ d source, sourceOfDocument? d = some source → d.Lacks ["Cos"] → source = none
  /-- A tag without a key or a value can be left out. -/
  tag : ∀ (t : Document) (x y : List (Option String × Document)) (before after : List Document),
    (tagOfDocument? t).isSome = true → t.Lacks ["Key"] ∨ t.Lacks ["Value"] →
    toolOfDocument? (.record (x ++ (some "Tags", .list (before ++ t :: after)) :: y)) =
      toolOfDocument? (.record (x ++ (some "Tags", .list (before ++ after)) :: y))
  /-- A sandbox without an alias has the name of its template. -/
  name : ∀ d i, listedOfDocument? d = some i → d.Lacks ["alias"] → i.toolName = i.toolId

theorem lackingParts : LackingParts where
  vpc _ _ h hd := vpc_of_lacks h hd
  source _ _ h hd := source_of_lacks h hd
  tag t x y before after ht hd := by
    obtain ⟨tag, htag⟩ := Option.isSome_iff_exists.1 ht
    obtain rfl := tag_of_lacks htag hd
    exact toolOfDocument?_without_tag htag x y before after
  name _ _ h hd := toolName_of_lacks h hd

/-- A field that says nothing can be left out of the body of a reply or added to it, known or not,
and the step is the same.  Any other field can be left out too, and this never makes the body
malformed; but if the call cannot do without the field, then its lack is the error that comes
back, and there is no other field that a call misses. -/
theorem absent_fields :
    (∀ {c : Client} {s : Step} {call : Call} {reading : Reading}, s.command.call? = some call →
      c.backend.reading? call = some reading →
      ∀ {d d' : Document} {r r' : Reply}, reading.Pairs d d' r r' →
      ∀ (rest : List Reply) (st : State),
        let t := step c true (s.withReplies (r :: rest)) st
        let t' := step c true (s.withReplies (r' :: rest)) st
        (Edits true reading.shape d d' → t = t') ∧
        (Edits false reading.shape d d' →
          (t'.1.result.Fails Error.IsMalformed → t.1.result.Fails Error.IsMalformed) ∧
          ∀ a, t.1.result = .answer a → d'.Lacks reading.needs →
            ∃ field, reading.needs.getLast? = some field ∧
              t'.1.result.Fails (Error.Lacks field)) ∧
        ∀ field, t.1.result.Fails (Error.Lacks field) → reading.needs.getLast? = some field) ∧
      LackingParts := by
  refine ⟨?_, lackingParts⟩
  intro c s call reading hcall hreading d d' r r' hpairs rest st t t'
  obtain ⟨accepted, twins, spells, spells'⟩ := hpairs
  obtain @⟨_, decode, e, g, bears, malformed, reads, later, lacking⟩ :=
    c.backend.readsAs_action hreading
  rcases step_twins hcall reads accepted twins spells spells' rest st with
    ⟨hsame, hearly⟩ | ⟨w, ht, ht'⟩
  · have hsame : t = t' := hsame
    have hearly : t.1.result.IsEarly := hearly
    refine ⟨fun _ => hsame, fun _ => ⟨fun h => hsame ▸ h, fun a ha => absurd ha (hearly.1 a)⟩, ?_⟩
    rintro field ⟨err, herr, hlacks⟩
    exact absurd hlacks ((hearly.2 err herr).not_lacks field)
  · have ht : t = _ := ht
    have ht' : t' = _ := ht'
    have hcases := goOn_cases later ht
    have hcases' := goOn_cases later ht'
    refine ⟨fun h => ?_, fun h => ⟨?_, fun a ha hlacks => ?_⟩, ?_⟩
    · have hdecoded : decode d = decode d' := h.carries bears
      rw [ht, ht', hdecoded]
    · rintro ⟨err, herr, hmalformed⟩
      rcases hcases with ⟨-, hfailed⟩ | ⟨hsome, -⟩
      · exact ⟨e, hfailed, malformed⟩
      · rcases hcases' with ⟨hnone, -⟩ | ⟨-, hallowed⟩
        · exact absurd (h.carries bears hsome) (hnone ▸ nofun)
        · exact absurd hmalformed (hallowed err herr).1
    · rcases hcases with ⟨-, hfailed⟩ | ⟨hsome, -⟩
      · cases hfailed.symm.trans ha
      · obtain ⟨x, hx⟩ := Option.isSome_iff_exists.1 (h.carries bears hsome)
        obtain ⟨err, field, hg, hneeds, herr⟩ := lacking d' x hlacks hx
        refine ⟨field, hneeds, err, ?_, herr⟩
        rw [ht', hx, Action.goOn, hg]
        rfl
    · rintro field ⟨err, herr, hlacks⟩
      rcases hcases with ⟨-, hfailed⟩ | ⟨-, hallowed⟩
      · cases hfailed.symm.trans herr
        exact absurd hlacks (malformed.not_lacks field)
      · exact (hallowed err herr).2 field hlacks

/-- A sandbox that is listed with `null` for its alias, and without one. -/
theorem absent_fields_alias :
    let b : E2bBackend := ⟨⟨"", "", "", some "http://h", none⟩, none, ⟨0, 0⟩⟩
    let listing : Step := ⟨.call (.listInstances ⟨[], none, none, none, none⟩), [], none, none, none⟩
    let reply (v : Value) : Reply := ⟨false, 0, .answer 200 [⟨0, Utf8.encode v.toText⟩] .complete⟩
    let report (v : Value) : Report × State :=
      step ⟨.e2b b, none⟩ true (listing.withReplies [reply v]) ⟨.empty, false⟩
    let given : Value := .list [.object [("sandboxID", .text "a"), ("alias", .null)]]
    let absent : Value := .list [.object [("sandboxID", .text "a")]]
    (report given).1.result.instances.map (·.id) = ["a"] ∧ report given = report absent := by
  intro b listing reply report given absent
  refine ⟨by decide +kernel, ?_⟩
  let reading : Reading := ⟨[200], fun _ => True, .list listedShape, []⟩
  have hspells (v : Value) (hv : v.Fits maxNesting) :
      reading.Spells ([(⟨0, Utf8.encode v.toText⟩ : Chunk)].flatMap (·.bytes)) (.ofValue v) :=
    ⟨by rw [List.flatMap_singleton]; exact documentOf?_toText hv, trivial⟩
  have hid : (Value.text "a").Fits 125 := .text 125 "a"
  have hfits (members : List (String × Value)) (h : ∀ m ∈ members, m.2.Fits 125) :
      (Value.list [.object members]).Fits maxNesting :=
    .list fun v hv => List.mem_singleton.1 hv ▸ .object h
  have hgiven : given.Fits maxNesting :=
    hfits _ (List.forall_mem_cons.2 ⟨hid, List.forall_mem_singleton.2 (.null 125)⟩)
  have habsent : absent.Fits maxNesting := hfits _ (List.forall_mem_singleton.2 hid)
  have hpairs : reading.Pairs (.ofValue given) (.ofValue absent) (reply given) (reply absent) :=
    .intro (List.mem_singleton.2 rfl) (.intro rfl) (hspells given hgiven) (hspells absent habsent)
  have halias : Removal true listedShape
      (.record ([(some "sandboxID", .text "a")] ++ (some "alias", .null) :: []))
      (.record ([(some "sandboxID", .text "a")] ++ [])) :=
    .known rfl (by simp) fun _ => .inl rfl
  have hitem : Removal true (.list listedShape) (.list ([] ++ _ :: [])) (.list ([] ++ _ :: [])) :=
    .item halias
  exact (absent_fields.1 (s := listing) rfl rfl hpairs [] ⟨.empty, false⟩).1 (.remove hitem (.refl _))

/-- A field may not stand twice in a record of the REST service, even if it says nothing. -/
theorem absent_field_given_twice :
    let b : E2bBackend := ⟨⟨"", "", "", some "http://h", none⟩, none, ⟨0, 0⟩⟩
    let listing (v : Value) : Step :=
      ⟨.call (.listInstances ⟨[], none, none, none, none⟩),
        [⟨false, 0, .whole 200 (Utf8.encode v.toText)⟩], none, none, none⟩
    let result (v : Value) : Result := (step ⟨.e2b b, none⟩ true (listing v) ⟨.empty, false⟩).1.result
    let once : Value := .list [.object [("sandboxID", .text "a"), ("alias", .null)]]
    let twice : Value := .list [.object [("sandboxID", .text "a"), ("alias", .null), ("alias", .null)]]
    (result once).instances.map (·.id) = ["a"] ∧
      (result twice).message = "failed to decode response from list instances: <json>" :=
  ⟨by decide +kernel, by decide +kernel⟩

end Session

end AgentSandbox

import Mathlib.Algebra.GroupWithZero.Nat
import Mathlib.Data.Finset.Card
import AgentSandbox.Proofs.Dictionary
import AgentSandbox.TokenCache

/-!
# Clients that share a token cache

What a cache binds is known from the operations alone: an id is bound to the token of the last
insertion for it, unless an eviction follows (`Binds`, `find?_afterAll_empty_iff`).  An operation
changes no binding but that of the id it is about (`find?_after_of_ne`).  Hence clients with ids of
their own do not notice each other, however their operations are interleaved (`IsInterleaving`):
each finds what it finds alone, and the cache holds as many tokens as the caches of all of them
together (`interleaved_clients`).
-/

namespace AgentSandbox.TokenCache

/-- The id that an operation is about. -/
def Operation.id : Operation → String
  | insert id _ => id
  | get id => id
  | evict id => id

/-- The operation inserts or evicts a token of the id. -/
def Operation.Changes (op : Operation) (id : String) : Prop :=
  op = .evict id ∨ ∃ token, op = .insert id token

/-- The cache after some operations. -/
def afterAll (c : TokenCache) (ops : List Operation) : TokenCache := ops.foldl after c

/-- Of some operations, the last insertion for the id is one of this token, and no eviction of the
id follows it. -/
def Binds (ops : List Operation) (id token : String) : Prop :=
  ∃ before behind, ops = before ++ .insert id token :: behind ∧ ∀ op ∈ behind, ¬op.Changes id

variable {c d : TokenCache} {op : Operation} {ops : List Operation} {id token : String}

/-! ## One operation -/

theorem find?_after_of_ne (h : op.id ≠ id) : (after c op).find? id = c.find? id := by
  cases op with
  | insert other token => exact c.find?_insert_of_ne (Ne.symm h) token
  | get other => rfl
  | evict other => exact c.find?_erase_of_ne (Ne.symm h)

/-- Caches that bind an id alike still do after the same operation. -/
theorem find?_after_congr (op : Operation) (h : c.find? id = d.find? id) :
    (after c op).find? id = (after d op).find? id := by
  by_cases hid : op.id = id
  · subst hid
    cases op with
    | insert id token =>
      exact (c.find?_insert_self id token).trans (d.find?_insert_self id token).symm
    | get id => exact h
    | evict id => exact (c.find?_erase_self id).trans (d.find?_erase_self id).symm
  · rw [find?_after_of_ne hid, find?_after_of_ne hid, h]

theorem answer_congr (h : c.find? op.id = d.find? op.id) : answer c op = answer d op := by
  cases op with
  | get id => exact h
  | _ => rfl

theorem not_changes_of_ne (h : op.id ≠ id) : ¬op.Changes id := by
  rintro (rfl | ⟨token, rfl⟩)
  · exact h rfl
  · exact h rfl

/-- An id is bound after an operation if it was inserted, or was bound before and not changed. -/
theorem find?_after_iff :
    (after c op).find? id = some token ↔
      op = .insert id token ∨ ¬op.Changes id ∧ c.find? id = some token := by
  by_cases hid : op.id = id
  · subst hid
    cases op with
    | insert id t =>
      have hfind : (after c (.insert id t)).find? id = some t := c.find?_insert_self id t
      have hchanges : (Operation.insert id t).Changes id := .inr ⟨t, rfl⟩
      simp [Operation.id, hfind, hchanges]
    | get id => simp [Operation.id, Operation.Changes, after]
    | evict id =>
      have hfind : (after c (.evict id)).find? id = none := c.find?_erase_self id
      have hchanges : (Operation.evict id).Changes id := .inl rfl
      simp [Operation.id, hfind, hchanges]
  · have hinsert : op ≠ .insert id token := fun h => hid (h ▸ rfl)
    simp only [find?_after_of_ne hid, hinsert, not_changes_of_ne hid, not_false_eq_true, true_and,
      false_or]

/-! ## Many operations -/

theorem not_binds_nil : ¬Binds [] id token := by
  rintro ⟨before, behind, h, -⟩
  exact absurd h (by simp)

theorem binds_cons_iff :
    Binds (op :: ops) id token ↔
      Binds ops id token ∨ op = .insert id token ∧ ∀ op' ∈ ops, ¬op'.Changes id := by
  constructor
  · rintro ⟨before, behind, h, hbehind⟩
    cases before with
    | nil =>
      obtain ⟨rfl, rfl⟩ := List.cons.inj h
      exact .inr ⟨rfl, hbehind⟩
    | cons x before =>
      obtain ⟨rfl, rfl⟩ := List.cons.inj h
      exact .inl ⟨before, behind, rfl, hbehind⟩
  · rintro (⟨before, behind, rfl, hbehind⟩ | ⟨rfl, hops⟩)
    · exact ⟨op :: before, behind, rfl, hbehind⟩
    · exact ⟨[], ops, rfl, hops⟩

/-- What a cache binds after some operations: what they bind, and what it bound before and they do
not change. -/
theorem find?_afterAll_iff :
    (afterAll c ops).find? id = some token ↔
      Binds ops id token ∨ (∀ op ∈ ops, ¬op.Changes id) ∧ c.find? id = some token := by
  induction ops generalizing c with
  | nil => simp [afterAll, not_binds_nil]
  | cons op ops ih =>
    rw [afterAll, List.foldl_cons, ← afterAll, ih, find?_after_iff, binds_cons_iff,
      List.forall_mem_cons]
    tauto

theorem find?_afterAll_empty_iff :
    (afterAll .empty ops).find? id = some token ↔ Binds ops id token := by
  rw [find?_afterAll_iff]
  exact or_iff_left fun h => Option.some_ne_none token h.2.symm

theorem mem_keys_afterAll_iff : id ∈ (afterAll .empty ops).keys ↔ ∃ token, Binds ops id token := by
  simp only [Dictionary.mem_keys_iff, find?_afterAll_empty_iff]

/-- An id is bound by an operation that is about it. -/
theorem exists_of_mem_keys (h : id ∈ (afterAll .empty ops).keys) : ∃ op ∈ ops, op.id = id := by
  obtain ⟨token, before, behind, rfl, -⟩ := mem_keys_afterAll_iff.1 h
  exact ⟨.insert id token, by simp, rfl⟩

/-- An operation finds what is bound after those before it. -/
theorem getElem?_run (c : TokenCache) (ops : List Operation) (i : Nat) :
    (run c ops)[i]? =
      ops[i]?.map fun op => (answer (afterAll c (ops.take i)) op, afterAll c (ops.take (i + 1))) := by
  induction ops generalizing c i with
  | nil => rfl
  | cons op ops ih =>
    cases i with
    | zero => rfl
    | succ i => exact ih (after c op) i

/-! ## Interleaved operations -/

/-- The clients take turns, in each of which one of them does its next operation, until all are
done: a list of these turns, each with the number of the client and the operation. -/
inductive IsInterleaving : List (List Operation) → List (Nat × Operation) → Prop where
  | done {clients : List (List Operation)} (h : ∀ ops ∈ clients, ops = []) :
      IsInterleaving clients []
  | turn {clients : List (List Operation)} {turns : List (Nat × Operation)} {i : Nat}
      {op : Operation} {ops : List Operation} (hi : clients[i]? = some (op :: ops))
      (h : IsInterleaving (clients.set i ops) turns) : IsInterleaving clients ((i, op) :: turns)

/-- No two clients have operations about the same id. -/
def HaveOwnIds (clients : List (List Operation)) : Prop :=
  clients.Pairwise fun ops ops' => ∀ op ∈ ops, ∀ op' ∈ ops', op.id ≠ op'.id

/-- The operations of one client among the turns of all. -/
def operationsOf (i : Nat) (turns : List (Nat × Operation)) : List Operation :=
  (turns.filter (·.1 = i)).map (·.2)

/-- What one client finds when the turns of all are carried out on one cache. -/
def foundBy (i : Nat) (c : TokenCache) (turns : List (Nat × Operation)) : List (Option String) :=
  ((turns.zip (run c (turns.map (·.2)))).filter (·.1.1 = i)).map (·.2.1)

section

variable {clients : List (List Operation)} {turns : List (Nat × Operation)} {i j : Nat}

theorem operationsOf_cons :
    operationsOf i ((j, op) :: turns) =
      if j = i then op :: operationsOf i turns else operationsOf i turns := by
  by_cases h : j = i <;> simp [operationsOf, h]

theorem foundBy_cons :
    foundBy i c ((j, op) :: turns) =
      if j = i then answer c op :: foundBy i (after c op) turns
      else foundBy i (after c op) turns := by
  by_cases h : j = i <;> simp [foundBy, run, h]

theorem mem_operationsOf {turn : Nat × Operation} (h : turn ∈ turns) :
    turn.2 ∈ operationsOf turn.1 turns :=
  List.mem_map_of_mem (List.mem_filter.2 ⟨h, decide_eq_true rfl⟩)

theorem exists_of_mem_operationsOf (h : op ∈ operationsOf i turns) : (i, op) ∈ turns := by
  obtain ⟨turn, hturn, rfl⟩ := List.mem_map.1 h
  obtain ⟨hmem, hi⟩ := List.mem_filter.1 hturn
  obtain rfl := of_decide_eq_true hi
  exact hmem

/-- In their turns the clients do all their operations, in their order. -/
theorem IsInterleaving.operationsOf_eq (h : IsInterleaving clients turns) (i : Nat) :
    operationsOf i turns = clients[i]?.getD [] := by
  induction h with
  | @done clients h =>
    cases hi : clients[i]? with
    | none => rfl
    | some ops => exact (h ops (List.mem_of_getElem? hi)).symm
  | @turn clients turns j op ops hj _ ih =>
    rw [operationsOf_cons, ih]
    by_cases hij : j = i
    · subst hij
      have hlt := (List.getElem?_eq_some_iff.1 hj).1
      rw [if_pos rfl, List.getElem?_set_self hlt, hj]
      rfl
    · rw [if_neg hij, List.getElem?_set_ne hij]

theorem IsInterleaving.exists_client (h : IsInterleaving clients turns) {turn : Nat × Operation}
    (hturn : turn ∈ turns) : ∃ ops, clients[turn.1]? = some ops ∧ turn.2 ∈ ops := by
  have hop := mem_operationsOf hturn
  rw [h.operationsOf_eq] at hop
  cases hi : clients[turn.1]? with
  | none =>
    rw [hi] at hop
    cases hop
  | some ops =>
    rw [hi] at hop
    exact ⟨ops, rfl, hop⟩

/-- Each turn about an id belongs to the one client that has the id. -/
def OneEach (turns : List (Nat × Operation)) : Prop :=
  ∀ turn ∈ turns, ∀ turn' ∈ turns, turn.2.id = turn'.2.id → turn.1 = turn'.1

theorem IsInterleaving.oneEach (h : IsInterleaving clients turns) (hown : HaveOwnIds clients) :
    OneEach turns := by
  intro turn hturn turn' hturn' hid
  obtain ⟨ops, hops, hop⟩ := h.exists_client hturn
  obtain ⟨ops', hops', hop'⟩ := h.exists_client hturn'
  obtain ⟨hi, rfl⟩ := List.getElem?_eq_some_iff.1 hops
  obtain ⟨hi', rfl⟩ := List.getElem?_eq_some_iff.1 hops'
  rcases Nat.lt_trichotomy turn.1 turn'.1 with hlt | heq | hlt
  · exact absurd hid (List.pairwise_iff_getElem.1 hown _ _ hi hi' hlt _ hop _ hop')
  · exact heq
  · exact absurd hid.symm (List.pairwise_iff_getElem.1 hown _ _ hi' hi hlt _ hop' _ hop)

/-- What is bound to an id depends only on the turns of the client that has the id. -/
theorem find?_afterAll_operationsOf (hid : ∀ turn ∈ turns, turn.2.id = id → turn.1 = i)
    (h : c.find? id = d.find? id) :
    (afterAll c (turns.map (·.2))).find? id = (afterAll d (operationsOf i turns)).find? id := by
  induction turns generalizing c d with
  | nil => exact h
  | cons turn turns ih =>
    obtain ⟨j, op⟩ := turn
    obtain ⟨hop, hid⟩ := List.forall_mem_cons.1 hid
    rw [operationsOf_cons]
    by_cases hj : j = i
    · rw [if_pos hj]
      exact ih hid (find?_after_congr op h)
    · rw [if_neg hj]
      exact ih hid ((find?_after_of_ne fun hop' => hj (hop hop')).trans h)

/-- A client finds what it finds alone on a cache that binds its ids alike. -/
theorem foundBy_eq (hone : OneEach turns)
    (h : ∀ op ∈ operationsOf i turns, c.find? op.id = d.find? op.id) :
    foundBy i c turns = (run d (operationsOf i turns)).map (·.1) := by
  induction turns generalizing c d with
  | nil => rfl
  | cons turn turns ih =>
    obtain ⟨j, op⟩ := turn
    have hone' : OneEach turns := fun turn hturn turn' hturn' =>
      hone turn (List.mem_cons_of_mem _ hturn) turn' (List.mem_cons_of_mem _ hturn')
    rw [foundBy_cons, operationsOf_cons]
    rw [operationsOf_cons] at h
    by_cases hj : j = i
    · rw [if_pos hj] at h ⊢
      obtain ⟨hop, hops⟩ := List.forall_mem_cons.1 h
      rw [if_pos hj, run, List.map_cons, answer_congr hop,
        ih hone' fun op' hop' => find?_after_congr op (hops op' hop')]
    · rw [if_neg hj] at h ⊢
      have hne (op') (hop' : op' ∈ operationsOf i turns) : op.id ≠ op'.id := fun heq =>
        hj (hone (j, op) List.mem_cons_self (i, op')
          (List.mem_cons_of_mem _ (exists_of_mem_operationsOf hop')) heq)
      rw [if_neg hj]
      exact ih hone' fun op' hop' => (find?_after_of_ne (hne op' hop')).trans (h op' hop')

/-- The shared cache binds an id as the client does alone that has the id. -/
theorem IsInterleaving.find?_afterAll (h : IsInterleaving clients turns)
    (hown : HaveOwnIds clients) (hturn : (i, op) ∈ turns) :
    (afterAll .empty (turns.map (·.2))).find? op.id =
      (afterAll .empty (clients[i]?.getD [])).find? op.id := by
  rw [← h.operationsOf_eq]
  exact find?_afterAll_operationsOf
    (fun turn hturn' hid => h.oneEach hown turn hturn' (i, op) hturn hid) rfl

/-- The keys of the shared cache are those that the clients have alone. -/
theorem IsInterleaving.mem_keys_iff (h : IsInterleaving clients turns) (hown : HaveOwnIds clients) :
    id ∈ (afterAll .empty (turns.map (·.2))).keys ↔
      ∃ ops ∈ clients, id ∈ (afterAll .empty ops).keys := by
  constructor
  · intro hkey
    obtain ⟨op, hop, rfl⟩ := exists_of_mem_keys hkey
    obtain ⟨⟨i, op⟩, hturn, rfl⟩ := List.mem_map.1 hop
    obtain ⟨ops, hi, -⟩ := h.exists_client hturn
    rw [Dictionary.mem_keys_iff, h.find?_afterAll hown hturn, hi, ← Dictionary.mem_keys_iff] at hkey
    exact ⟨ops, List.mem_of_getElem? hi, hkey⟩
  · rintro ⟨ops, hops, hkey⟩
    obtain ⟨op, hop, rfl⟩ := exists_of_mem_keys hkey
    obtain ⟨i, hi⟩ := List.getElem?_of_mem hops
    have hturn : (i, op) ∈ turns := exists_of_mem_operationsOf (by rwa [h.operationsOf_eq, hi])
    rw [Dictionary.mem_keys_iff, h.find?_afterAll hown hturn, hi]
    exact Dictionary.mem_keys_iff.1 hkey

/-- The shared cache holds as many tokens as the caches that the clients have alone. -/
theorem IsInterleaving.size_eq (h : IsInterleaving clients turns) (hown : HaveOwnIds clients) :
    (afterAll .empty (turns.map (·.2))).size =
      (clients.map fun ops => (afterAll .empty ops).size).sum := by
  have hdisjoint : (clients.map fun ops => (afterAll .empty ops).keys).Pairwise List.Disjoint := by
    refine List.pairwise_map.2 (hown.imp fun hids id hid hid' => ?_)
    obtain ⟨op, hop, rfl⟩ := exists_of_mem_keys hid
    obtain ⟨op', hop', hop'id⟩ := exists_of_mem_keys hid'
    exact hids op hop op' hop' hop'id.symm
  have hnodup : (clients.map fun ops => (afterAll .empty ops).keys).flatten.Nodup := by
    refine List.nodup_flatten.2 ⟨fun keys hkeys => ?_, hdisjoint⟩
    obtain ⟨ops, -, rfl⟩ := List.mem_map.1 hkeys
    exact Dictionary.nodup_keys _
  have hperm : (afterAll .empty (turns.map (·.2))).keys.Perm
      (clients.map fun ops => (afterAll .empty ops).keys).flatten := by
    refine (List.perm_ext_iff_of_nodup (Dictionary.nodup_keys _) hnodup).2 fun id => ?_
    rw [h.mem_keys_iff hown, List.mem_flatten]
    simp only [List.mem_map, exists_exists_and_eq_and]
  rw [← Dictionary.length_keys, hperm.length_eq, List.length_flatten, List.map_map]
  exact congrArg List.sum (List.map_congr_left fun ops _ => Dictionary.length_keys _)

end

/-- Clients with ids of their own share a cache: however their operations are interleaved, each of
them finds what it finds alone, and in the end the cache holds as many tokens as the caches of all
of them alone.  Whatever the operations are, a lookup finds the token of the last insertion for the id
unless it was evicted since, and the cache holds one token for each id that is so bound. -/
theorem interleaved_clients :
    (∀ clients turns, IsInterleaving clients turns → HaveOwnIds clients →
      (∀ i ops, clients[i]? = some ops →
        foundBy i .empty turns = (run .empty ops).map (·.1)) ∧
      (afterAll .empty (turns.map (·.2))).size =
        (clients.map fun ops => (afterAll .empty ops).size).sum) ∧
    ∀ ops : List Operation,
      (∀ i id, ops[i]? = some (.get id) → ∃ found cache, (run .empty ops)[i]? = some (found, cache) ∧
        ∀ token, found = some token ↔ Binds (ops.take i) id token) ∧
      ∃ ids : Finset String, (∀ id, id ∈ ids ↔ ∃ token, Binds ops id token) ∧
        (afterAll .empty ops).size = ids.card := by
  refine ⟨fun clients turns h hown => ⟨fun i ops hi => ?_, h.size_eq hown⟩,
    fun ops => ⟨fun i id hi => ?_, ?_⟩⟩
  · rw [foundBy_eq (h.oneEach hown) fun _ _ => rfl, h.operationsOf_eq, hi]
    rfl
  · rw [getElem?_run, hi]
    exact ⟨_, _, rfl, fun token => find?_afterAll_empty_iff⟩
  · refine ⟨⟨(afterAll .empty ops).keys, Dictionary.nodup_keys _⟩,
      fun id => mem_keys_afterAll_iff, (Dictionary.length_keys _).symm⟩

/-- Two clients, of which one evicts its token and the other replaces its own and evicts an unknown
id, and one that does nothing. -/
theorem interleaved_clients_in_turns :
    let one : List Operation := [.insert "a" "1", .get "a", .evict "a", .get "a"]
    let other : List Operation := [.insert "b" "1", .insert "b" "2", .evict "c", .get "b"]
    let turns : List (Nat × Operation) :=
      [(0, .insert "a" "1"), (1, .insert "b" "1"), (1, .insert "b" "2"), (0, .get "a"),
        (0, .evict "a"), (1, .evict "c"), (1, .get "b"), (0, .get "a")]
    IsInterleaving [one, other, []] turns ∧ HaveOwnIds [one, other, []] ∧
      foundBy 0 .empty turns = [none, some "1", none, none] ∧
      foundBy 1 .empty turns = [none, none, none, some "2"] ∧
      (afterAll .empty (turns.map (·.2))).size = 1 := by
  intro one other turns
  have h : IsInterleaving [one, other, []] turns :=
    .turn rfl <| .turn rfl <| .turn rfl <| .turn rfl <| .turn rfl <| .turn rfl <| .turn rfl <|
      .turn rfl <| .done (by simp)
  have hown : HaveOwnIds [one, other, []] := by
    simp [HaveOwnIds, one, other, Operation.id]
  obtain ⟨hfound, hsize⟩ := interleaved_clients.1 _ turns h hown
  refine ⟨h, hown, (hfound 0 one rfl).trans ?_, (hfound 1 other rfl).trans ?_, hsize.trans ?_⟩
  · decide +kernel
  · decide +kernel
  · decide +kernel

end AgentSandbox.TokenCache

import AgentSandbox.Client.Basic
import AgentSandbox.Proofs.E2b.Form
import AgentSandbox.Proofs.Exchange.Bodies
import AgentSandbox.Proofs.Model.Query

/-!
# The directory and its pages

The service gives all of its sandboxes at once, a directory, and a query chooses among them.  Its
answers are the sandboxes with its ids, or else a part of those that it admits, together with the
number of all of these (`pages_pageOf`).
-/

namespace AgentSandbox

open E2b Json

/-! ## The directory -/

namespace E2bBackend

/-- The directory that the request for it brought. -/
def directoryOf (o : Outcome) : Except Error (List Instance) :=
  (o.accepted listErrand.context listErrand.accepts fun f =>
      .inContext listErrand.context (.transport f)).bind
    (·.decode "list instances" (Document.listOf? listedOfDocument?))

theorem listAll_eq_send {b : E2bBackend} {url : Url} (h : b.sandboxesUrl none = .ok url) :
    b.listAll = .send ⟨⟨.get, url, b.headers, ""⟩, b.limit, listErrand.reception⟩
      fun o => .done (directoryOf o) := by
  unfold listAll run
  rw [h]
  refine congrArg (Action.send _) (funext fun o => ?_)
  unfold directoryOf
  dsimp only
  cases Outcome.accepted .. <;> rfl

/-- The directory comes with the reply to one request, unless there is no URL to send it to. -/
theorem listAll_cases (b : E2bBackend) :
    (∃ e, b.sandboxesUrl none = .error e ∧ b.listAll = .fail e) ∨
      ∃ query, b.listAll = .send query fun o => .done (directoryOf o) := by
  cases h : b.sandboxesUrl none with
  | error e =>
    refine .inl ⟨e, rfl, ?_⟩
    unfold listAll run
    rw [h]
    rfl
  | ok url => exact .inr ⟨_, listAll_eq_send h⟩

theorem directoryOf_whole {received : Received} {d : Document} {is : List Instance}
    (hd : documentOf? received.bytes = some d)
    (his : Document.listOf? listedOfDocument? d = some is) :
    directoryOf (.reply 200 received none) = .ok is := by
  have haccepted : Outcome.accepted listErrand.context listErrand.accepts
      (fun f => .inContext listErrand.context (.transport f)) (.reply 200 received none) =
      .ok ⟨received, none⟩ := rfl
  rw [directoryOf, haccepted, Except.bind, Content.decode_whole, hd, Option.bind_some, his]

end E2bBackend

/-! ## Queries -/

/-- What the query says of the tool and of the status is true of the instance. -/
def InstanceQuery.Admits (q : InstanceQuery) (i : Instance) : Prop :=
  (∀ id ∈ q.toolId, i.toolId = id) ∧ ∀ status ∈ q.status, i.status = status

instance (q : InstanceQuery) (i : Instance) : Decidable (q.Admits i) :=
  inferInstanceAs (Decidable (_ ∧ _))

/-- The instances of a directory that the query admits, in their order. -/
def InstanceQuery.admitted (q : InstanceQuery) (is : List Instance) : List Instance :=
  is.filter (q.Admits ·)

/-- The query with another offset and limit. -/
def InstanceQuery.paged (q : InstanceQuery) (offset limit : Option Nat) : InstanceQuery :=
  { q with offset := offset, limit := limit }

namespace E2b

theorem status_of_listed {d : Document} {i : Instance} (h : listedOfDocument? d = some i) :
    i.status = assumedStatus := by
  simp only [listedOfDocument?, Option.bind_eq_bind, Option.bind_eq_some_iff,
    Option.some.injEq] at h
  obtain ⟨_, -, _, -, _, -, _, -, _, -, rfl⟩ := h
  rfl

variable {q : InstanceQuery} {is : List Instance}

theorem matchesQuery_of_nil (h : q.instanceIds = []) (i : Instance) :
    matchesQuery q i = decide (q.Admits i) := by
  obtain ⟨ids, toolId, status, offset, limit⟩ := q
  obtain rfl : ids = [] := h
  cases toolId <;> cases status <;> simp [matchesQuery, InstanceQuery.Admits]

theorem matchesQuery_of_ids (h : q.instanceIds ≠ []) (i : Instance) :
    matchesQuery q i = decide (i.id ∈ q.instanceIds) := by
  rw [matchesQuery, if_neg fun hempty => h (List.isEmpty_iff.1 hempty)]
  exact List.contains_eq_mem ..

theorem pageOf_of_ids (h : q.instanceIds ≠ []) :
    pageOf q is =
      ⟨is.filter (·.id ∈ q.instanceIds), (is.filter (·.id ∈ q.instanceIds)).length⟩ := by
  rw [pageOf, funext (matchesQuery_of_ids h)]
  dsimp only
  rw [if_neg fun hempty => h (List.isEmpty_iff.1 hempty)]

theorem take_length_drop {α : Type} (xs : List α) (n : Nat) :
    (xs.drop n).take xs.length = xs.drop n := by
  refine List.take_of_length_le ?_
  rw [List.length_drop]
  exact Nat.sub_le ..

theorem pageOf_of_nil (h : q.instanceIds = []) :
    pageOf q is =
      ⟨((q.admitted is).drop (q.offset.getD 0)).take (q.limit.getD (q.admitted is).length),
        (q.admitted is).length⟩ := by
  have hfound : is.filter (matchesQuery q) = q.admitted is :=
    congrArg (is.filter ·) (funext (matchesQuery_of_nil h))
  rw [pageOf, hfound]
  dsimp only
  rw [if_pos (List.isEmpty_iff.2 h)]
  refine congrArg (InstancePage.mk · _) ?_
  cases q.limit with
  | some n => rfl
  | none => exact (take_length_drop _ _).symm

/-! ## Pages -/

/-- The pages of one size, side by side. -/
theorem flatMap_pages {α : Type} (xs : List α) (size n : Nat) :
    ((List.range n).flatMap fun k => (xs.drop (k * size)).take size) = xs.take (n * size) := by
  induction n with
  | zero => rw [Nat.zero_mul, List.take_zero, List.range_zero, List.flatMap_nil]
  | succ n ih =>
    rw [List.range_succ, List.flatMap_append, ih, List.flatMap_singleton, Nat.succ_mul,
      List.take_add]

/-- The pages with which queries for the instances of a directory are answered. -/
structure Pages (is : List Instance) (page : InstanceQuery → InstancePage) : Prop where
  /-- A query with ids is answered with the instances that have one of these ids, whatever else it
  says. -/
  byIds (q : InstanceQuery) : q.instanceIds ≠ [] →
    page q = ⟨is.filter (·.id ∈ q.instanceIds), (is.filter (·.id ∈ q.instanceIds)).length⟩
  /-- A query without ids is told the number of all instances that it admits. -/
  total (q : InstanceQuery) : q.instanceIds = [] → (page q).totalCount = (q.admitted is).length
  /-- Without an offset and a limit, it is answered with these instances. -/
  unpaged (q : InstanceQuery) : q.instanceIds = [] →
    (page (q.paged none none)).instances = q.admitted is
  /-- Its offset and its limit cut off the beginning and the end. -/
  part (q : InstanceQuery) : q.instanceIds = [] →
    (page q).instances =
      ((q.admitted is).drop (q.offset.getD 0)).take (q.limit.getD (q.admitted is).length)
  /-- The pages of one size, side by side, are the unpaged answer, once there are enough of them. -/
  whole (q : InstanceQuery) (size n : Nat) : q.instanceIds = [] →
    (page q).totalCount ≤ n * size →
    ((List.range n).flatMap fun k => (page (q.paged (some (k * size)) (some size))).instances) =
      (page (q.paged none none)).instances

theorem pages_pageOf (is : List Instance) : Pages is fun q => pageOf q is := by
  have hpaged (q : InstanceQuery) (offset limit : Option Nat) (h : q.instanceIds = []) :
      (pageOf (q.paged offset limit) is).instances =
        ((q.admitted is).drop (offset.getD 0)).take (limit.getD (q.admitted is).length) :=
    congrArg InstancePage.instances (pageOf_of_nil (q := q.paged offset limit) h)
  have hunpaged (q : InstanceQuery) (h : q.instanceIds = []) :
      (pageOf (q.paged none none) is).instances = q.admitted is :=
    (hpaged q none none h).trans List.take_length
  refine ⟨fun q => pageOf_of_ids, fun q h => ?_, hunpaged, fun q => hpaged q q.offset q.limit,
    fun q size n h htotal => ?_⟩
  · rw [pageOf_of_nil h]
  · rw [pageOf_of_nil h] at htotal
    simp only [hpaged q _ (some size) h]
    exact (flatMap_pages _ size n).trans
      ((List.take_of_length_le htotal).trans (hunpaged q h).symm)

/-! ## Tidy queries -/

theorem admits_tidy {i : Instance} (h : q.Admits i) : q.tidy.Admits i :=
  ⟨fun id hid => h.1 id (Option.mem_filter_iff.1 hid).1,
    fun status hstatus => h.2 status (Option.mem_filter_iff.1 hstatus).1⟩

theorem admitted_eq_filter_tidy (q : InstanceQuery) (is : List Instance) :
    q.admitted is = (q.tidy.admitted is).filter (q.Admits ·) := by
  rw [InstanceQuery.admitted, InstanceQuery.admitted, List.filter_filter]
  refine List.filter_congr fun i _ => ?_
  by_cases h : q.Admits i
  · simp [h, admits_tidy h]
  · simp [h]

/-- A query admits as many instances as the tidy one just if it admits the same. -/
theorem length_admitted_tidy_iff :
    (q.admitted is).length = (q.tidy.admitted is).length ↔
      ∀ i ∈ is, q.tidy.Admits i → q.Admits i := by
  rw [admitted_eq_filter_tidy, List.length_filter_eq_length_iff]
  simp [InstanceQuery.admitted]

theorem admitted_tidy_of_imp (h : ∀ i ∈ is, q.tidy.Admits i → q.Admits i) :
    q.tidy.admitted is = q.admitted is := by
  rw [admitted_eq_filter_tidy q]
  refine (List.filter_eq_self.2 fun i hi => ?_).symm
  obtain ⟨hi, htidy⟩ := List.mem_filter.1 hi
  exact decide_eq_true (h i hi (of_decide_eq_true htidy))

/-- A limit of zero cuts nothing off just if there is nothing behind the offset. -/
theorem take_nonZero_iff {α : Type} (xs : List α) (offset : Nat) (limit : Option Nat) :
    (xs.drop offset).take (limit.getD xs.length) =
        (xs.drop offset).take ((nonZero limit).getD xs.length) ↔
      (limit = some 0 → xs.length ≤ offset) := by
  by_cases hlimit : limit = some 0
  · subst hlimit
    have hnone : (nonZero (some 0)).getD xs.length = xs.length := rfl
    rw [hnone, take_length_drop, Option.getD_some, List.take_zero, eq_comm, List.drop_eq_nil_iff]
    simp only [forall_const]
  · rw [nonZero_eq_self_iff.2 hlimit]
    exact ⟨fun _ h => absurd h hlimit, fun _ => rfl⟩

/-- A query and the tidy one are answered alike just if they have ids, or an empty text excludes no
instance and a limit of zero cuts nothing off. -/
theorem pageOf_tidy_iff :
    pageOf q is = pageOf q.tidy is ↔ (q.instanceIds = [] →
      (∀ i ∈ is, q.tidy.Admits i → q.Admits i) ∧
        (q.limit = some 0 → (q.admitted is).length ≤ q.offset.getD 0)) := by
  by_cases hids : q.instanceIds = []
  · have htidyIds : q.tidy.instanceIds = [] := hids
    rw [pageOf_of_nil hids, pageOf_of_nil htidyIds, InstancePage.mk.injEq, length_admitted_tidy_iff]
    simp only [hids, forall_const]
    rw [and_comm]
    refine and_congr_right fun himp => ?_
    rw [admitted_tidy_of_imp himp]
    simp only [InstanceQuery.tidy, getD_nonZero]
    exact take_nonZero_iff _ _ _
  · have htidyIds : q.tidy.instanceIds ≠ [] := hids
    rw [pageOf_of_ids hids, pageOf_of_ids htidyIds]
    exact ⟨fun _ hnil => absurd hnil hids, fun _ => rfl⟩

end E2b

end AgentSandbox

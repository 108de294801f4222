import AgentSandbox.Execution.Form
import AgentSandbox.Proofs.Json.Rereading

/-!
# The JSON form of an output is read again

A fault and an output are decoded as they were written.  A payload is an object of any kind, so an
output is read again if the payloads of its results are in order and fit into its text, as those
do that a text is decoded as and that hold no float.
-/

namespace AgentSandbox.Execution

open Json

namespace Fault

theorem fits_form (f : Fault) {room : Nat} : f.form.Fits (room + 1) := by
  refine Value.fits_givenMembers ?_
  by_cases h : f.traceback.isEmpty <;> simp [h]

theorem ofDocument?_form (f : Fault) : ofDocument? (.ofValue f.form) = some f := by
  obtain ⟨name, value, traceback⟩ := f
  by_cases h : traceback.isEmpty
  · obtain rfl := String.isEmpty_iff.1 h
    rfl
  · rw [form, if_neg h]
    rfl

theorem isStable : IsStable ofDocument? form :=
  isStable_of (fun f => f.fits_form) ofDocument?_form

end Fault

/-- An object in order is decoded as the payload that it is. -/
theorem payload?_ofValue {ms : List (String × Value)} (h : (Value.object ms).IsOrdered) :
    payload? (.ofValue (.object ms)) = some ms := by
  rw [payload?, Document.value?_ofValue h]
  rfl

namespace Output

/-- No payload of a result holds a float. -/
def IsIntegral (o : Output) : Prop := ∀ payload ∈ o.results, (Value.object payload).IsIntegral

theorem fits_form {o : Output} {room : Nat}
    (h : ∀ payload ∈ o.results, (Value.object payload).Fits (room + 1)) :
    o.form.Fits (room + 3) := by
  have hfault : Value.GivenFits (room + 2) (o.fault.map Fault.form) :=
    Value.givenFits_map fun f => f.fits_form
  refine Value.fits_givenMembers ?_
  by_cases hnone : o.results.isEmpty
  · simp [hnone, hfault]
  · simpa [hnone, hfault] using h

/-- An output is decoded as it was written if its payloads are in order. -/
theorem ofDocument?_form {o : Output}
    (h : ∀ payload ∈ o.results, (Value.object payload).IsOrdered) :
    ofDocument? (.ofValue o.form) = some o := by
  obtain ⟨stdout, stderr, results, fault⟩ := o
  have hresults : (Document.ofValue (.list (results.map Value.object))).listOf? payload? =
      some results :=
    Document.listOf?_map fun payload hmem => payload?_ofValue (h payload hmem)
  have hfault (f : Fault) :
      (Document.ofValue f.form).nullable? Fault.ofDocument? = some (some f) := by
    rw [nullable?_of_ne (by nofun), f.ofDocument?_form]
    rfl
  have hparts {gotResults : Option (List (List (String × Value)))} {gotFault : Option (Option Fault)}
      (hgotResults : gotResults = some results) (hgotFault : gotFault = some fault) :
      (((Document.ofValue (.texts stdout)).listOf? Document.text?).bind fun stdout =>
        ((Document.ofValue (.texts stderr)).listOf? Document.text?).bind fun stderr =>
        gotResults.bind fun results =>
        gotFault.bind fun fault => some (Output.mk stdout stderr results fault)) =
      some ⟨stdout, stderr, results, fault⟩ := by
    rw [Document.listOf?_texts, Document.listOf?_texts, hgotResults, hgotFault]
    rfl
  -- Which members are written depends on whether there are results and a fault.
  cases results with
  | nil =>
    cases fault with
    | none => exact hparts rfl rfl
    | some f => exact hparts rfl (hfault f)
  | cons payload payloads =>
    cases fault with
    | none => exact hparts hresults rfl
    | some f => exact hparts hresults (hfault f)

/-- A payload that a bounded document gives is in order, and it fits if it holds no float. -/
theorem meaning_of_payload? {room : Nat} {d : Document} (hd : d.IsBounded room)
    {payload : List (String × Value)} (h : payload? d = some payload) :
    (Value.object payload).IsOrdered ∧
      ((Value.object payload).IsIntegral → (Value.object payload).Fits room) := by
  obtain ⟨v, hv, hmembers⟩ := Option.bind_eq_some_iff.1 h
  cases v with
  | object ms =>
    cases hmembers
    exact hd.meaning hv
  | _ => cases hmembers

/-- Every payload of an output that a bounded document gives comes from a part two levels below. -/
theorem exists_of_mem_results {room : Nat} {d : Document} (hd : d.IsBounded room) {o : Output}
    (h : ofDocument? d = some o) {payload : List (String × Value)} (hmem : payload ∈ o.results) :
    ∃ e : Document, e.IsBounded (room - 2) ∧ payload? e = some payload := by
  unfold ofDocument? at h
  simp only [Option.bind_eq_bind, Option.bind_eq_some_iff] at h
  obtain ⟨fs, hfs, stdout, -, stderr, -, results, hresults, fault, -, ⟨⟩⟩ := h
  unfold Fields.orDefault at hresults
  split at hresults
  · cases hresults
    cases hmem
  · next e he =>
    have hbounded := hd.of_lookup? hfs he
    obtain ⟨items, rfl, item, hitem, hpayload⟩ := Document.exists_of_mem_listOf? hresults hmem
    refine ⟨item, ?_, hpayload⟩
    generalize hk : room - 1 = k at hbounded
    cases hbounded with
    | @list k _ hitems =>
      obtain rfl : room - 2 = k := by omega
      exact hitems item hitem

/-- An output whose payloads hold no float is stable. -/
theorem isStableOn : IsStableOn IsIntegral ofDocument? form := by
  refine isStableOn_of fun d o hd ho hintegral => ?_
  have hpayload (payload) (hmem : payload ∈ o.results) :
      (Value.object payload).IsOrdered ∧ (Value.object payload).Fits (maxNesting - 2) := by
    obtain ⟨e, hbounded, he⟩ := exists_of_mem_results hd ho hmem
    obtain ⟨hordered, hfits⟩ := meaning_of_payload? hbounded he
    exact ⟨hordered, hfits (hintegral payload hmem)⟩
  exact ⟨fits_form fun payload hmem => (hpayload payload hmem).2,
    ofDocument?_form fun payload hmem => (hpayload payload hmem).1⟩

end Output

end AgentSandbox.Execution

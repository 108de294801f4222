import AgentSandbox.Error

/-!
# What contexts leave of an error

`Error.Wraps` says that an error is another one behind some contexts: its message begins with them,
and everything else that a caller asks of it has the same answer.  One context more keeps that
(`Wraps.inContext`), and so any number of them do (`wraps_inContexts`).  Every error is its root
behind some contexts (`exists_eq_inContexts_root`), and the root stands behind none
(`root_ne_inContext`).  Since the root alone decides what a caller does about an error, no two of
the verdicts on it can hold (`count_verdicts_le`, `verdicts_of_partialOutput?`).
-/

namespace AgentSandbox.Error

variable {e w : Error} {contexts : List String}

/-! ## Roots -/

theorem root_ne_inContext (e : Error) (context : String) (cause : Error) :
    e.root ≠ .inContext context cause := by
  induction e with
  | inContext _ _ ih => exact ih
  | _ => exact nofun

theorem inContexts_append_singleton (e : Error) (contexts : List String) (context : String) :
    e.inContexts (contexts ++ [context]) = .inContext context (e.inContexts contexts) := by
  rw [inContexts, List.foldl_append]
  rfl

theorem exists_eq_inContexts_root (e : Error) : ∃ contexts, e = e.root.inContexts contexts := by
  induction e with
  | inContext context cause ih =>
    obtain ⟨contexts, hcause⟩ := ih
    refine ⟨contexts ++ [context], ?_⟩
    rw [root_inContext, inContexts_append_singleton, ← hcause]
  | _ => exact ⟨[], rfl⟩

/-- The root is one cause, and so at most one verdict on the error holds: that the operation is not
offered, that there is no such object, or that the caller ended the call. -/
theorem count_verdicts_le (e : Error) :
    [e.isUnsupported, e.isNotFound, e.isCancelled].count true ≤ 1 := by
  rw [isUnsupported, isNotFound, isCancelled]
  cases e.root <;> simp

/-- Output is left only by an execution that broke, which is none of these. -/
theorem verdicts_of_partialOutput? {output : Execution.Output}
    (h : e.partialOutput? = some output) :
    e.isUnsupported = false ∧ e.isNotFound = false ∧ e.isCancelled = false := by
  rw [isUnsupported, isNotFound, isCancelled]
  rw [partialOutput?] at h
  cases hroot : e.root with
  | interrupted => exact ⟨rfl, rfl, rfl⟩
  | _ =>
    rw [hroot] at h
    cases h

/-! ## Contexts -/

/-- What some contexts put in front of a message, the first of them outermost. -/
def preamble (contexts : List String) : String :=
  String.join (contexts.map (· ++ ": "))

theorem preamble_append (contexts contexts' : List String) :
    preamble (contexts ++ contexts') = preamble contexts ++ preamble contexts' := by
  rw [preamble, List.map_append, String.join_append]
  rfl

theorem preamble_singleton (context : String) : preamble [context] = context ++ ": " := by
  rw [preamble, List.map_singleton, String.join_cons, String.join_nil, String.append_empty]

/-- The error `w` is the error `e` behind some contexts, the first of them outermost. -/
structure Wraps (w : Error) (contexts : List String) (e : Error) : Prop where
  root : w.root = e.root
  isUnsupported : w.isUnsupported = e.isUnsupported
  isNotFound : w.isNotFound = e.isNotFound
  isCancelled : w.isCancelled = e.isCancelled
  partialOutput? : w.partialOutput? = e.partialOutput?
  message : w.message = preamble contexts ++ e.message

namespace Wraps

/-- Everything but the message is asked of the root. -/
theorem of_root (hroot : w.root = e.root) (hmessage : w.message = preamble contexts ++ e.message) :
    w.Wraps contexts e where
  root := hroot
  isUnsupported := by rw [Error.isUnsupported, Error.isUnsupported, hroot]
  isNotFound := by rw [Error.isNotFound, Error.isNotFound, hroot]
  isCancelled := by rw [Error.isCancelled, Error.isCancelled, hroot]
  partialOutput? := by rw [Error.partialOutput?, Error.partialOutput?, hroot]
  message := hmessage

theorem refl (e : Error) : e.Wraps [] e := of_root rfl (String.empty_append).symm

theorem inContext (h : w.Wraps contexts e) (context : String) :
    (Error.inContext context w).Wraps (context :: contexts) e := by
  refine of_root h.root ?_
  calc (Error.inContext context w).message = context ++ ": " ++ w.message := rfl
    _ = preamble [context] ++ (preamble contexts ++ e.message) := by
      rw [h.message, preamble_singleton]
    _ = preamble (context :: contexts) ++ e.message := by
      rw [← String.append_assoc, ← preamble_append, List.singleton_append]

theorem trans {e' : Error} {contexts' : List String} (h : w.Wraps contexts e)
    (h' : e.Wraps contexts' e') : w.Wraps (contexts ++ contexts') e' := by
  refine of_root (h.root.trans h'.root) ?_
  rw [h.message, h'.message, preamble_append, String.append_assoc]

end Wraps

/-- The contexts in which an error is put, one after the other, are read from the last to the
first. -/
theorem wraps_inContexts (e : Error) (contexts : List String) :
    (e.inContexts contexts).Wraps contexts.reverse e := by
  induction contexts generalizing e with
  | nil => exact .refl e
  | cons context contexts ih =>
    rw [List.reverse_cons]
    exact (ih (.inContext context e)).trans ((Wraps.refl e).inContext context)

/-- An error that is put in contexts keeps its root and all that a caller asks of it, and its
message stands behind the contexts, the last of them outermost.  The root is never an error in a
context, and every error is its root in some contexts.  At most one of the verdicts on an error
holds, and there is output only if none of them does. -/
theorem identity_kept (e : Error) (contexts : List String) :
    let w := e.inContexts contexts
    w.Wraps contexts.reverse e ∧
      (∃ inner, e = e.root.inContexts inner) ∧
      (∀ context cause, e.root ≠ .inContext context cause) ∧
      [w.isUnsupported, w.isNotFound, w.isCancelled].count true ≤ 1 ∧
      ∀ output, w.partialOutput? = some output →
        w.isUnsupported = false ∧ w.isNotFound = false ∧ w.isCancelled = false := by
  intro w
  exact ⟨e.wraps_inContexts contexts, e.exists_eq_inContexts_root, e.root_ne_inContext,
    w.count_verdicts_le, fun _ => verdicts_of_partialOutput?⟩

/-- A broken execution with output, in two contexts more than the one in which it was reported. -/
theorem identity_kept_interrupted :
    let output : Execution.Output := { Execution.Output.empty with stdout := ["a"] }
    let e : Error := .inContext "failed to execute code" (.interrupted "connection closed" output)
    let w := e.inContexts ["cell 3", "notebook"]
    w.message = "notebook: cell 3: failed to execute code: " ++
        "execution stream interrupted: connection closed" ∧
      w.root = .interrupted "connection closed" output ∧ w.partialOutput? = some output ∧
      w.isUnsupported = false ∧ w.isNotFound = false ∧ w.isCancelled = false := by
  intro output e w
  obtain ⟨hwraps, -, -, -, hverdicts⟩ := identity_kept e ["cell 3", "notebook"]
  have houtput : w.partialOutput? = some output := hwraps.partialOutput?
  exact ⟨hwraps.message.trans (by decide), hwraps.root, houtput, hverdicts output houtput⟩

end AgentSandbox.Error

import AgentSandbox.Model.Basic
import AgentSandbox.Proofs.Text.Blank

/-!
# What queries ask

An empty text and a zero say nothing in a query, which is the same without them (`ToolQuery.tidy`,
`InstanceQuery.tidy`), and a query with ids says nothing else (`ToolQuery.normal`,
`InstanceQuery.normal`).
-/

namespace AgentSandbox

/-- A number, absent if it is zero. -/
def nonZero (n : Option Nat) : Option Nat := n.filter (0 < ·)

theorem nonZero_nonZero (n : Option Nat) : nonZero (nonZero n) = nonZero n := by
  simp only [nonZero, Option.filter_filter, Bool.and_self]

/-- A zero counts for nothing where nothing counts as zero. -/
theorem getD_nonZero (n : Option Nat) : (nonZero n).getD 0 = n.getD 0 := by
  rcases n with _ | _ | n <;> rfl

theorem nonZero_eq_self_iff {n : Option Nat} : nonZero n = n ↔ n ≠ some 0 := by
  rcases n with _ | _ | n <;> simp [nonZero]

namespace ToolQuery

/-- The query with empty texts and zeros read as absent. -/
def tidy (q : ToolQuery) : ToolQuery :=
  { q with
    offset := nonZero q.offset
    limit := nonZero q.limit
    status := Text.nonEmpty q.status
    toolType := Text.nonEmpty q.toolType
    createdSince := Text.nonEmpty q.createdSince
    createdSinceTime := Text.nonEmpty q.createdSinceTime }

/-- What the query asks: for its ids alone, if it has any. -/
def normal (q : ToolQuery) : ToolQuery :=
  if q.toolIds.isEmpty then q.tidy else ⟨q.toolIds, none, none, none, none, none, none, .empty⟩

end ToolQuery

namespace InstanceQuery

/-- The query with empty texts and zeros read as absent. -/
def tidy (q : InstanceQuery) : InstanceQuery :=
  { q with
    toolId := Text.nonEmpty q.toolId
    status := Text.nonEmpty q.status
    offset := nonZero q.offset
    limit := nonZero q.limit }

/-- What the query asks: for its ids alone, if it has any. -/
def normal (q : InstanceQuery) : InstanceQuery :=
  if q.instanceIds.isEmpty then q.tidy else ⟨q.instanceIds, none, none, none, none⟩

end InstanceQuery

end AgentSandbox

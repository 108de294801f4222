import AgentSandbox.Execution.Output
import AgentSandbox.Json.Record

/-!
# The JSON form of an execution's output

Results and a fault that are not there, and an empty traceback, are left out when the form is
written and need not be there when it is read.
-/

namespace AgentSandbox.Execution

open Json

namespace Fault

/-- The JSON form of a fault. -/
def form (f : Fault) : Value := .object <| givenMembers
  [("name", some (.text f.name)), ("value", some (.text f.value)),
    ("traceback", if f.traceback.isEmpty then none else some (.text f.traceback))]

/-- The fault that a document gives. -/
def ofDocument? (d : Document) : Option Fault := do
  let fs ← d.fields? ["name", "value", "traceback"]
  let name ← fs.required "name" Document.text?
  let value ← fs.required "value" Document.text?
  let traceback ← fs.orDefault "traceback" Document.text? ""
  some ⟨name, value, traceback⟩

end Fault

/-- The members of an object that a document gives. -/
def payload? (d : Document) : Option (List (String × Value)) :=
  d.value?.bind Value.members?

namespace Output

/-- The JSON form of an output. -/
def form (o : Output) : Value := .object <| givenMembers
  [("stdout", some (.texts o.stdout)), ("stderr", some (.texts o.stderr)),
    ("results",
      if o.results.isEmpty then none else some (.list (o.results.map Value.object))),
    ("error", o.fault.map Fault.form)]

/-- The output that a document gives. -/
def ofDocument? (d : Document) : Option Output := do
  let fs ← d.fields? ["stdout", "stderr", "results", "error"]
  let stdout ← fs.required "stdout" (Document.listOf? Document.text?)
  let stderr ← fs.required "stderr" (Document.listOf? Document.text?)
  let results ← fs.orDefault "results" (Document.listOf? payload?) []
  let fault ← fs.orDefault "error" (Document.nullable? Fault.ofDocument?) none
  some ⟨stdout, stderr, results, fault⟩

end Output

end AgentSandbox.Execution

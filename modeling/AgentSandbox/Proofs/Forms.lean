import AgentSandbox.Proofs.Config.Form
import AgentSandbox.Proofs.Execution.Form
import AgentSandbox.Proofs.Model.Form

/-!
# Every JSON form is stable

Whatever value of the model or of a configuration a text is decoded as, the form of the value is
decoded as the value again, and so it has the same form again (`stable_forms`).  For an output this is
said of payloads without floats.  A mode is written with the very string that it was decoded from.
-/

namespace AgentSandbox

open Json

/-- Every type with a JSON form is stable, and a mode keeps its string. -/
structure StableForms : Prop where
  networkMode : IsStable NetworkMode.ofDocument? NetworkMode.form
  vpcConfig : IsStable VpcConfig.ofDocument? VpcConfig.form
  storageSource : IsStable StorageSource.ofDocument? StorageSource.form
  storageMount : IsStable StorageMount.ofDocument? StorageMount.form
  readOnlyOverride : IsStable ReadOnlyOverride.ofDocument? ReadOnlyOverride.form
  mountOption : IsStable MountOption.ofDocument? MountOption.form
  tool : IsStable Tool.ofDocument? Tool.form
  sandbox : IsStable Instance.ofDocument? Instance.form
  apiKey : IsStable ApiKey.ofDocument? ApiKey.form
  createdApiKey : IsStable CreatedApiKey.ofDocument? CreatedApiKey.form
  fault : IsStable Execution.Fault.ofDocument? Execution.Fault.form
  output : IsStableOn Execution.Output.IsIntegral Execution.Output.ofDocument? Execution.Output.form
  config : IsStable Config.ofDocument? Config.form
  http : IsStable HttpConfig.ofDocument? HttpConfig.form
  e2b : IsStable E2bConfig.ofDocument? E2bConfig.form
  cloud : IsStable CloudConfig.ofDocument? CloudConfig.form
  /-- A text that is decoded as a mode is a string, and the mode is written with this string. -/
  modeKept : ∀ text, (decodeText? NetworkMode.ofDocument? text).map NetworkMode.form =
    (decodeText? Document.text? text).map Value.text
  /-- Every string is the form of the mode that its text is decoded as. -/
  modeOfString : ∀ s, (decodeText? NetworkMode.ofDocument? (Value.text s).toText).map
    NetworkMode.form = some (.text s)

theorem NetworkMode.map_form_decodeText? (text : String) :
    (decodeText? ofDocument? text).map form = (decodeText? Document.text? text).map Value.text := by
  unfold decodeText?
  cases Document.read? text.toList with
  | none => rfl
  | some d =>
    simp only [Option.bind_some, ofDocument?, Option.map_map]
    congr 1
    funext name
    exact congrArg Value.text (name_ofName name)

theorem stable_forms : StableForms where
  networkMode := NetworkMode.isStable
  vpcConfig := VpcConfig.isStable
  storageSource := StorageSource.isStable
  storageMount := StorageMount.isStable
  readOnlyOverride := ReadOnlyOverride.isStable
  mountOption := MountOption.isStable
  tool := Tool.isStable
  sandbox := Instance.isStable
  apiKey := ApiKey.isStable
  createdApiKey := CreatedApiKey.isStable
  fault := Execution.Fault.isStable
  output := Execution.Output.isStableOn
  config := Config.isStable
  http := HttpConfig.isStable
  e2b := E2bConfig.isStable
  cloud := CloudConfig.isStable
  modeKept := NetworkMode.map_form_decodeText?
  modeOfString s := by
    rw [NetworkMode.map_form_decodeText?, decodeText?_toText (Value.fits_text s)]
    rfl

/-- A text with an unknown member, with members out of order and with one of them given twice in a
payload is decoded as an output that its form is decoded as again. -/
theorem stable_forms_payload_out_of_order :
    let text := (Value.object
      [("results", .list [.object [("b", .list [.number (.int (-1)), .object []]),
        ("a", .null), ("a", .number (.int 7))]]),
        ("stderr", .list []), ("stdout", .texts ["x"]), ("extra", .bool true)]).toText
    let payload : List (String × Value) :=
      [("a", .number (.int 7)), ("b", .list [.number (.int (-1)), .object []])]
    let o : Execution.Output := ⟨["x"], [], [payload], none⟩
    decodeText? Execution.Output.ofDocument? text = some o ∧
      decodeText? Execution.Output.ofDocument? o.form.toText = some o := by
  intro text payload o
  have hread : decodeText? Execution.Output.ofDocument? text = some o := by
    have hword : IsWord (-1) ∧ IsWord 7 := by decide
    refine (decodeText?_toText ?_ _).trans rfl
    simp [maxNesting, hword]
  have hpayload : (Value.object payload).IsIntegral := by
    refine .object (List.forall_mem_cons.2 ⟨.int 7, List.forall_mem_singleton.2 ?_⟩)
    refine .list (List.forall_mem_cons.2 ⟨.int (-1), List.forall_mem_singleton.2 ?_⟩)
    exact .object (List.forall_mem_nil _)
  exact ⟨hread, (stable_forms.output _ o hread (List.forall_mem_singleton.2 hpayload)).1⟩

end AgentSandbox

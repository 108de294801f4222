import AgentSandbox.Mount.Basic
import AgentSandbox.Mount.Bindings

/-!
# Mounts and mount options as specifications

`StorageMount.parse` and `MountOption.parse` read a specification, checking its fields in a fixed
order and answering the first fault.  `StorageMount.spec` writes the specification of a mount.
-/

namespace AgentSandbox

namespace Mount

/-- A value that is there and not empty. -/
def given? (key : String) (bs : List (List Char × List Char)) : Option (List Char) :=
  (lastValue? key.toList bs).filter fun v => !v.isEmpty

/-- The text of a field that must be given. -/
def required (key : String) (bs : List (List Char × List Char)) : Except MountError String :=
  match given? key bs with
  | some v => .ok (String.ofList v)
  | none => .error (.missingField key)

/-- The text of a field that, if it is given, must be an absolute path. -/
def absolute? (key : String) (bs : List (List Char × List Char)) :
    Except MountError (Option String) :=
  match given? key bs with
  | some v => if v.head? = some '/' then .ok (some (String.ofList v)) else .error (.notAbsolute key)
  | none => .ok none

/-- The text of a field that must be given as an absolute path. -/
def absolute (key : String) (bs : List (List Char × List Char)) : Except MountError String :=
  match absolute? key bs with
  | .ok (some path) => .ok path
  | .ok none => .error (.missingField key)
  | .error e => .error e

/-- The text of a field that may be left out. -/
def optional (key : String) (bs : List (List Char × List Char)) : Option String :=
  (given? key bs).map String.ofList

/-- The truth value that a flag's text stands for, in any case of its letters. -/
def flagValue? (value : List Char) : Option Bool :=
  let v := String.ofList (value.map Char.toLower)
  if v = "true" ∨ v = "1" ∨ v = "yes" then some true
  else if v = "false" ∨ v = "0" ∨ v = "no" then some false
  else none

/-- The flag with this key: `none` if it is not bound at all, an error if it is bound to a text that
is no truth value. -/
def flag? (key : String) (bs : List (List Char × List Char)) : Except MountError (Option Bool) :=
  match lastValue? key.toList bs with
  | none => .ok none
  | some v =>
    match flagValue? v with
    | some b => .ok (some b)
    | none => .error (.invalidFlag key (String.ofList v))

/-- The object store source that some bindings describe. -/
def cosSource (bs : List (List Char × List Char)) : Except MountError StorageSource := do
  let bucketName ← required "bucket" bs
  let bucketPath ← absolute "src" bs
  .ok (.cos bucketName bucketPath (optional "endpoint" bs))

/-- The source of the kind `type` that some bindings describe. -/
def source (type : String) (bs : List (List Char × List Char)) :
    Except MountError StorageSource :=
  if type = "cos" then (cosSource bs).mapError .source else .error (.unsupportedType type)

/-- The mount that some bindings describe: the fields are checked in the order type, name, target
path, read-only flag, source. -/
def ofBindings (bs : List (List Char × List Char)) : Except MountError StorageMount := do
  let type ← match given? "type" bs with
    | some v => .ok (String.ofList v)
    | none => .error .missingType
  let name ← required "name" bs
  let mountPath ← absolute "dst" bs
  let readOnly ← flag? "readonly" bs
  let source ← source type bs
  .ok ⟨name, mountPath, readOnly.getD false, some source⟩

/-- The mount option that some bindings describe: the fields are checked in the order name, target
path, read-only flag, and the flag may not say that writing is allowed. -/
def optionOfBindings (bs : List (List Char × List Char)) : Except MountError MountOption := do
  let name ← required "name" bs
  let mountPath ← absolute? "dst" bs
  let readOnly ← match ← flag? "readonly" bs with
    | some true => .ok .force
    | some false => .error (.loosenReadOnly name)
    | none => .ok .inherit
  .ok ⟨name, mountPath, optional "subpath" bs, readOnly⟩

end Mount

/-- The mount that a specification describes. -/
def StorageMount.parse (spec : String) : Except MountError StorageMount :=
  Mount.ofBindings (Mount.bindings spec.toList)

/-- The mount option that a specification describes. -/
def MountOption.parse (spec : String) : Except MountError MountOption :=
  Mount.optionOfBindings (Mount.bindings spec.toList)

/-! ## Writing -/

namespace StorageMount

/-- The parts of the specification of a mount, in their order; without a source there is no type. -/
def specParts (m : StorageMount) : List String :=
  let flag := if m.readOnly then ["readonly"] else []
  match m.source with
  | none => ["name=" ++ m.name, "dst=" ++ m.mountPath] ++ flag
  | some (.cos bucketName bucketPath endpoint) =>
    ["type=cos", "name=" ++ m.name, "bucket=" ++ bucketName, "src=" ++ bucketPath,
      "dst=" ++ m.mountPath] ++ flag ++ endpoint.toList.map ("endpoint=" ++ ·)

/-- The specification of a mount. -/
def spec (m : StorageMount) : String :=
  ",".intercalate m.specParts

end StorageMount

end AgentSandbox

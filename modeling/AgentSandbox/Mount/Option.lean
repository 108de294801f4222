import AgentSandbox.Mount.Basic
import AgentSandbox.Text.Blank

/-!
# Applying mount options

`MountOption.apply` gives the mount that an instance gets when an option is applied to the mount
that its tool declares.  `applyAll` applies several options in turn and keeps the mount where one
does not apply, and `applyEach` shows the mount after each of them.
-/

namespace AgentSandbox

namespace StorageSource

/-- The directory below a source: one solidus joins the two paths. -/
def below (subPath : String) : StorageSource → StorageSource
  | .cos bucketName bucketPath endpoint =>
    .cos bucketName (Text.dropEndSlashes bucketPath ++ "/" ++ Text.dropSlashes subPath) endpoint

end StorageSource

namespace MountOption

/-- The mount that an option makes of a mount of its name. -/
def change (o : MountOption) (m : StorageMount) : StorageMount where
  name := m.name
  mountPath := o.mountPath.getD m.mountPath
  readOnly := m.readOnly || o.readOnly = .force
  source :=
    match o.subPath with
    | some p => m.source.map (·.below p)
    | none => m.source

/-- The mount that an instance gets when the option is applied to a declared mount. -/
def apply (o : MountOption) (m : StorageMount) : Except MountError StorageMount :=
  if o.name = m.name then .ok (o.change m) else .error (.nameMismatch o.name m.name)

/-- The mount after some options in turn, one that does not apply leaving it as it is. -/
def applyAll (os : List MountOption) (m : StorageMount) : StorageMount :=
  os.foldl (fun m o => (o.apply m).toOption.getD m) m

/-- What becomes of a mount with each of some options in turn, `fault` embedding the errors of
options that do not apply; an option that could not be read leaves the mount as it is, too. -/
def applyEach {ε : Type} (fault : MountError → ε) :
    List (Except ε MountOption) → StorageMount → List (Except ε StorageMount)
  | [], _ => []
  | .error e :: os, m => .error e :: applyEach fault os m
  | .ok o :: os, m =>
    let r := o.apply m
    r.mapError fault :: applyEach fault os (r.toOption.getD m)

end MountOption

end AgentSandbox

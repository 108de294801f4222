import AgentSandbox.Model.Form
import AgentSandbox.Proofs.Json.Rereading

/-!
# The JSON form of the model is read again

For each record of the model, its form fits into a text and is decoded as the record (`fits_form`,
`ofDocument?_form`).  Only the mode of a network may have a form that is decoded as something else:
a mode that is normal, as every decoded one is, is decoded as itself.
-/

namespace AgentSandbox

open Json

/-! ## Mounts -/

namespace StorageSource

theorem fits_form (s : StorageSource) {room : Nat} : s.form.Fits (room + 1) := by
  cases s
  simp [form]

theorem ofDocument?_form (s : StorageSource) : ofDocument? (.ofValue s.form) = some s := by
  obtain ⟨bucketName, bucketPath, endpoint⟩ := s
  cases endpoint <;> rfl

theorem isStable : IsStable ofDocument? form :=
  isStable_of (fun s => s.fits_form) ofDocument?_form

end StorageSource

namespace StorageMount

theorem fits_form (m : StorageMount) {room : Nat} : m.form.Fits (room + 2) := by
  have hsource : ((m.source.map StorageSource.form).getD .null).Fits (room + 1) := by
    refine Value.fits_getD_null fun v hv => ?_
    obtain ⟨s, -, rfl⟩ := Option.map_eq_some_iff.1 hv
    exact s.fits_form
  simp [form, hsource]

theorem ofDocument?_form (m : StorageMount) : ofDocument? (.ofValue m.form) = some m := by
  have hsource : (Document.ofValue ((m.source.map StorageSource.form).getD .null)).nullable?
      StorageSource.ofDocument? = some m.source :=
    Document.nullable?_getD (fun s _ => s.ofDocument?_form) fun s => by cases s; nofun
  show ((Document.ofValue ((m.source.map StorageSource.form).getD .null)).nullable?
      StorageSource.ofDocument?).bind (fun source => some ⟨m.name, m.mountPath, m.readOnly, source⟩) =
    some m
  rw [hsource]
  rfl

theorem isStable : IsStable ofDocument? form :=
  isStable_of (fun m => m.fits_form) ofDocument?_form

end StorageMount

namespace ReadOnlyOverride

theorem ofDocument?_form (r : ReadOnlyOverride) : ofDocument? (.ofValue r.form) = some r := by
  cases r <;> rfl

theorem isStable : IsStable ofDocument? form :=
  isStable_of (fun _ => Value.fits_text _) ofDocument?_form

end ReadOnlyOverride

namespace MountOption

theorem fits_form (o : MountOption) {room : Nat} : o.form.Fits (room + 1) := by
  simp [form, ReadOnlyOverride.form]

theorem ofDocument?_form (o : MountOption) : ofDocument? (.ofValue o.form) = some o := by
  obtain ⟨name, mountPath, subPath, readOnly⟩ := o
  cases mountPath <;> cases subPath <;> cases readOnly <;> rfl

theorem isStable : IsStable ofDocument? form :=
  isStable_of (fun o => o.fits_form) ofDocument?_form

end MountOption

/-! ## Networks -/

namespace NetworkMode

/-- Whether the mode is the one that its name means: an unknown mode has no known name. -/
def IsNormal (m : NetworkMode) : Prop := ofName m.name = m

theorem isNormal_ofName (name : String) : (ofName name).IsNormal := by
  rw [IsNormal, name_ofName]

/-- Whatever name is decoded as a mode is the name of the mode. -/
theorem form_of_ofDocument? {d : Document} {m : NetworkMode} (h : ofDocument? d = some m) :
    ∃ name, d = .text name ∧ m = ofName name ∧ m.form = .text name := by
  obtain ⟨name, hname, rfl⟩ := Option.map_eq_some_iff.1 h
  cases d with
  | text s =>
    cases hname
    exact ⟨name, rfl, rfl, congrArg Value.text (name_ofName name)⟩
  | _ => cases hname

theorem ofDocument?_form {m : NetworkMode} (h : m.IsNormal) : ofDocument? (.ofValue m.form) = some m :=
  congrArg some h

theorem isStable : IsStable ofDocument? form := by
  refine isStableOn_of fun d m _ hm _ => ⟨Value.fits_text m.name, ofDocument?_form ?_⟩
  obtain ⟨name, -, rfl, -⟩ := form_of_ofDocument? hm
  exact isNormal_ofName name

end NetworkMode

namespace VpcConfig

theorem fits_form (v : VpcConfig) {room : Nat} : v.form.Fits (room + 2) := by
  simp [form]

theorem ofDocument?_form (v : VpcConfig) : ofDocument? (.ofValue v.form) = some v := by
  show ((Document.ofValue (.texts v.subnetIds)).listOf? Document.text?).bind (fun subnetIds =>
      ((Document.ofValue (.texts v.securityGroupIds)).listOf? Document.text?).bind
        fun securityGroupIds => some ⟨subnetIds, securityGroupIds⟩) = some v
  rw [Document.listOf?_texts, Document.listOf?_texts]
  rfl

theorem isStable : IsStable ofDocument? form :=
  isStable_of (fun v => v.fits_form) ofDocument?_form

end VpcConfig

/-! ## Tools, instances and keys -/

namespace Tool

theorem fits_form (t : Tool) {room : Nat} : t.form.Fits (room + 4) := by
  have hvpc : ((t.vpcConfig.map VpcConfig.form).getD .null).Fits (room + 3) := by
    refine Value.fits_getD_null fun v hv => ?_
    obtain ⟨x, -, rfl⟩ := Option.map_eq_some_iff.1 hv
    exact x.fits_form
  have hmounts (m : StorageMount) : m.form.Fits (room + 2) := m.fits_form
  simp [form, NetworkMode.form, hvpc, hmounts]

/-- A tool is decoded as it was written if its mode is normal. -/
theorem ofDocument?_form {t : Tool} (h : t.networkMode.IsNormal) :
    ofDocument? (.ofValue t.form) = some t := by
  have hvpc : (Document.ofValue ((t.vpcConfig.map VpcConfig.form).getD .null)).nullable?
      VpcConfig.ofDocument? = some t.vpcConfig :=
    Document.nullable?_getD (fun v _ => v.ofDocument?_form) fun _ => nofun
  have hmounts : (Document.ofValue (.list (t.storageMounts.map StorageMount.form))).listOf?
      StorageMount.ofDocument? = some t.storageMounts :=
    Document.listOf?_map fun m _ => m.ofDocument?_form
  show (NetworkMode.ofDocument? (.ofValue t.networkMode.form)).bind (fun networkMode =>
    ((Document.ofValue ((t.vpcConfig.map VpcConfig.form).getD .null)).nullable?
        VpcConfig.ofDocument?).bind fun vpcConfig =>
    ((Document.ofValue (.textObject t.tags)).mapOf? Document.text?).bind fun tags =>
    ((Document.ofValue (.textOrNull t.roleArn)).nullable? Document.text?).bind fun roleArn =>
    ((Document.ofValue (.list (t.storageMounts.map StorageMount.form))).listOf?
        StorageMount.ofDocument?).bind fun storageMounts =>
    some ⟨t.id, t.name, t.toolType, t.description, networkMode, vpcConfig, tags, roleArn,
      storageMounts, t.createdAt⟩) = some t
  rw [NetworkMode.ofDocument?_form h, hvpc, Document.mapOf?_textObject,
    Document.nullable?_textOrNull, hmounts]
  rfl

/-- A decoded tool has a normal mode. -/
theorem isNormal_of_ofDocument? {d : Document} {t : Tool} (h : ofDocument? d = some t) :
    t.networkMode.IsNormal := by
  unfold ofDocument? at h
  simp only [Option.bind_eq_bind, Option.bind_eq_some_iff] at h
  obtain ⟨fs, -, id, -, name, -, toolType, -, description, -, networkMode, hmode, vpcConfig, -, tags,
    -, roleArn, -, mounts, -, createdAt, -, ⟨⟩⟩ := h
  obtain ⟨e, -, he⟩ := Option.bind_eq_some_iff.1 hmode
  obtain ⟨name, -, rfl, -⟩ := NetworkMode.form_of_ofDocument? he
  exact NetworkMode.isNormal_ofName name

theorem isStable : IsStable ofDocument? form :=
  isStableOn_of fun _ t _ ht _ => ⟨t.fits_form, ofDocument?_form (isNormal_of_ofDocument? ht)⟩

end Tool

namespace Instance

theorem fits_form (i : Instance) {room : Nat} : i.form.Fits (room + 1) := by
  simp [form]

theorem ofDocument?_form (i : Instance) : ofDocument? (.ofValue i.form) = some i := by
  obtain ⟨id, toolId, toolName, status, createdAt, accessToken, domain⟩ := i
  cases accessToken <;> cases domain <;> rfl

theorem isStable : IsStable ofDocument? form :=
  isStable_of (fun i => i.fits_form) ofDocument?_form

end Instance

namespace ApiKey

theorem fits_form (k : ApiKey) {room : Nat} : k.form.Fits (room + 1) := by
  simp [form]

theorem ofDocument?_form (k : ApiKey) : ofDocument? (.ofValue k.form) = some k := rfl

theorem isStable : IsStable ofDocument? form :=
  isStable_of (fun k => k.fits_form) ofDocument?_form

end ApiKey

namespace CreatedApiKey

theorem fits_form (k : CreatedApiKey) {room : Nat} : k.form.Fits (room + 1) := by
  simp [form]

theorem ofDocument?_form (k : CreatedApiKey) : ofDocument? (.ofValue k.form) = some k := rfl

theorem isStable : IsStable ofDocument? form :=
  isStable_of (fun k => k.fits_form) ofDocument?_form

end CreatedApiKey

end AgentSandbox

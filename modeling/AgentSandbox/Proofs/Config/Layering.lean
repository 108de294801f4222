import AgentSandbox.Proofs.Client.Building
import AgentSandbox.Proofs.Config.Environment
import AgentSandbox.Proofs.Config.Form
import AgentSandbox.Proofs.Json.Removal
import AgentSandbox.Proofs.Text.Encoding

/-!
# The layers of a configuration

A configuration is made in three layers.  What is left of the form of one is decoded with a default for
every member that was removed (`Config.ofDocument?_without`), the variables of an environment override
the members that are named like them (`Config.at?_applyEnvironment`), and then it is checked for the
credentials of the backend that its name resolves to (`Config.validate_eq_ok_iff`).
`Config.layered_load` puts the layers together.
-/

namespace AgentSandbox

open Json

variable {gone : List String → Bool}

/-! ## Defaults -/

namespace HttpConfig

/-- The limits with some members at their defaults. -/
def reset (gone : List String → Bool) (c : HttpConfig) : HttpConfig where
  timeoutSeconds :=
    if gone ["timeout_seconds"] then default.timeoutSeconds else c.timeoutSeconds
  callTimeoutSeconds :=
    if gone ["call_timeout_seconds"] then default.callTimeoutSeconds else c.callTimeoutSeconds

theorem ofDocument?_without (c : HttpConfig) (gone : List String → Bool) :
    ofDocument? (.ofValue (c.form.without gone)) = some (c.reset gone) := by
  obtain ⟨fs, hfs, hfield⟩ := Document.exists_fields?_without (v := c.form)
    ["timeout_seconds", "call_timeout_seconds"] (by decide) rfl rfl gone
  simp only [ofDocument?, hfs, Option.bind_eq_bind, Option.bind_some]
  rw [hfield "timeout_seconds" (by decide) Document.nat? _ rfl rfl,
    hfield "call_timeout_seconds" (by decide) (Document.nullable? Document.nat?) _ rfl
      (Document.nullable?_natOrNull_without _ _)]
  rfl

theorem leaves_form (c : HttpConfig) :
    c.form.leaves = ["timeout_seconds", "call_timeout_seconds"].map ([·]) := by
  simp [form, Value.leaves, memberLeaves]

theorem at?_reset {c : HttpConfig} {path : List String} (h : path ∈ c.form.leaves) :
    (c.reset gone).form.at? path =
      if gone path then default.form.at? path else c.form.at? path := by
  rw [leaves_form] at h
  simp only [List.map_cons, List.map_nil, List.mem_cons, List.not_mem_nil, or_false] at h
  rcases h with rfl | rfl
  · exact apply_ite (fun x => some (Value.nat x)) _ _ _
  · exact apply_ite (fun x => some (Value.natOrNull x)) _ _ _

end HttpConfig

namespace E2bConfig

/-- The REST service with some members at their defaults. -/
def reset (gone : List String → Bool) (c : E2bConfig) : E2bConfig where
  apiKey := if gone ["api_key"] then default.apiKey else c.apiKey
  domain := if gone ["domain"] then default.domain else c.domain
  region := if gone ["region"] then default.region else c.region
  apiUrl := if gone ["api_url"] then default.apiUrl else c.apiUrl
  executeUrl := if gone ["execute_url"] then default.executeUrl else c.executeUrl

theorem ofDocument?_without (c : E2bConfig) (gone : List String → Bool) :
    ofDocument? (.ofValue (c.form.without gone)) = some (c.reset gone) := by
  obtain ⟨fs, hfs, hfield⟩ := Document.exists_fields?_without (v := c.form)
    ["api_key", "domain", "region", "api_url", "execute_url"] (by decide) rfl rfl gone
  simp only [ofDocument?, hfs, Option.bind_eq_bind, Option.bind_some]
  rw [hfield "api_key" (by decide) Document.text? _ rfl rfl,
    hfield "domain" (by decide) Document.text? _ rfl rfl,
    hfield "region" (by decide) Document.text? _ rfl rfl,
    hfield "api_url" (by decide) (Document.nullable? Document.text?) _ rfl
      (Document.nullable?_textOrNull_without _ _),
    hfield "execute_url" (by decide) (Document.nullable? Document.text?) _ rfl
      (Document.nullable?_textOrNull_without _ _)]
  rfl

theorem leaves_form (c : E2bConfig) :
    c.form.leaves = ["api_key", "domain", "region", "api_url", "execute_url"].map ([·]) := by
  simp [form, Value.leaves, memberLeaves]

theorem at?_reset {c : E2bConfig} {path : List String} (h : path ∈ c.form.leaves) :
    (c.reset gone).form.at? path =
      if gone path then default.form.at? path else c.form.at? path := by
  rw [leaves_form] at h
  simp only [List.map_cons, List.map_nil, List.mem_cons, List.not_mem_nil, or_false] at h
  rcases h with rfl | rfl | rfl | rfl | rfl
  · exact apply_ite (fun x => some (Value.text x)) _ _ _
  · exact apply_ite (fun x => some (Value.text x)) _ _ _
  · exact apply_ite (fun x => some (Value.text x)) _ _ _
  · exact apply_ite (fun x => some (Value.textOrNull x)) _ _ _
  · exact apply_ite (fun x => some (Value.textOrNull x)) _ _ _

end E2bConfig

namespace CloudConfig

/-- The control plane with some members at their defaults. -/
def reset (gone : List String → Bool) (c : CloudConfig) : CloudConfig where
  secretId := if gone ["secret_id"] then default.secretId else c.secretId
  secretKey := if gone ["secret_key"] then default.secretKey else c.secretKey
  region := if gone ["region"] then default.region else c.region
  internal := if gone ["internal"] then default.internal else c.internal
  endpointUrl := if gone ["endpoint_url"] then default.endpointUrl else c.endpointUrl
  executeUrl := if gone ["execute_url"] then default.executeUrl else c.executeUrl

theorem ofDocument?_without (c : CloudConfig) (gone : List String → Bool) :
    ofDocument? (.ofValue (c.form.without gone)) = some (c.reset gone) := by
  obtain ⟨fs, hfs, hfield⟩ := Document.exists_fields?_without (v := c.form)
    ["secret_id", "secret_key", "region", "internal", "endpoint_url", "execute_url"] (by decide)
    rfl rfl gone
  simp only [ofDocument?, hfs, Option.bind_eq_bind, Option.bind_some]
  rw [hfield "secret_id" (by decide) Document.text? _ rfl rfl,
    hfield "secret_key" (by decide) Document.text? _ rfl rfl,
    hfield "region" (by decide) Document.text? _ rfl rfl,
    hfield "internal" (by decide) Document.bool? _ rfl rfl,
    hfield "endpoint_url" (by decide) (Document.nullable? Document.text?) _ rfl
      (Document.nullable?_textOrNull_without _ _),
    hfield "execute_url" (by decide) (Document.nullable? Document.text?) _ rfl
      (Document.nullable?_textOrNull_without _ _)]
  rfl

theorem leaves_form (c : CloudConfig) :
    c.form.leaves =
      ["secret_id", "secret_key", "region", "internal", "endpoint_url", "execute_url"].map ([·]) := by
  simp [form, Value.leaves, memberLeaves]

theorem at?_reset {c : CloudConfig} {path : List String} (h : path ∈ c.form.leaves) :
    (c.reset gone).form.at? path =
      if gone path then default.form.at? path else c.form.at? path := by
  rw [leaves_form] at h
  simp only [List.map_cons, List.map_nil, List.mem_cons, List.not_mem_nil, or_false] at h
  rcases h with rfl | rfl | rfl | rfl | rfl | rfl
  · exact apply_ite (fun x => some (Value.text x)) _ _ _
  · exact apply_ite (fun x => some (Value.text x)) _ _ _
  · exact apply_ite (fun x => some (Value.text x)) _ _ _
  · exact apply_ite (fun x => some (Value.bool x)) _ _ _
  · exact apply_ite (fun x => some (Value.textOrNull x)) _ _ _
  · exact apply_ite (fun x => some (Value.textOrNull x)) _ _ _

end CloudConfig

namespace Config

/-- The configuration with some members, or whole tables of them, at their defaults. -/
def reset (gone : List String → Bool) (c : Config) : Config where
  backend := if gone ["backend"] then default.backend else c.backend
  http := if gone ["http"] then default.http else c.http.reset fun path => gone ("http" :: path)
  e2b := if gone ["e2b"] then default.e2b else c.e2b.reset fun path => gone ("e2b" :: path)
  cloud :=
    if gone ["cloud"] then default.cloud else c.cloud.reset fun path => gone ("cloud" :: path)

theorem leaves_reset (c : Config) (gone : List String → Bool) :
    (c.reset gone).form.leaves = c.form.leaves := by
  simp only [form, Value.leaves, memberLeaves, HttpConfig.leaves_form, E2bConfig.leaves_form,
    CloudConfig.leaves_form]

theorem ofDocument?_without (c : Config) (gone : List String → Bool) :
    ofDocument? (.ofValue (c.form.without gone)) = some (c.reset gone) := by
  obtain ⟨fs, hfs, hfield⟩ := Document.exists_fields?_without (v := c.form)
    ["backend", "http", "e2b", "cloud"] (by decide) rfl rfl gone
  simp only [ofDocument?, hfs, Option.bind_eq_bind, Option.bind_some]
  rw [hfield "backend" (by decide) Document.text? _ rfl rfl,
    hfield "http" (by decide) _ _ rfl (c.http.ofDocument?_without _),
    hfield "e2b" (by decide) _ _ rfl (c.e2b.ofDocument?_without _),
    hfield "cloud" (by decide) _ _ rfl (c.cloud.ofDocument?_without _)]
  rfl

/-- The leaves of a configuration are the name of its backend and those of its tables. -/
theorem exists_of_mem_leaves {c : Config} {path : List String} (h : path ∈ c.form.leaves) :
    path = ["backend"] ∨ (∃ name, path = ["http", name] ∧ [name] ∈ c.http.form.leaves) ∨
      (∃ name, path = ["e2b", name] ∧ [name] ∈ c.e2b.form.leaves) ∨
      ∃ name, path = ["cloud", name] ∧ [name] ∈ c.cloud.form.leaves := by
  simp only [form, Value.leaves, memberLeaves, List.map_cons, List.map_nil, List.cons_append,
    List.nil_append, List.append_nil, List.mem_cons, List.mem_append, List.mem_map] at h
  rcases h with rfl | ⟨p, hp, rfl⟩ | ⟨p, hp, rfl⟩ | ⟨p, hp, rfl⟩
  · exact .inl rfl
  · obtain ⟨name, -, rfl⟩ := List.mem_map.1 (c.http.leaves_form ▸ hp)
    exact .inr (.inl ⟨name, rfl, hp⟩)
  · obtain ⟨name, -, rfl⟩ := List.mem_map.1 (c.e2b.leaves_form ▸ hp)
    exact .inr (.inr (.inl ⟨name, rfl, hp⟩))
  · obtain ⟨name, -, rfl⟩ := List.mem_map.1 (c.cloud.leaves_form ▸ hp)
    exact .inr (.inr (.inr ⟨name, rfl, hp⟩))

/-- A member of a table has its default if it or the table is removed, and is kept otherwise. -/
theorem resets_pair {table name : String} {d x r : Option Value}
    (htable : gone [table] = true → r = d)
    (hname : gone [table] = false → r = if gone [table, name] then d else x) :
    (Removed gone [table, name] → r = d) ∧ (¬ Removed gone [table, name] → r = x) := by
  rw [removed_pair_iff]
  cases h : gone [table] with
  | true => exact ⟨fun _ => htable h, fun hnot => absurd (.inl rfl) hnot⟩
  | false =>
    have hr := hname h
    cases h' : gone [table, name] with
    | true =>
      rw [h', if_pos rfl] at hr
      exact ⟨fun _ => hr, fun hnot => absurd (.inr rfl) hnot⟩
    | false =>
      rw [h', if_neg Bool.false_ne_true] at hr
      exact ⟨fun hgone => by simp at hgone, fun _ => hr⟩

/-- The members that are removed have their defaults, and all others are kept. -/
theorem at?_reset {c : Config} {path : List String} (h : path ∈ c.form.leaves) :
    (Removed gone path → (c.reset gone).form.at? path = default.form.at? path) ∧
      (¬ Removed gone path → (c.reset gone).form.at? path = c.form.at? path) := by
  rcases exists_of_mem_leaves h with rfl | ⟨name, rfl, hname⟩ | ⟨name, rfl, hname⟩ | ⟨name, rfl, hname⟩
  · rw [removed_singleton_iff]
    refine ⟨fun hgone => ?_, fun hgone => ?_⟩
    · simp [form, reset, Value.at?, Value.member?, lookup?, hgone]
    · simp [form, reset, Value.at?, Value.member?, lookup?, hgone]
  · have hat (c : Config) : c.form.at? ["http", name] = c.http.form.at? [name] := rfl
    rw [hat, hat, hat]
    refine resets_pair (fun hgone => ?_) fun hgone => ?_
    · simp only [reset, hgone, if_true]
    · simp only [reset, hgone, Bool.false_eq_true, if_false]
      exact HttpConfig.at?_reset hname
  · have hat (c : Config) : c.form.at? ["e2b", name] = c.e2b.form.at? [name] := rfl
    rw [hat, hat, hat]
    refine resets_pair (fun hgone => ?_) fun hgone => ?_
    · simp only [reset, hgone, if_true]
    · simp only [reset, hgone, Bool.false_eq_true, if_false]
      exact E2bConfig.at?_reset hname
  · have hat (c : Config) : c.form.at? ["cloud", name] = c.cloud.form.at? [name] := rfl
    rw [hat, hat, hat]
    refine resets_pair (fun hgone => ?_) fun hgone => ?_
    · simp only [reset, hgone, if_true]
    · simp only [reset, hgone, Bool.false_eq_true, if_false]
      exact CloudConfig.at?_reset hname

end Config

/-! ## Variables -/

namespace Environment

/-- The members that a variable overrides. -/
def overridable : List (List String) :=
  [["backend"], ["e2b", "api_key"], ["e2b", "domain"], ["e2b", "region"], ["cloud", "secret_id"],
    ["cloud", "secret_key"], ["cloud", "region"], ["cloud", "internal"]]

/-- The name of the variable that overrides a member: the path in upper case. -/
def variableOf (path : List String) : String :=
  "AGS_" ++ Text.upperAscii ("_".intercalate path)

example : overridable.map variableOf = ["AGS_BACKEND", "AGS_E2B_API_KEY", "AGS_E2B_DOMAIN",
    "AGS_E2B_REGION", "AGS_CLOUD_SECRET_ID", "AGS_CLOUD_SECRET_KEY", "AGS_CLOUD_REGION",
    "AGS_CLOUD_INTERNAL"] := by
  decide +kernel

/-- What a variable says of the member that it overrides. -/
def value? (env : Environment) (path : List String) : Option Value :=
  if path ∈ overridable then
    (env.get? (variableOf path)).map fun text =>
      if path = ["cloud", "internal"] then .bool (saysYes text) else .text text
  else none

/-- No variable that overrides a member is empty. -/
def IsFilled (env : Environment) : Prop :=
  ∀ path ∈ overridable, env.get? (variableOf path) ≠ some ""

theorem override_of_ne {env : Environment} {name : String} (h : env.get? name ≠ some "")
    (old : String) : env.override name old = (env.get? name).getD old := by
  rw [override, Text.nonEmpty_eq_self_iff.2 h]

theorem value?_of_not_mem {path : List String} (h : path ∉ overridable) (env : Environment) :
    env.value? path = none := if_neg h

/-- A text that a variable overrides is the text of the variable if that is set. -/
theorem IsFilled.text_override {env : Environment} (henv : env.IsFilled) {path : List String}
    {name : String} (hpath : path ∈ overridable) (hinternal : path ≠ ["cloud", "internal"])
    (hname : variableOf path = name) (old : String) :
    some (Value.text (env.override name old)) = (env.value? path).or (some (.text old)) := by
  have hne := henv path hpath
  rw [hname] at hne
  rw [override_of_ne hne, value?, if_pos hpath, hname]
  cases env.get? name with
  | none => rfl
  | some text => simp only [Option.getD_some, Option.map_some, if_neg hinternal, Option.some_or]

end Environment

namespace Config

theorem at?_applyEnvironment_e2b (c : Config) {env : Environment} (henv : env.IsFilled) {name : String}
    (h : [name] ∈ c.e2b.form.leaves) :
    (c.applyEnvironment env).form.at? ["e2b", name] =
      (env.value? ["e2b", name]).or (c.form.at? ["e2b", name]) := by
  rw [E2bConfig.leaves_form] at h
  simp only [List.map_cons, List.map_nil, List.mem_cons, List.not_mem_nil, or_false, List.cons.injEq,
    and_true] at h
  rcases h with rfl | rfl | rfl | rfl | rfl
  · exact henv.text_override (by decide) (by decide) (by decide +kernel) _
  · exact henv.text_override (by decide) (by decide) (by decide +kernel) _
  · exact henv.text_override (by decide) (by decide) (by decide +kernel) _
  · rw [Environment.value?_of_not_mem (by decide)]
    rfl
  · rw [Environment.value?_of_not_mem (by decide)]
    rfl

theorem at?_applyEnvironment_cloud (c : Config) {env : Environment} (henv : env.IsFilled)
    {name : String} (h : [name] ∈ c.cloud.form.leaves) :
    (c.applyEnvironment env).form.at? ["cloud", name] =
      (env.value? ["cloud", name]).or (c.form.at? ["cloud", name]) := by
  rw [CloudConfig.leaves_form] at h
  simp only [List.map_cons, List.map_nil, List.mem_cons, List.not_mem_nil, or_false, List.cons.injEq,
    and_true] at h
  rcases h with rfl | rfl | rfl | rfl | rfl | rfl
  · exact henv.text_override (by decide) (by decide) (by decide +kernel) _
  · exact henv.text_override (by decide) (by decide) (by decide +kernel) _
  · exact henv.text_override (by decide) (by decide) (by decide +kernel) _
  · have hname : Environment.variableOf ["cloud", "internal"] = "AGS_CLOUD_INTERNAL" := by
      decide +kernel
    have hset : (c.applyEnvironment env).form.at? ["cloud", "internal"] = some (.bool
      (((env.get? "AGS_CLOUD_INTERNAL").map saysYes).getD c.cloud.internal)) := rfl
    rw [hset, Environment.value?, if_pos (by decide), hname]
    cases env.get? "AGS_CLOUD_INTERNAL" <;> rfl
  · rw [Environment.value?_of_not_mem (by decide)]
    rfl
  · rw [Environment.value?_of_not_mem (by decide)]
    rfl

/-- The variables of an environment override the members that are named like them, and no others. -/
theorem at?_applyEnvironment {c : Config} {env : Environment} (henv : env.IsFilled)
    {path : List String} (h : path ∈ c.form.leaves) :
    (c.applyEnvironment env).form.at? path = (env.value? path).or (c.form.at? path) := by
  rcases exists_of_mem_leaves h with rfl | ⟨name, rfl, -⟩ | ⟨name, rfl, hname⟩ | ⟨name, rfl, hname⟩
  · exact henv.text_override (by decide) (by decide) (by decide +kernel) c.backend
  · have hnone : ["http", name] ∉ Environment.overridable := by simp [Environment.overridable]
    rw [Environment.value?_of_not_mem hnone]
    rfl
  · exact c.at?_applyEnvironment_e2b henv hname
  · exact c.at?_applyEnvironment_cloud henv hname

end Config

theorem Environment.override_override (env : Environment) (name old : String) :
    env.override name (env.override name old) = env.override name old := by
  unfold override
  cases Text.nonEmpty (env.get? name) <;> rfl

namespace Config

/-- An environment that is applied again changes nothing. -/
theorem applyEnvironment_applyEnvironment (c : Config) (env : Environment) :
    (c.applyEnvironment env).applyEnvironment env = c.applyEnvironment env := by
  simp only [applyEnvironment, Environment.override_override]
  cases env.get? "AGS_CLOUD_INTERNAL" <;> rfl

/-! ## Credentials -/

/-- The members that hold the credentials of a backend. -/
def credentials : BackendKind → List (List String)
  | .e2b => [["e2b", "api_key"]]
  | .cloud => [["cloud", "secret_id"], ["cloud", "secret_key"]]

theorem text_ne_empty_iff (s : String) : some (Value.text s) ≠ some (.text "") ↔ s.isEmpty = false := by
  rw [Bool.eq_false_iff, ne_eq, ne_eq, Option.some.injEq, Value.text.injEq, String.isEmpty_iff]

/-- The check succeeds exactly if no credential of the backend is empty that the name of the backend
stands for. -/
theorem validate_eq_ok_iff (c : Config) :
    c.validate = .ok () ↔
      ∀ path ∈ credentials (.ofName c.backend), c.form.at? path ≠ some (.text "") := by
  have hok : c.validate = .ok () ↔ c.hasCredentials (.ofName c.backend) = true := by
    unfold validate backendKind
    split
    · next h => exact ⟨fun _ => h, fun _ => rfl⟩
    · next h => exact ⟨nofun, fun hc => absurd hc h⟩
  rw [hok]
  cases BackendKind.ofName c.backend with
  | e2b =>
    have hkey : c.form.at? ["e2b", "api_key"] = some (.text c.e2b.apiKey) := rfl
    simp only [hasCredentials, credentials, List.forall_mem_singleton, hkey, text_ne_empty_iff,
      Bool.not_eq_true']
  | cloud =>
    have hid : c.form.at? ["cloud", "secret_id"] = some (.text c.cloud.secretId) := rfl
    have hkey : c.form.at? ["cloud", "secret_key"] = some (.text c.cloud.secretKey) := rfl
    simp only [hasCredentials, credentials, List.forall_mem_cons, List.not_mem_nil,
      false_implies, implies_true, and_true, hid, hkey, text_ne_empty_iff, Bool.and_eq_true,
      Bool.not_eq_true']

/-! ## All layers -/

/-- The layers of a configuration: `base` is what is left of `c`, and `final` is that after the
variables of an environment. -/
structure IsLayered (c : Config) (gone : List String → Bool) (env : Environment)
    (base final : Config) : Prop where
  /-- What was removed has its default. -/
  removed : ∀ path ∈ c.form.leaves, Removed gone path →
    base.form.at? path = default.form.at? path
  kept : ∀ path ∈ c.form.leaves, ¬ Removed gone path → base.form.at? path = c.form.at? path
  /-- A variable that is set overrides its member, and every other member is what it was. -/
  overridden : ∀ path ∈ c.form.leaves,
    final.form.at? path = (env.value? path).or (base.form.at? path)
  idempotent : final.applyEnvironment env = final
  /-- The check asks for the credentials of the backend that the name stands for. -/
  valid : final.validate = .ok () ↔
    ∀ path ∈ credentials (.ofName final.backend), final.form.at? path ≠ some (.text "")
  /-- A client is built with that backend. -/
  chosen : ∀ a now client, Client.build a final now = .ok client →
    client.backend.kind = .ofName final.backend

/-- What is left of the form of a configuration, as a document, as a text or in a file, is decoded, and
an environment without empty variables is applied to what is decoded, layer by layer. -/
theorem layered_load (c : Config) (gone : List String → Bool) {env : Environment}
    (henv : env.IsFilled) :
    let left := c.form.without gone
    ∃ base, ofDocument? (.ofValue left) = some base ∧
      (c.http.IsBounded → decodeText? ofDocument? left.toText = some base) ∧
      (∀ content text v, Utf8.decodeStrict? content = some text → Toml.read? text = some v →
        v.document = .ofValue left → load (some content) env = .ok (base.applyEnvironment env)) ∧
      c.IsLayered gone env base (base.applyEnvironment env) := by
  intro left
  have hdecoded : ofDocument? (.ofValue left) = some (c.reset gone) := c.ofDocument?_without gone
  refine ⟨c.reset gone, hdecoded, fun hhttp => ?_, fun content text v hcontent hread hdocument => ?_,
    fun path hpath => (at?_reset hpath).1, fun path hpath => (at?_reset hpath).2,
    fun path hpath => ?_, applyEnvironment_applyEnvironment _ env, validate_eq_ok_iff _,
    fun a now client => Client.kind_of_build⟩
  · have hfits : left.Fits maxNesting := (fits_form hhttp).without gone
    rw [decodeText?_toText hfits, hdecoded]
  · have hfile : ofFile (some content) = .ok (c.reset gone) := by
      simp only [ofFile, hcontent, ofText, hread, Option.bind_some, hdocument, hdecoded]
    rw [load, hfile]
    rfl
  · exact at?_applyEnvironment henv (leaves_reset c gone ▸ hpath)

/-- A file without a table, a limit and credentials, whose backend is named in capitals between blanks,
and an environment that adds the credentials, moves the region and leaves the internal network. -/
theorem layered_load_shanghai :
    let c : Config := ⟨" Cloud ", ⟨5, some 30⟩, ⟨"old", "d", "r", none, none⟩,
      ⟨"old", "old", "ap-shanghai", true, none, none⟩⟩
    let gone (path : List String) : Bool := path ∈ [["http", "timeout_seconds"], ["e2b"],
      ["cloud", "secret_id"], ["cloud", "secret_key"], ["cloud", "endpoint_url"],
      ["cloud", "execute_url"]]
    let text := "backend = \" Cloud \"\n[http]\ncall_timeout_seconds = 30\n" ++
      "[cloud]\nregion = \"ap-shanghai\"\ninternal = true"
    let env : Environment := [("AGS_CLOUD_REGION", "ap-beijing"), ("AGS_CLOUD_SECRET_ID", "id"),
      ("AGS_CLOUD_SECRET_KEY", "key"), ("AGS_CLOUD_INTERNAL", " 0 ")]
    let final : Config := ⟨" Cloud ", ⟨60, some 30⟩, E2bConfig.default,
      ⟨"id", "key", "ap-beijing", false, none, none⟩⟩
    c.IsLayered gone env (c.reset gone) final ∧ load (some (Utf8.encode text)) env = .ok final ∧
      final.validate = .ok () := by
  intro c gone text env final
  have henv : env.IsFilled := by
    unfold Environment.IsFilled
    decide +kernel
  obtain ⟨base, hbase, -, hload, hlayered⟩ := layered_load c gone henv
  obtain rfl : c.reset gone = base := Option.some.inj ((c.ofDocument?_without gone).symm.trans hbase)
  have hfinal : (c.reset gone).applyEnvironment env = final := by decide +kernel
  have hread : Toml.read? text.toList = some (.table [("backend", .text " Cloud "),
      ("http", .table [("call_timeout_seconds", .int 30)]),
      ("cloud", .table [("region", .text "ap-shanghai"), ("internal", .bool true)])]) := by
    rw [String.toList_append, String.toList_ofList, String.toList_ofList]
    rfl
  rw [hfinal] at hload hlayered
  refine ⟨hlayered, hload _ _ _ (Utf8.decodeStrict?_encode text) hread ?_, hlayered.valid.2 ?_⟩
  · rfl
  · have hkind : BackendKind.ofName final.backend = .cloud := by decide +kernel
    rw [hkind]
    simp [credentials, form, CloudConfig.form, Value.at?, Value.member?, lookup?, final]

end Config

end AgentSandbox

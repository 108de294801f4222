import AgentSandbox.Config.Form
import AgentSandbox.Proofs.Json.Rereading

/-!
# The JSON form of a configuration is read again

A configuration is decoded as it was written if its limits have 64 bits (`HttpConfig.IsBounded`), as
those have that a text is decoded as.  A part that is not given has its default, whose limits
are bounded, too.
-/

namespace AgentSandbox

open Json

namespace HttpConfig

/-- The limits have 64 bits. -/
structure IsBounded (c : HttpConfig) : Prop where
  timeout : IsWord c.timeoutSeconds
  callTimeout : ∀ n ∈ c.callTimeoutSeconds, IsWord n

theorem isBounded_default : HttpConfig.default.IsBounded := ⟨by decide, nofun⟩

theorem isWord_of_nat? {room : Nat} {d : Document} (hd : d.IsBounded room) {n : Nat}
    (h : d.nat? = some n) : IsWord n := by
  cases hd with
  | @int _ k hk =>
    cases k with
    | ofNat k =>
      cases h
      exact hk
    | negSucc k => cases h
  | _ => cases h

/-- The limits that a bounded document gives have 64 bits. -/
theorem isBounded_of_ofDocument? {room : Nat} {d : Document} (hd : d.IsBounded room)
    {c : HttpConfig} (h : ofDocument? d = some c) : c.IsBounded := by
  unfold ofDocument? at h
  simp only [Option.bind_eq_bind, Option.bind_eq_some_iff] at h
  obtain ⟨fs, hfs, timeout, htimeout, callTimeout, hcall, ⟨⟩⟩ := h
  constructor
  · unfold Fields.orDefault at htimeout
    split at htimeout
    · cases htimeout
      exact isBounded_default.timeout
    · next e he => exact isWord_of_nat? (hd.of_lookup? hfs he) htimeout
  · intro n hn
    unfold Fields.orDefault at hcall
    split at hcall
    · cases hcall
      cases hn
    · next e he =>
      unfold Document.nullable? at hcall
      split at hcall
      · cases hcall
        cases hn
      · obtain ⟨k, hk, rfl⟩ := Option.map_eq_some_iff.1 hcall
        cases hn
        exact isWord_of_nat? (hd.of_lookup? hfs he) hk

theorem fits_form {c : HttpConfig} (h : c.IsBounded) {room : Nat} : c.form.Fits (room + 1) := by
  obtain ⟨timeout, callTimeout⟩ := c
  cases callTimeout with
  | none => simp [form, Value.natOrNull, h.timeout]
  | some n => simp [form, Value.natOrNull, h.timeout, h.callTimeout n rfl]

theorem ofDocument?_form (c : HttpConfig) : ofDocument? (.ofValue c.form) = some c := by
  obtain ⟨timeout, callTimeout⟩ := c
  cases callTimeout <;> rfl

theorem isStable : IsStable ofDocument? form :=
  isStableOn_of fun _ c hd hc _ => ⟨fits_form (isBounded_of_ofDocument? hd hc), c.ofDocument?_form⟩

end HttpConfig

namespace E2bConfig

theorem fits_form (c : E2bConfig) {room : Nat} : c.form.Fits (room + 1) := by
  simp [form]

theorem ofDocument?_form (c : E2bConfig) : ofDocument? (.ofValue c.form) = some c := by
  obtain ⟨apiKey, domain, region, apiUrl, executeUrl⟩ := c
  cases apiUrl <;> cases executeUrl <;> rfl

theorem isStable : IsStable ofDocument? form :=
  isStable_of (fun c => c.fits_form) ofDocument?_form

end E2bConfig

namespace CloudConfig

theorem fits_form (c : CloudConfig) {room : Nat} : c.form.Fits (room + 1) := by
  simp [form]

theorem ofDocument?_form (c : CloudConfig) : ofDocument? (.ofValue c.form) = some c := by
  obtain ⟨secretId, secretKey, region, internal, endpointUrl, executeUrl⟩ := c
  cases endpointUrl <;> cases executeUrl <;> rfl

theorem isStable : IsStable ofDocument? form :=
  isStable_of (fun c => c.fits_form) ofDocument?_form

end CloudConfig

namespace Config

/-- The limits in a configuration that a bounded document gives have 64 bits. -/
theorem isBounded_http {room : Nat} {d : Document} (hd : d.IsBounded room) {c : Config}
    (h : ofDocument? d = some c) : c.http.IsBounded := by
  unfold ofDocument? at h
  simp only [Option.bind_eq_bind, Option.bind_eq_some_iff] at h
  obtain ⟨fs, hfs, backend, -, http, hhttp, e2b, -, cloud, -, ⟨⟩⟩ := h
  unfold Fields.orDefault at hhttp
  split at hhttp
  · cases hhttp
    exact HttpConfig.isBounded_default
  · next e he => exact HttpConfig.isBounded_of_ofDocument? (hd.of_lookup? hfs he) hhttp

theorem fits_form {c : Config} (h : c.http.IsBounded) {room : Nat} : c.form.Fits (room + 2) := by
  have hhttp : c.http.form.Fits (room + 1) := HttpConfig.fits_form h
  have he2b : c.e2b.form.Fits (room + 1) := c.e2b.fits_form
  have hcloud : c.cloud.form.Fits (room + 1) := c.cloud.fits_form
  simp [form, hhttp, he2b, hcloud]

theorem ofDocument?_form (c : Config) : ofDocument? (.ofValue c.form) = some c := by
  show (HttpConfig.ofDocument? (.ofValue c.http.form)).bind (fun http =>
    (E2bConfig.ofDocument? (.ofValue c.e2b.form)).bind fun e2b =>
    (CloudConfig.ofDocument? (.ofValue c.cloud.form)).bind fun cloud =>
    some ⟨c.backend, http, e2b, cloud⟩) = some c
  rw [c.http.ofDocument?_form, c.e2b.ofDocument?_form, c.cloud.ofDocument?_form]
  rfl

theorem isStable : IsStable ofDocument? form :=
  isStableOn_of fun _ c hd hc _ => ⟨fits_form (isBounded_http hd hc), c.ofDocument?_form⟩

end Config

end AgentSandbox

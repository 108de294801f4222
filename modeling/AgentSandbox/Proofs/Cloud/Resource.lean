import AgentSandbox.Proofs.Cloud.Signing
import AgentSandbox.Proofs.Text.Table
import AgentSandbox.Proofs.Url.Reader

/-!
# The resource that is signed

The text whose digest is signed names a path and a query in its second and third line.  They are the
same for every request (`Signature.resource?_eq`), whatever the URL to which the request goes.
-/

namespace AgentSandbox

namespace Signature

/-- The path and the query that a canonical request names. -/
def Subject.resource? (s : Subject) : Option (List Char × List Char) :=
  match Text.cut (· = '\n') (canonicalRequest s).toList with
  | _ :: path :: query :: _ => some (path, query)
  | _ => none

/-- Every canonical request names the root and no query. -/
theorem resource?_eq (s : Subject) : s.resource? = some (['/'], []) := by
  obtain ⟨rest, hrest⟩ : ∃ rest, (canonicalRequest s).toList =
      "POST".toList ++ '\n' :: (['/'] ++ '\n' :: ([] ++ '\n' :: rest)) := by
    rw [canonicalRequest, String.toList_intercalate]
    simp only [List.map_cons, List.intercalate_cons_cons]
    exact ⟨_, rfl⟩
  have hpost : ∀ c ∈ "POST".toList, decide (c = '\n') = false := by simp
  have hroot : ∀ c ∈ ['/'], decide (c = '\n') = false := by simp
  rw [Subject.resource?, hrest, Text.cut_append hpost rfl, Text.cut_append hroot rfl,
    Text.cut_append (fun c hc => absurd hc List.not_mem_nil) rfl]

end Signature

/-- The path and the query of a URL, as they are sent. -/
def Url.resource (u : Url) : List Char × List Char := (u.path.text, u.query.getD [])

/-- The resource is the root, without a query or with an empty one. -/
def Url.IsRoot (u : Url) : Prop := u.path.text = ['/'] ∧ u.query.getD [] = []

namespace CloudConfig

open Url

/-- The URL of the control plane says nothing behind a host and a port. -/
def IsBare (config : CloudConfig) : Prop :=
  ∃ scheme solidi authority, Url.IsBare (cleaned config.controlPlaneUrl) scheme solidi authority

/-- The usual control plane has such a URL. -/
theorem isBare_of_none {config : CloudConfig} (h : config.endpointUrl = none) : config.IsBare := by
  have hurl : config.controlPlaneUrl = "https://" ++ config.controlPlaneEndpoint := by
    rw [controlPlaneUrl, h]
  unfold IsBare
  rw [hurl, controlPlaneEndpoint]
  have hsolidi : ∀ c ∈ ['/', '/'], c = '/' ∨ c = '\\' := by simp
  have hauthority {host : List Char} (h : host.all (fun c => !endsAuthority true c) = true) :
      ∀ c ∈ host, endsAuthority true c = false :=
    fun c hc => Bool.not_eq_true' _ ▸ List.all_eq_true.1 h c hc
  cases config.internal with
  | false =>
    exact ⟨"https", ['/', '/'], "ags.tencentcloudapi.com".toList, by decide +kernel, .inr rfl,
      hsolidi, hauthority (by decide +kernel)⟩
  | true =>
    exact ⟨"https", ['/', '/'], "ags.internal.tencentcloudapi.com".toList, by decide +kernel,
      .inr rfl, hsolidi, hauthority (by decide +kernel)⟩

end CloudConfig

namespace CloudBackend

/-- A request says of itself what is signed of it, and goes to a URL. -/
structure SignsFor (keys : Credentials) (now : Instant) (url : Url) (s : Signature.Subject)
    (r : Request) : Prop where
  url : r.url = url
  host : r.header? "host" = some s.host
  action : r.header? "x-tc-action" = some s.action
  payload : Utf8.encode r.body = s.payload
  authorization : r.header? "authorization" = some (Signature.authorization keys s now)

variable {b : CloudBackend} {config : CloudConfig} {limit : Option Nat} {now : Instant}

theorem parse_of_make (h : make config limit now = .ok b) :
    Url.parse config.controlPlaneUrl = .ok b.url ∧ b.now = now := by
  unfold make at h
  split at h
  · cases h
  · next url hurl =>
    split at h
    · cases h
      exact ⟨hurl, rfl⟩
    · cases h

theorem isRoot_of_isBare (h : make config limit now = .ok b) (hbare : config.IsBare) :
    b.url.IsRoot := by
  obtain ⟨scheme, solidi, authority, hbare⟩ := hbare
  obtain ⟨hpath, hquery⟩ := Url.root_of_isBare hbare (parse_of_make h).1
  rw [Url.IsRoot, hpath, hquery]
  exact ⟨rfl, rfl⟩

/-- A request that names an action is one for an action. -/
theorem IsRequest.isActionRequest {r : Request} (hr : b.IsRequest r) (h : r.NamesAction) :
    b.IsActionRequest r := by
  cases hr with
  | action name body => exact ⟨name, body, rfl⟩
  | execution url token body =>
    unfold Request.NamesAction Request.header? at h
    rcases Execution.requestHeaders_cases token with hheaders | ⟨t, hheaders⟩
    all_goals
      rw [hheaders] at h
      cases h

/-- What is signed of a request for an action. -/
theorem IsActionRequest.signsFor {r : Request} (hr : b.IsActionRequest r) :
    ∃ s, SignsFor b.credentials b.now b.url s r := by
  obtain ⟨name, body, rfl⟩ := hr
  exact ⟨⟨b.host, name, Utf8.encode body⟩, rfl, rfl, rfl, rfl, rfl⟩

end CloudBackend

/-- The resource that is signed is the one to which a request goes if that is the root. -/
theorem Signature.resource?_eq_iff (s : Subject) (u : Url) :
    s.resource? = some u.resource ↔ u.IsRoot := by
  rw [resource?_eq, Option.some.injEq, Url.resource, Prod.mk.injEq, Url.IsRoot]
  exact and_congr eq_comm eq_comm

end AgentSandbox

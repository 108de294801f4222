import AgentSandbox.Client.Basic
import AgentSandbox.Proofs.Success

/-!
# Clients built from a configuration

The backend of a client is the one that the name in its configuration stands for
(`Client.kind_of_build`).  With another limit for requests in the configuration, and in either way
that does not check the configuration, a client is built that differs in the limit of its backend
and in nothing else (`Client.build_withTimeout`).
-/

namespace AgentSandbox

/-! ## Backends with other limits -/

/-- The limit of a backend that is built from a configuration. -/
def Client.Assembly.limit (seconds : Nat) : Client.Assembly → Option Nat
  | .bare => none
  | _ => some (Client.milliseconds seconds)

theorem Client.Assembly.limit_ne_zero (a : Client.Assembly) {seconds : Nat} (h : seconds ≠ 0) :
    a.limit seconds ≠ some 0 := by
  have hpos : Client.milliseconds seconds ≠ 0 := Nat.mul_ne_zero h (by decide)
  cases a with
  | bare => nofun
  | limited => exact fun heq => hpos (Option.some.inj heq)
  | configured => exact fun heq => hpos (Option.some.inj heq)

/-- The limit for calls of a client that is built from a configuration. -/
def Client.Assembly.callLimit (http : HttpConfig) : Client.Assembly → Option Nat
  | .configured => (http.callTimeoutSeconds.filter (0 < ·)).map Client.milliseconds
  | _ => none

theorem Client.Assembly.callLimit_of_ne {a : Client.Assembly} (ha : a ≠ .configured)
    (http : HttpConfig) : a.callLimit http = none := by
  cases a with
  | bare => rfl
  | limited => rfl
  | configured => exact absurd rfl ha

/-- The backend with another limit for management requests. -/
def CloudBackend.withLimit (limit : Option Nat) (b : CloudBackend) : CloudBackend :=
  { b with limit := limit }

theorem CloudBackend.make_withLimit {config : CloudConfig} {limit : Option Nat} {now : Instant}
    {b : CloudBackend} (h : make config limit now = .ok b) (limit' : Option Nat) :
    b.limit = limit ∧ make config limit' now = .ok (b.withLimit limit') := by
  unfold make at h ⊢
  split at h
  · cases h
  split at h
  · next hauthority =>
    cases h
    exact ⟨rfl, rfl⟩
  · cases h

namespace Backend

/-- The milliseconds that a management request may take. -/
def limit : Backend → Option Nat
  | .e2b b => b.limit
  | .cloud b => b.limit

/-- The backend with another limit for management requests. -/
def withLimit (limit : Option Nat) : Backend → Backend
  | .e2b b => .e2b { b with limit := limit }
  | .cloud b => .cloud (b.withLimit limit)

end Backend

/-- The same configuration with another limit for requests. -/
def Config.withTimeout (seconds : Nat) (c : Config) : Config :=
  { c with http := { c.http with timeoutSeconds := seconds } }

/-! ## Building -/

namespace Client

variable {config : Config} {now : Instant}

theorem backendOf_e2b {config : Config} (h : config.backendKind = .e2b) (limit : Option Nat)
    (now : Instant) : backendOf config limit now = .ok (.e2b ⟨config.e2b, limit, now⟩) := by
  rw [backendOf, h]

theorem backendOf_cloud {config : Config} (h : config.backendKind = .cloud) (limit : Option Nat)
    (now : Instant) :
    backendOf config limit now = (CloudBackend.make config.cloud limit now).map .cloud := by
  rw [backendOf, h]

theorem kind_of_backendOf {limit : Option Nat} {b : Backend}
    (h : backendOf config limit now = .ok b) : b.kind = config.backendKind := by
  cases hkind : config.backendKind with
  | e2b =>
    rw [backendOf_e2b hkind] at h
    cases h
    rfl
  | cloud =>
    rw [backendOf_cloud hkind] at h
    obtain ⟨cloud, -, rfl⟩ := map_eq_ok_iff.1 h
    rfl

theorem backendOf_withTimeout {limit : Option Nat} {b : Backend}
    (h : backendOf config limit now = .ok b) (seconds : Nat) (limit' : Option Nat) :
    b.limit = limit ∧ backendOf (config.withTimeout seconds) limit' now = .ok (b.withLimit limit') := by
  cases hkind : config.backendKind with
  | e2b =>
    have hkind' : (config.withTimeout seconds).backendKind = .e2b := hkind
    rw [backendOf_e2b hkind] at h
    rw [backendOf_e2b hkind']
    cases h
    exact ⟨rfl, rfl⟩
  | cloud =>
    have hkind' : (config.withTimeout seconds).backendKind = .cloud := hkind
    rw [backendOf_cloud hkind] at h
    obtain ⟨cloud, hmake, rfl⟩ := map_eq_ok_iff.1 h
    obtain ⟨hlimit, hmake'⟩ := CloudBackend.make_withLimit hmake limit'
    have hmake' : CloudBackend.make (config.withTimeout seconds).cloud limit' now = _ := hmake'
    rw [backendOf_cloud hkind', hmake']
    exact ⟨hlimit, rfl⟩

theorem build_configured (config : Config) (now : Instant) :
    build .configured config now = config.validate >>= fun _ =>
      (backendOf config (Assembly.limit config.http.timeoutSeconds .configured) now).map fun b =>
        ⟨b, Assembly.callLimit config.http .configured⟩ := by
  have hmap {x : Except Error Backend} {limit : Option Nat} :
      (x >>= fun b => .ok ⟨b, limit⟩) = x.map fun b => Client.mk b limit := by
    cases x <;> rfl
  unfold build
  dsimp only
  rw [hmap]
  rfl

theorem build_of_ne {a : Assembly} (ha : a ≠ .configured) (config : Config) (now : Instant) :
    build a config now =
      (backendOf config (a.limit config.http.timeoutSeconds) now).map fun b =>
        ⟨b, a.callLimit config.http⟩ := by
  cases a with
  | bare => rfl
  | limited => rfl
  | configured => exact absurd rfl ha

/-- A client is built if its backend is and, where it is checked first, the configuration is valid. -/
theorem build_eq_ok_iff {a : Assembly} {c : Client} :
    build a config now = .ok c ↔ (a = .configured → config.validate = .ok ()) ∧
      backendOf config (a.limit config.http.timeoutSeconds) now = .ok c.backend ∧
      c.callLimit = a.callLimit config.http := by
  have hmap (limit calls : Option Nat) :
      ((backendOf config limit now).map fun b => Client.mk b calls) = .ok c ↔
        backendOf config limit now = .ok c.backend ∧ c.callLimit = calls := by
    rw [map_eq_ok_iff]
    constructor
    · rintro ⟨b, hb, rfl⟩
      exact ⟨hb, rfl⟩
    · rintro ⟨hb, rfl⟩
      exact ⟨c.backend, hb, rfl⟩
  by_cases ha : a = .configured
  · subst ha
    simp only [build_configured, bind_eq_ok_iff, hmap, forall_const]
    exact ⟨fun ⟨_, h⟩ => h, fun h => ⟨(), h⟩⟩
  · rw [build_of_ne ha, hmap]
    exact ⟨fun h => ⟨fun h' => absurd h' ha, h⟩, fun h => h.2⟩

/-- The backend of a client is the one that the name in its configuration stands for. -/
theorem kind_of_build {a : Assembly} {c : Client} (h : build a config now = .ok c) :
    c.backend.kind = .ofName config.backend := kind_of_backendOf (build_eq_ok_iff.1 h).2.1

/-- With another limit for requests, a client is built that differs in the limit of its backend and in
nothing else. -/
theorem build_withTimeout {a a' : Assembly} (ha : a ≠ .configured) (ha' : a' ≠ .configured)
    {c : Client} (h : build a config now = .ok c) (seconds : Nat) :
    c.backend.limit = a.limit config.http.timeoutSeconds ∧
      build a' (config.withTimeout seconds) now =
        .ok ⟨c.backend.withLimit (a'.limit seconds), c.callLimit⟩ := by
  obtain ⟨-, hb, hlimit⟩ := build_eq_ok_iff.1 h
  obtain ⟨hrequests, hb'⟩ := backendOf_withTimeout hb seconds (a'.limit seconds)
  refine ⟨hrequests, build_eq_ok_iff.2 ⟨fun h => absurd h ha', hb', ?_⟩⟩
  rw [hlimit, Assembly.callLimit_of_ne ha, Assembly.callLimit_of_ne ha']

end Client

end AgentSandbox

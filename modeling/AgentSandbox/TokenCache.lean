import AgentSandbox.Dictionary

/-!
# Access tokens of instances

A `TokenCache` binds the ids of instances to the tokens that open their services.  `TokenCache.run`
is a sequence of operations on a cache and what each of them answers.
-/

namespace AgentSandbox

/-- The tokens of some instances, by instance id. -/
abbrev TokenCache := Dictionary String

namespace TokenCache

/-- An operation on a token cache. -/
inductive Operation where
  | insert (id token : String)
  | get (id : String)
  | evict (id : String)
  deriving DecidableEq

/-- The cache after an operation. -/
def after (c : TokenCache) : Operation → TokenCache
  | .insert id token => Dictionary.insert c id token
  | .get _ => c
  | .evict id => Dictionary.erase c id

/-- The token that an operation looks up, if it looks one up and finds it. -/
def answer (c : TokenCache) : Operation → Option String
  | .get id => Dictionary.find? c id
  | _ => none

/-- The caches after each of some operations, with the token that the operation found. -/
def run (c : TokenCache) : List Operation → List (Option String × TokenCache)
  | [] => []
  | op :: ops => (answer c op, after c op) :: run (after c op) ops

end TokenCache

end AgentSandbox

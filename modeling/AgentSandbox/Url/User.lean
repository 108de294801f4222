import AgentSandbox.Text.Base64
import AgentSandbox.Text.Utf8
import AgentSandbox.Url.Percent

/-!
# Users in URLs

A URL may name a user, with a password or without one, in front of its host.  `User.ofText?` reads
what stands there, and `User.authorization?` is what a request to the URL says of it.
-/

namespace AgentSandbox.Url

/-- The user that a URL names, as the URL spells the name and the password. -/
structure User where
  name : List Char
  password : Option (List Char)
  deriving DecidableEq

namespace User

/-- The user that a text names: the password stands behind the first colon, and an empty one is
none. -/
def ofText? (cs : List Char) : Option User :=
  let name := cs.takeWhile (· ≠ ':')
  let password := cs.drop (name.length + 1)
  if name = [] && password = [] then none
  else some ⟨escape userSet name, if password = [] then none else some (escape userSet password)⟩

/-- The text that a part of a URL spells, if its bytes are well-formed. -/
def spelled? (cs : List Char) : Option String :=
  (Utf8.decodeStrict? (unescape cs)).map String.ofList

/-- The authorization that names the user and the password.  A name that is not well-formed is not
named at all, and a password that is not well-formed is left out. -/
def authorization? (u : User) : Option String := do
  let name ← spelled? u.name
  let password := u.password.bind spelled?
  if name.isEmpty && password.isNone then none
  else some ("Basic " ++ String.ofList (base64 (Utf8.encode (name ++ ":" ++ password.getD ""))))

end User

end AgentSandbox.Url

import AgentSandbox.Url.Host
import AgentSandbox.Url.Path
import AgentSandbox.Url.User

/-!
# URLs

A `Url` has the parts of an absolute URL in their normal form, so that two spellings of one URL are
equal.  `Url.text` writes a URL without the user that it may name: a request is sent to that text.
`Url.isRequestable` says whether an HTTP request can be sent to it.
-/

namespace AgentSandbox

open AgentSandbox.Url in
/-- The user, the host and the port of a URL.  The host may be empty; a usual port is left out. -/
structure Authority where
  user : Option User
  host : Option Host
  port : Option Nat
  deriving DecidableEq

open AgentSandbox.Url in
/-- An absolute URL. -/
structure Url where
  scheme : String
  authority : Option Authority
  path : Path
  query : Option (List Char)
  fragment : Option (List Char)
  deriving DecidableEq

/-- The text of a host and a port. -/
def Authority.text (a : Authority) : String :=
  (a.host.map Url.Host.text).getD "" ++ (a.port.map fun p => ":" ++ toString p).getD ""

namespace Url

/-- The kind of URL that a scheme makes. -/
def kindOf (scheme : String) : Kind :=
  if ["http", "https", "ws", "wss", "ftp"].contains scheme then .web
  else if scheme = "file" then .file
  else .other

/-- The port that a scheme uses unless another is given. -/
def usualPort? (scheme : String) : Option Nat :=
  match scheme with
  | "http" | "ws" => some 80
  | "https" | "wss" => some 443
  | "ftp" => some 21
  | _ => none

/-- The kind of a URL. -/
def kind (u : Url) : Kind := kindOf u.scheme

/-- The host of a URL. -/
def host? (u : Url) : Option Host := u.authority.bind Authority.host

/-- The authorization of the user that a URL names. -/
def userAuthorization? (u : Url) : Option String :=
  (u.authority.bind Authority.user).bind User.authorization?

/-- The text between the scheme and the path.  A path that would be taken for a host is marked. -/
def authorityText (u : Url) : String :=
  match u.authority, u.path with
  | some a, _ => "//" ++ a.text
  | none, .segments ([] :: _ :: _) => "/."
  | none, _ => ""

/-- The text of a query. -/
def queryText (u : Url) : String :=
  (u.query.map fun q => "?" ++ String.ofList q).getD ""

/-- The text of a URL without its fragment, as it is sent. -/
def target (u : Url) : String :=
  u.scheme ++ ":" ++ u.authorityText ++ String.ofList u.path.text ++ u.queryText

/-- The text of a URL. -/
def text (u : Url) : String :=
  u.target ++ (u.fragment.map fun f => "#" ++ String.ofList f).getD ""

/-- The path without an empty segment at its end. -/
def popEmpty (u : Url) : Url := { u with path := u.path.popEmpty }

/-- The URL with one more segment at the end of its path. -/
def push (u : Url) (segment : String) : Url :=
  { u with path := u.path.push u.kind segment.toList }

/-- Whether segments can be added to the path. -/
def hasSegments (u : Url) : Bool :=
  match u.path with
  | .segments _ => true
  | .rootless _ => false

/-- The longest URL that a request can be sent to, in bytes. -/
def maxLength : Nat := 65534

/-- Whether a host can stand in a request. -/
def Host.isSendable (h : Host) : Bool :=
  h.text.toList.all fun c => !(['"', '\x60', '\x7b', '\x7d'].contains c)

/-- Whether an HTTP request can be sent to a URL. -/
def isRequestable (u : Url) : Bool :=
  (u.scheme = "http" || u.scheme = "https") && u.host?.any Host.isSendable &&
    u.text.utf8ByteSize ≤ maxLength

end Url

end AgentSandbox

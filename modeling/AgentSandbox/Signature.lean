import AgentSandbox.Calendar
import AgentSandbox.Digest.Sha256
import AgentSandbox.Text.Blank
import AgentSandbox.Text.Utf8

/-!
# Request signatures

`Signature.authorization` is the value of the authorization header of a control plane request.  A
digest of the request's method, path, signed headers and body goes, with the time and the scope,
into the string to sign, which is signed with a key derived from the secret key, the day and the
service.
-/

namespace AgentSandbox

/-- The pair of keys that a control plane request is signed with. -/
structure Credentials where
  secretId : String
  secretKey : String
  deriving DecidableEq

namespace Signature

/-- The name of the method. -/
def algorithm : String := "TC3-HMAC-SHA256"

/-- The name of the service that is called. -/
def service : String := "ags"

/-- The last part of every scope. -/
def requestKind : String := "tc3_request"

/-- The content type of every request body. -/
def contentType : String := "application/json; charset=utf-8"

/-- The names of the headers that are signed. -/
def signedHeaders : String := "content-type;host;x-tc-action"

/-- The digest of bytes in hexadecimal digits. -/
def digestHex (bytes : List UInt8) : String := hex (Sha256.digest bytes)

/-- What the signature says of a request. -/
structure Subject where
  host : String
  action : String
  payload : List UInt8

/-- The text whose digest stands for a request: method, path, query, headers and body digest. -/
def canonicalRequest (s : Subject) : String :=
  "\n".intercalate
    ["POST", "/", "", "content-type:" ++ contentType, "host:" ++ s.host,
      "x-tc-action:" ++ Text.lowerAscii s.action, "", signedHeaders, digestHex s.payload]

/-- The scope of a signature made on a day. -/
def scope (date : String) : String := "/".intercalate [date, service, requestKind]

/-- The text that is signed. -/
def stringToSign (s : Subject) (seconds : Int) (date : String) : String :=
  "\n".intercalate
    [algorithm, toString seconds, scope date, digestHex (Utf8.encode (canonicalRequest s))]

/-- The key for a day, derived from the secret key. -/
def signingKey (secretKey date : String) : List UInt8 :=
  let dateKey := hmacSha256 (Utf8.encode ("TC3" ++ secretKey)) (Utf8.encode date)
  hmacSha256 (hmacSha256 dateKey (Utf8.encode service)) (Utf8.encode requestKind)

/-- The signature in hexadecimal digits. -/
def signature (secretKey : String) (s : Subject) (seconds : Int) (date : String) : String :=
  hex (hmacSha256 (signingKey secretKey date) (Utf8.encode (stringToSign s seconds date)))

/-- The value of the authorization header of a request sent at a moment. -/
def authorization (c : Credentials) (s : Subject) (t : Instant) : String :=
  let date := t.date.text
  algorithm ++ " Credential=" ++ c.secretId ++ "/" ++ scope date ++ ", SignedHeaders=" ++
    signedHeaders ++ ", Signature=" ++ signature c.secretKey s t.seconds date

end Signature

end AgentSandbox

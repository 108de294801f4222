import AgentSandbox.Url.Basic

/-!
# Requests and replies

A `Request` is what a client sends; a URL that names a user adds one header to it
(`Request.sentHeaders`).  A `Reply` is what happens once it has arrived: time passes, the caller may
lose patience, and then the connection is closed, nothing comes at all, or a status comes with a
body in chunks, which may break off or never end.  A reply has no headers, so none redirects the
request to another URL.
-/

namespace AgentSandbox

/-- What a request asks for. -/
inductive Method where
  | get
  | post
  | delete
  deriving DecidableEq

/-- The name of a method. -/
def Method.name : Method → String
  | .get => "GET"
  | .post => "POST"
  | .delete => "DELETE"

/-- A request with the headers that the client gives it; their names are in lower case. -/
structure Request where
  method : Method
  url : Url
  headers : List (String × String)
  body : String
  deriving DecidableEq

namespace Request

/-- Whether a text can be the value of a header: it holds no control character but the tabulator. -/
def isHeaderValue (value : String) : Bool :=
  value.toList.all fun c => c = '\t' || (0x20 ≤ c.toNat && c.toNat ≠ 0x7F)

/-- The headers as they are sent: in front of the others, the authorization of the user that the URL
names. -/
def sentHeaders (r : Request) : List (String × String) :=
  (r.url.userAuthorization?.map fun value => ("authorization", value)).toList ++ r.headers

/-- Whether a request can be written at all. -/
def isWritable (r : Request) : Bool :=
  r.url.isRequestable && r.headers.all fun h => isHeaderValue h.2

end Request

/-! ## Replies -/

/-- Some bytes of a body, and the milliseconds that pass before they arrive. -/
structure Chunk where
  pause : Nat
  bytes : List UInt8
  deriving DecidableEq

/-- What comes behind the last chunk of a body. -/
inductive BodyEnd where
  | complete
  | broken
  /-- Nothing: the connection stays open. -/
  | silence
  deriving DecidableEq

/-- How the service answers a request. -/
inductive Response where
  | closed
  | silence
  | answer (status : Nat) (chunks : List Chunk) (ending : BodyEnd)
  deriving DecidableEq

/-- What happens when a request has arrived. -/
structure Reply where
  /-- Whether the caller cancels at that moment. -/
  cancels : Bool
  /-- The milliseconds that pass before anything is answered. -/
  pause : Nat
  response : Response
  deriving DecidableEq

/-- Whether a reply of this status has no body. -/
def isBodyless (status : Nat) : Bool := status = 204 || status = 304

/-- The response with a status and a whole body. -/
def Response.whole (status : Nat) (body : List UInt8) : Response :=
  .answer status (if isBodyless status then [] else [⟨0, body⟩]) .complete

/-- The reply of a service that was not told what to answer. -/
def Reply.unprepared : Reply :=
  ⟨false, 0, .whole 500 (Utf8.encode "no reply scripted")⟩

end AgentSandbox

/-!
# Endpoints of an instance

Every service of an instance has a host of its own, named by the port of the service, the id of the
instance and the domain of its region.
-/

namespace AgentSandbox

/-- The port of the execution service. -/
def executionPort : Nat := 49999

/-- The port of the browser service unless another is given. -/
def browserPort : Nat := 9000

/-- The host of the service on a port of an instance. -/
def serviceHost (port : Nat) (id region domain : String) : String :=
  toString port ++ "-" ++ id ++ "." ++ region ++ "." ++ domain

/-- The URL of the service on a port of an instance. -/
def serviceUrl (port : Nat) (id region domain : String) : String :=
  "https://" ++ serviceHost port id region domain

/-- The two URLs under which the browser of an instance is reached. -/
structure BrowserUrls where
  vnc : String
  cdp : String
  deriving DecidableEq

/-- The browser URLs on a host, opened by an access token. -/
def browserUrls (host token : String) : BrowserUrls where
  vnc := "https://" ++ host ++ "/novnc/vnc_lite.html?&path=websockify?access_token=" ++ token
  cdp := "https://" ++ host ++ "/cdp?access_token=" ++ token

end AgentSandbox

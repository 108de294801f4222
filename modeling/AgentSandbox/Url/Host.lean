import AgentSandbox.Url.Address
import AgentSandbox.Url.Domain
import AgentSandbox.Url.Percent

/-!
# Hosts

The host of a URL is a domain name or an address.  `Host.parse` reads the host of a web URL, where a
name may be percent-encoded and one that ends in a number has to be an address; `Host.parsePlain`
reads the host of a URL of another kind, whose name is taken as it is.
-/

namespace AgentSandbox.Url

/-- Why a text is no URL. -/
inductive Fault where
  | relative
  | emptyHost
  | badDomain
  | badDomainCharacter
  | badPort
  | badIpv4
  | badIpv6
  deriving DecidableEq

/-- The phrase for a fault. -/
def Fault.phrase : Fault → String
  | .relative => "relative URL without a base"
  | .emptyHost => "empty host"
  | .badDomain => "invalid international domain name"
  | .badDomainCharacter => "invalid domain character"
  | .badPort => "invalid port number"
  | .badIpv4 => "invalid IPv4 address"
  | .badIpv6 => "invalid IPv6 address"

/-- The host of a URL. -/
inductive Host where
  | domain (name : List Char)
  | ipv4 (address : Nat)
  | ipv6 (pieces : List Nat)
  deriving DecidableEq

namespace Host

/-- The text of a host. -/
def text : Host → String
  | .domain name => String.ofList name
  | .ipv4 address => ipv4Text address
  | .ipv6 pieces => "[" ++ ipv6Text pieces ++ "]"

/-- The address in square brackets, the text starting behind the first of them. -/
def bracketed (cs : List Char) : Except Fault Host :=
  if cs.getLast? = some ']' then
    match ipv6? cs.dropLast with
    | some pieces => .ok (.ipv6 pieces)
    | none => .error .badIpv6
  else .error .badIpv6

/-- The host that a domain name in the form that is sent stands for. -/
def ofName (name : List Char) : Except Fault Host :=
  if name.isEmpty then .error .emptyHost
  else if endsInNumber name then
    match ipv4? name with
    | some address => .ok (.ipv4 address)
    | none => .error .badIpv4
  else .ok (.domain name)

/-- The host of a web URL. -/
def parse : List Char → Except Fault Host
  | '[' :: cs => bracketed cs
  | cs =>
    match domainToAscii? (unescape cs) with
    | some name => ofName name
    | none => .error .badDomain

/-- The host of a URL of another kind. -/
def parsePlain : List Char → Except Fault Host
  | '[' :: cs => bracketed cs
  | cs =>
    if cs.any fun c => c = '\x00' || c = ' ' || (isForbidden c && 0x20 < c.toNat && c ≠ '%' &&
        c ≠ '\x7f') then
      .error .badDomainCharacter
    else .ok (.domain (escape controlSet cs))

end Host

end AgentSandbox.Url

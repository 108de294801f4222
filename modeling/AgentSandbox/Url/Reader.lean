import AgentSandbox.Url.Basic

/-!
# Reading URLs

`Url.parse` reads an absolute URL by the rules that browsers share.  Control characters and spaces
around the text and line breaks inside it do not count.  A web URL needs a host; the number of
solidi in front of it does not matter.
-/

namespace AgentSandbox.Url

/-- The text without what does not count. -/
def cleaned (s : String) : List Char :=
  let isOuter (c : Char) : Bool := c.toNat ≤ 0x20
  let inner := ((s.toList.dropWhile isOuter).reverse.dropWhile isOuter).reverse
  inner.filter fun c => c ≠ '\t' && c ≠ '\n' && c ≠ '\r'

/-- Whether a character can stand in a scheme behind its first letter. -/
def isSchemeChar (c : Char) : Bool := c.isAlphanum || c = '+' || c = '-' || c = '.'

/-- The scheme in lower case, and what follows its colon. -/
def scheme? (cs : List Char) : Option (String × List Char) :=
  match cs.head?.filter Char.isAlpha, cs.dropWhile isSchemeChar with
  | some _, ':' :: rest =>
    some (String.ofList ((cs.takeWhile isSchemeChar).map Char.toLower), rest)
  | _, _ => none

/-- Whether a character ends the part of a URL that names the host. -/
def endsAuthority (backslash : Bool) (c : Char) : Bool :=
  c = '/' || c = '?' || c = '#' || (backslash && c = '\\')

/-- The text of a host and what follows it: a colon in square brackets belongs to the host. -/
def hostText (backslash : Bool) : Bool → List Char → List Char × List Char
  | _, [] => ([], [])
  | inside, c :: cs =>
    if (c = ':' && !inside) || endsAuthority backslash c then ([], c :: cs)
    else
      let r := hostText backslash (c = '[' || (inside && c ≠ ']')) cs
      (c :: r.1, r.2)

/-- The port at the front of a text, if digits are given, and what follows them. -/
def port? (cs : List Char) : Except Fault (Option Nat × List Char) :=
  let ds := cs.takeWhile Char.isDigit
  let rest := cs.dropWhile Char.isDigit
  let ends := rest.head?.all (endsAuthority true)
  match ds, (number? 10 ds).filter (· ≤ 65535) with
  | [], _ => if ends then .ok (none, rest) else .error .badPort
  | _, some port => if ends then .ok (some port, rest) else .error .badPort
  | _, none => .error .badPort

/-- What stands in front of the last at sign of an authority, if there is one, and what follows. -/
def splitUser (backslash : Bool) (cs : List Char) : Option (List Char) × List Char :=
  let authority := cs.takeWhile fun c => !endsAuthority backslash c
  if authority.contains '@' then
    let behind := (authority.reverse.takeWhile (· ≠ '@')).length
    let user := authority.take (authority.length - behind - 1)
    (some user, cs.drop (user.length + 1))
  else (none, cs)

/-- The host at the front of a text, and what follows it. -/
def readHost (kind : Kind) (cs : List Char) : Except Fault (Option Host × List Char) :=
  let (text, rest) := hostText kind.hasBackslash false cs
  if text.isEmpty then
    if kind = .web || rest.head? = some ':' then .error .emptyHost else .ok (none, rest)
  else do
    let h ← if kind = .web then Host.parse text else Host.parsePlain text
    .ok (some h, rest)

/-- The user, the host and the port at the front of a text, and what follows them. -/
def readAuthority (scheme : String) (cs : List Char) : Except Fault (Authority × List Char) := do
  let kind := kindOf scheme
  let (text, cs) := splitUser kind.hasBackslash cs
  let user := text.bind User.ofText?
  if text = some [] && cs.head?.any (endsAuthority kind.hasBackslash) then .error .emptyHost
  let (host, rest) ← readHost kind cs
  if host.isNone && user.isSome then .error .emptyHost
  match rest with
  | ':' :: rest => do
    let (port, rest) ← port? rest
    .ok (⟨user, host, port.filter fun p => usualPort? scheme ≠ some p⟩, rest)
  | rest => .ok (⟨user, host, none⟩, rest)

/-- The query and the fragment that a text spells. -/
def queryAndFragment (kind : Kind) (cs : List Char) :
    Option (List Char) × Option (List Char) :=
  let query := match cs with
    | '?' :: q => some (escape (querySet (kind ≠ .other)) (q.takeWhile (· ≠ '#')))
    | _ => none
  let fragment := match cs.dropWhile (· ≠ '#') with
    | '#' :: f => some (escape fragmentSet f)
    | _ => none
  (query, fragment)

/-- The URL whose path, query and fragment a text spells, `path` reading the path. -/
def withRest (scheme : String) (authority : Option Authority) (path : List Char → Path)
    (cs : List Char) : Url :=
  let isPath (c : Char) : Bool := c ≠ '?' && c ≠ '#'
  let (query, fragment) := queryAndFragment (kindOf scheme) (cs.dropWhile isPath)
  ⟨scheme, authority, path (cs.takeWhile isPath), query, fragment⟩

/-- The path behind a host. -/
def rooted (kind : Kind) : List Char → Path
  | [] => if kind = .other then .segments [] else .segments [[]]
  | c :: cs =>
    if c = '/' || (kind.hasBackslash && c = '\\') then .segments (Path.split kind cs)
    else .segments (Path.split kind (c :: cs))

/-- The URL whose text behind the scheme and the solidi is given. -/
def withAuthority (scheme : String) (cs : List Char) : Except Fault Url := do
  let (a, rest) ← readAuthority scheme cs
  .ok (withRest scheme (some a) (rooted (kindOf scheme)) rest)

/-- The host of a file and what follows it; the letter of a drive is no host. -/
def fileHost (cs : List Char) : Except Fault (Option Host × List Char) :=
  let text := cs.takeWhile fun c => !endsAuthority true c
  if isDrive text then .ok (none, cs)
  else if text.isEmpty then .ok (none, cs)
  else do
    let h ← Host.parse text
    let h := if h = .domain "localhost".toList then none else some h
    .ok (h, cs.drop text.length)

/-- Whether the path of a file begins with the letter of a drive. -/
def startsWithDrive (u : Url) : Bool :=
  match u.path with
  | .segments (s :: _) => isDrive s
  | _ => false

/-- The URL of a file whose text behind the scheme is given. -/
def file (cs : List Char) : Except Fault Url := do
  let (host, rest) ← match cs with
    | a :: b :: rest => if endsAuthority true a && endsAuthority true b && a ≠ '?' && a ≠ '#' &&
        b ≠ '?' && b ≠ '#' then fileHost rest else .ok (none, cs)
    | _ => .ok (none, cs)
  let u := withRest "file" (some ⟨none, host, none⟩) (rooted .file) rest
  .ok (if startsWithDrive u then { u with authority := some ⟨none, none, none⟩ } else u)

/-- The URL that a text spells. -/
def parse (s : String) : Except Fault Url :=
  match scheme? (cleaned s) with
  | none => .error .relative
  | some (scheme, rest) =>
    match kindOf scheme, rest with
    | .web, rest => withAuthority scheme (rest.dropWhile fun c => c = '/' || c = '\\')
    | .file, rest => file rest
    | .other, '/' :: '/' :: rest => withAuthority scheme rest
    | .other, '/' :: rest => .ok (withRest scheme none (rooted .other) ('/' :: rest))
    | .other, rest => .ok (withRest scheme none (.rootless ∘ escape controlSet) rest)

end AgentSandbox.Url

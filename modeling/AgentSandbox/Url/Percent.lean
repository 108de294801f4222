import AgentSandbox.Json.Reader

/-!
# Percent encoding

A character that may not stand in a part of a URL is written as the bytes of its UTF-8 form, each as
a percent sign and two upper-case hexadecimal digits.  Which characters those are depends on the
part: `userSet`, `pathSet`, `segmentSet`, `querySet` and `fragmentSet` say it for theirs.
`unescape` reads the bytes back.
-/

namespace AgentSandbox.Url

/-- A byte as a percent sign and two digits. -/
def percentByte (b : UInt8) : List Char :=
  ['%', (Nat.digitChar (b.toNat / 16)).toUpper, (Nat.digitChar (b.toNat % 16)).toUpper]

/-- A character as the bytes of its UTF-8 form. -/
def percentChar (c : Char) : List Char :=
  (String.utf8EncodeChar c).flatMap percentByte

/-- The text with the characters of a set written as bytes. -/
def escape (set : Char → Bool) (cs : List Char) : List Char :=
  cs.flatMap fun c => if set c then percentChar c else [c]

/-- The bytes that a text spells, where a percent sign and two digits stand for one byte. -/
def unescape : List Char → List UInt8
  | '%' :: a :: b :: cs =>
    match Json.hexValue? a, Json.hexValue? b with
    | some x, some y => UInt8.ofNat (x * 16 + y) :: unescape cs
    | _, _ => '%'.val.toUInt8 :: unescape (a :: b :: cs)
  | c :: cs => String.utf8EncodeChar c ++ unescape cs
  | [] => []

/-! ## The sets -/

/-- The control characters and everything beyond ASCII, which no part of a URL holds. -/
def controlSet (c : Char) : Bool := c.toNat < 0x20 || 0x7F ≤ c.toNat

/-- What a fragment does not hold. -/
def fragmentSet (c : Char) : Bool :=
  controlSet c || c = ' ' || c = '"' || c = '<' || c = '>' || c = '\x60'

/-- What a path does not hold. -/
def pathSet (c : Char) : Bool :=
  fragmentSet c || c = '#' || c = '?' || c = '\x7b' || c = '\x7d'

/-- What the name and the password of a user do not hold. -/
def userSet (c : Char) : Bool :=
  pathSet c || ['/', ':', ';', '=', '@', '[', '\\', ']', '^', '|'].contains c

/-- What a segment of a path does not hold; a backslash separates segments in some schemes. -/
def segmentSet (backslash : Bool) (c : Char) : Bool :=
  pathSet c || c = '/' || c = '%' || (backslash && c = '\\')

/-- What a query does not hold; some schemes do not hold an apostrophe either. -/
def querySet (apostrophe : Bool) (c : Char) : Bool :=
  controlSet c || c = ' ' || c = '"' || c = '#' || c = '<' || c = '>' || (apostrophe && c = '\'')

end AgentSandbox.Url

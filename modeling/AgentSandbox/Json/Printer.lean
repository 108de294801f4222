import AgentSandbox.Json.Value

/-!
# Writing JSON

`Value.print` writes a value without any blank.  In a string a quote, a backslash and the control
characters below U+0020 are escaped, the usual ones by a letter and the rest by four lower-case
hexadecimal digits; every other character stands for itself.
-/

namespace AgentSandbox.Json

/-- The escape of a control character by its number. -/
def unitEscape (c : Char) : List Char :=
  ['\\', 'u', '0', '0', Nat.digitChar (c.toNat / 16), Nat.digitChar (c.toNat % 16)]

/-- The characters that stand for one character inside a string. -/
def escaped (c : Char) : List Char :=
  if c = '"' then ['\\', '"']
  else if c = '\\' then ['\\', '\\']
  else if c = '\x08' then ['\\', 'b']
  else if c = '\x0c' then ['\\', 'f']
  else if c = '\n' then ['\\', 'n']
  else if c = '\r' then ['\\', 'r']
  else if c = '\t' then ['\\', 't']
  else if c.toNat < 0x20 then unitEscape c
  else [c]

/-- A string in its quotes. -/
def printText (s : String) : List Char :=
  '"' :: s.toList.flatMap escaped ++ ['"']

/-- The text of a number. -/
def Number.print : Number → List Char
  | .int n => (toString n).toList
  | .float x => x.text

mutual

/-- The text of a value. -/
def Value.print : Value → List Char
  | .null => ['n', 'u', 'l', 'l']
  | .bool true => ['t', 'r', 'u', 'e']
  | .bool false => ['f', 'a', 'l', 's', 'e']
  | .number n => n.print
  | .text s => printText s
  | .list items => '[' :: printItems items ++ [']']
  | .object members => '{' :: printMembers members ++ ['}']

/-- The texts of items with commas between them. -/
def printItems : List Value → List Char
  | [] => []
  | [v] => v.print
  | v :: vs => v.print ++ ',' :: printItems vs

/-- The texts of members with commas between them. -/
def printMembers : List (String × Value) → List Char
  | [] => []
  | [(k, v)] => printText k ++ ':' :: v.print
  | (k, v) :: ms => printText k ++ ':' :: v.print ++ ',' :: printMembers ms

end

/-- The text of a value as a string. -/
def Value.toText (v : Value) : String := String.ofList v.print

end AgentSandbox.Json

import AgentSandbox.Text.Visible

/-!
# Quoted texts

`quoted` shows a text in double quotes for a reader of diagnostics: what could not be told from
something else is escaped, a few characters by a letter and the rest by their number in braces.
-/

namespace AgentSandbox.Text

/-- The character by its number in lower-case hexadecimal digits. -/
def numberEscape (c : Char) : List Char :=
  ['\\', 'u', '\x7b'] ++ Nat.toDigits 16 c.toNat ++ ['\x7d']

/-- The characters that stand for one character of a quoted text. -/
def quotedChar (c : Char) : List Char :=
  if c = '\x00' then ['\\', '0']
  else if c = '\t' then ['\\', 't']
  else if c = '\r' then ['\\', 'r']
  else if c = '\n' then ['\\', 'n']
  else if c = '\\' then ['\\', '\\']
  else if c = '"' then ['\\', '"']
  else if isVisible c then [c]
  else numberEscape c

/-- A text in quotes. -/
def quoted (s : String) : String :=
  String.ofList ('"' :: s.toList.flatMap quotedChar ++ ['"'])

end AgentSandbox.Text

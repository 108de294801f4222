/-!
# Blank characters

`isBlank` is the Unicode property White_Space, and `trim` removes the blanks at both ends of a
text.  Names, specifications and stream lines are all trimmed by this one rule: next line, the
no-break space and the line separators are blank, while the zero width space, the byte order mark
and the information separators are not.
-/

namespace AgentSandbox.Text

/-- Whether a character has the Unicode property White_Space. -/
def isBlank (c : Char) : Bool :=
  let n := c.toNat
  (9 ≤ n && n ≤ 13) || n == 0x20 || n == 0x85 || n == 0xA0 || n == 0x1680 ||
    (0x2000 ≤ n && n ≤ 0x200A) || n == 0x2028 || n == 0x2029 || n == 0x202F || n == 0x205F ||
    n == 0x3000

/-- The text without the characters at its end that satisfy `p`. -/
def dropEndWhile (p : Char → Bool) (cs : List Char) : List Char :=
  (cs.reverse.dropWhile p).reverse

/-- The text without the blanks at its two ends. -/
def trim (cs : List Char) : List Char :=
  dropEndWhile isBlank (cs.dropWhile isBlank)

/-- The string without the blanks at its two ends. -/
def trimString (s : String) : String :=
  String.ofList (trim s.toList)

/-- The string with its ASCII letters in lower case and everything else as it is. -/
def lowerAscii (s : String) : String :=
  String.ofList (s.toList.map Char.toLower)

/-- The string with its ASCII letters in upper case and everything else as it is. -/
def upperAscii (s : String) : String :=
  String.ofList (s.toList.map Char.toUpper)

/-- The string without the solidi at its end. -/
def dropEndSlashes (s : String) : String :=
  String.ofList (dropEndWhile (· == '/') s.toList)

/-- The string without the solidi at its start. -/
def dropSlashes (s : String) : String :=
  String.ofList (s.toList.dropWhile (· == '/'))

/-- The text, if there is one and it is not empty. -/
def nonEmpty (s : Option String) : Option String := s.filter fun s => !s.isEmpty

end AgentSandbox.Text

import AgentSandbox.Text.Direction
import AgentSandbox.Text.Joining
import AgentSandbox.Text.NormalForm
import AgentSandbox.Url.Folding
import AgentSandbox.Url.Punycode

/-!
# Labels of domain names

A domain name is a sequence of labels.  `foldedLabels?` reads those that a part of a name between two
full stops spells, which are several if it has full stops of another script.  A label behind `xn--`
is in Punycode and means another label; `Label.isProper` says whether what a label means may stand
in a name, and `Label.keepsDirection` whether it may stand in one that is partly written from right
to left.
-/

namespace AgentSandbox.Url

open Text

/-- Whether a character of ASCII may not stand in a domain name. -/
def isForbidden (c : Char) : Bool :=
  c.toNat ≤ 0x20 || c.toNat = 0x7F || ['%', '#', '/', ':', '<', '>', '?', '@', '[', '\\', ']', '^',
    '|'].contains c

/-- The labels that a part of a name spells, with every character as it is compared. -/
def foldedLabels? (part : List Char) : Option (List (List Char)) :=
  (part.mapM folded?).map fun cs => cut (· = '.') (normalForm cs.flatten)

namespace Label

/-- Whether a label is written in ASCII. -/
def isAscii (label : List Char) : Bool := label.all (·.toNat < 0x80)

/-! ## Punycode -/

/-- The longest text in Punycode that is read. -/
def maxCode : Nat := 2000

/-- Whether a label has the form that names are compared in. -/
def isFolded (label : List Char) : Bool :=
  label.all (fun c => folded? c == some [c]) && normalForm label == label

/-- The label that a label means: what follows `xn--` has to be in Punycode and to mean a label that
could not be written in ASCII. -/
def meaning? : List Char → Option (List Char)
  | 'x' :: 'n' :: '-' :: '-' :: code =>
    if isAscii code ∧ code.length ≤ maxCode then
      (Punycode.decode? code).filter fun label => !isAscii label && isFolded label
    else none
  | label => some label

/-- A label in ASCII. -/
def toAscii (label : List Char) : List Char :=
  if isAscii label then label else 'x' :: 'n' :: '-' :: '-' :: Punycode.encode label

/-! ## Joiners -/

/-- Whether the first of some characters that is not passed over is joined on a side that `p` holds
of. -/
def meets (p : Joining → Bool) : List Char → Bool
  | [] => false
  | c :: cs => p (joining c) || (joining c == .transparent && meets p cs)

/-- Whether a joiner has something to do between the characters before it, the nearest one first,
and those behind it: it follows a sign that takes away a vowel, or it keeps two letters apart that
would be joined. -/
def joinerFits (before : List Char) (c : Char) (behind : List Char) : Bool :=
  match before with
  | [] => false
  | d :: _ =>
    combiningClass d = viramaClass ||
      (isNonJoiner c && meets (fun j => j == .left || j == .both) before &&
        meets (fun j => j == .right || j == .both) behind)

/-- Whether every joiner has something to do, where `before` has been read, the last one first. -/
def joinersFit (before : List Char) : List Char → Bool
  | [] => true
  | c :: cs => (!isJoiner c || joinerFits before c cs) && joinersFit (c :: before) cs

/-! ## What may stand in a name -/

/-- The greatest number of characters of a label that is not in ASCII. -/
def maxLength : Nat := 1000

/-- Whether a label may stand in a name. -/
def isProper (label : List Char) : Bool :=
  !label.any isForbidden && !label.head?.any isMark && joinersFit [] label &&
    (isAscii label || label.length ≤ maxLength)

/-! ## Direction -/

/-- Whether a character may stand in a label of any direction. -/
def isNeutral : Direction → Bool
  | .europeanDigit | .sign | .separator | .terminator | .neutral | .boundary | .mark => true
  | _ => false

/-- Whether a label keeps to the direction of its first letter, as the `first` of the directions of
its characters and the `others` say, the last one in front and without the marks at the end: it has
none of the other direction and ends in a letter or a digit; and there are not digits of two kinds
in a label from right to left. -/
def keepsTo (first : Direction) (others : List Direction) : Bool :=
  match first with
  | .leftToRight =>
    others.all (fun d => d == .leftToRight || isNeutral d) &&
      others.head?.all fun d => d == .leftToRight || d == .europeanDigit
  | .rightToLeft | .arabicLetter =>
    others.all (fun d => d.turns || isNeutral d) &&
      (others.head?.all fun d => d.turns || d == .europeanDigit) &&
      !(others.contains .europeanDigit && others.contains .arabicDigit)
  | _ => false

/-- Whether a label keeps to one direction. -/
def keepsDirection : List Char → Bool
  | [] => true
  | c :: cs => keepsTo (direction c) ((cs.map direction).reverse.dropWhile (· == .mark))

end Label

end AgentSandbox.Url

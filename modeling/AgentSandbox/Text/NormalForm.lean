import AgentSandbox.Text.Composition
import AgentSandbox.Text.Mark

/-!
# The normal form of a text

Texts that only differ in how letters and marks are put together have the same `normalForm`, which
is form C of Unicode.  Every character is taken apart, the marks behind a character are put in the
order of their classes, and then whatever can be is put together again: a mark goes with the
character before it unless a mark of its own or of a greater class is left in between.
-/

namespace AgentSandbox.Text

/-- A character put in front of others, behind the marks among them of smaller classes. -/
def insertMark (c : Char) : List Char → List Char
  | [] => [c]
  | d :: ds =>
    if combiningClass d ≠ 0 ∧ combiningClass d < combiningClass c then d :: insertMark c ds
    else c :: d :: ds

/-- The marks behind every character in the order of their classes, those of one class as before. -/
def orderMarks : List Char → List Char
  | [] => []
  | c :: cs => insertMark c (orderMarks cs)

/-- Puts characters together with `start`, which `held`, the marks in between that did not go with
it, follow. -/
def composeFrom (start : Char) (held : List Char) : List Char → List Char
  | [] => start :: held
  | c :: cs =>
    let isBlocked := held.getLast?.any fun d => combiningClass c ≤ combiningClass d
    match if isBlocked then none else composed? start c with
    | some made => composeFrom made held cs
    | none =>
      if combiningClass c = 0 then start :: (held ++ composeFrom c [] cs)
      else composeFrom start (held ++ [c]) cs

/-- Puts together whatever can be. -/
def compose : List Char → List Char
  | [] => []
  | c :: cs => if combiningClass c = 0 then composeFrom c [] cs else c :: compose cs

/-- The one form of a text among those that mean the same. -/
def normalForm (cs : List Char) : List Char := compose (orderMarks (cs.flatMap parts))

end AgentSandbox.Text

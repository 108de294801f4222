import AgentSandbox.Text.Blank

/-!
# Bindings of a specification

A specification is a list of parts separated by commas.  A part binds a key to a value at its first
equals sign; a part without one binds itself to `true`.  Blanks around parts, keys and values do not
count, a blank part is no part, and the last binding of a key is the one that holds.
-/

namespace AgentSandbox.Mount

/-- The pieces of a text between the separators; there is one more than there are separators. -/
def pieces (separator : Char) : List Char → List (List Char)
  | [] => [[]]
  | c :: cs =>
    if c = separator then [] :: pieces separator cs
    else
      match pieces separator cs with
      | [] => [[c]]
      | p :: ps => (c :: p) :: ps

/-- The parts of a specification: its trimmed pieces that are not empty. -/
def parts (spec : List Char) : List (List Char) :=
  ((pieces ',' spec).map Text.trim).filter fun p => !p.isEmpty

/-- The key and the value that a part binds. -/
def binding (part : List Char) : List Char × List Char :=
  match part.dropWhile (· != '=') with
  | [] => (part, ['t', 'r', 'u', 'e'])
  | _ :: value => (Text.trim (part.takeWhile (· != '=')), Text.trim value)

/-- The bindings of a specification, in its order. -/
def bindings (spec : List Char) : List (List Char × List Char) :=
  (parts spec).map binding

/-- The value that the last binding of a key gives it. -/
def lastValue? (key : List Char) (bs : List (List Char × List Char)) : Option (List Char) :=
  (bs.reverse.find? fun b => b.1 == key).map (·.2)

end AgentSandbox.Mount

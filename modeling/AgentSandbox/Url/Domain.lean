import AgentSandbox.Text.Utf8
import AgentSandbox.Url.Label

/-!
# Domain names

`domainToAscii?` brings a domain name into the one form that is sent: as names are compared, and
every label in ASCII.  A label of another script is written in Punycode behind `xn--`.  A name is
refused if a label is not proper, or claims to be in Punycode and is not, or if the name is partly
written from right to left and a label does not keep to one direction.
-/

namespace AgentSandbox.Url

open Text

/-- Labels joined by full stops. -/
def joinLabels : List (List Char) → List Char
  | [] => []
  | [label] => label
  | label :: labels => label ++ '.' :: joinLabels labels

/-- Whether some labels may make up a name. -/
def areLabels (labels : List (List Char)) : Bool :=
  labels.all Label.isProper &&
    (!labels.any (·.any fun c => (direction c).turns) || labels.all Label.keepsDirection)

/-- The domain name that some bytes spell, in the form that is sent. -/
def domainToAscii? (bytes : List UInt8) : Option (List Char) := do
  let name ← Utf8.decodeStrict? bytes
  let labels := (← (cut (· = '.') name).mapM foldedLabels?).flatten
  if areLabels (← labels.mapM Label.meaning?) then some (joinLabels (labels.map Label.toAscii))
  else none

end AgentSandbox.Url

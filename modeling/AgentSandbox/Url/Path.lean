import AgentSandbox.Url.Address
import AgentSandbox.Url.Percent

/-!
# Paths

The path of a URL is a list of segments, or, in a URL that has neither a host nor a solidus behind
its scheme, a text that means nothing further.  A segment of one full stop stands for nothing and a
segment of two takes back the segment before it, so neither is left in a path.  `Path.push` adds one
segment, which is encoded so that it remains one.
-/

namespace AgentSandbox.Url

/-- What a scheme says of the rest of a URL. -/
inductive Kind where
  /-- A scheme of the web: there is a host, and a backslash counts as a solidus. -/
  | web
  /-- Files: the host may be empty, and a path may begin with the letter of a drive. -/
  | file
  | other
  deriving DecidableEq

/-- Whether a backslash separates segments in a URL of this kind. -/
def Kind.hasBackslash : Kind → Bool
  | .other => false
  | _ => true

/-- The path of a URL. -/
inductive Path where
  | rootless (text : List Char)
  | segments (items : List (List Char))
  deriving DecidableEq

/-- Whether a segment stands for nothing. -/
def isSingleDot (s : List Char) : Bool :=
  let s := s.map Char.toLower
  s == ['.'] || s == ['%', '2', 'e']

/-- Whether a segment takes back the one before it. -/
def isDoubleDot (s : List Char) : Bool :=
  let s := s.map Char.toLower
  s == ['.', '.'] || s == ['.', '%', '2', 'e'] || s == ['%', '2', 'e', '.'] ||
    s == ['%', '2', 'e', '%', '2', 'e']

/-- Whether a segment is the letter of a drive. -/
def isDrive : List Char → Bool
  | [c, d] => c.isAlpha && (d == ':' || d == '|')
  | _ => false

namespace Path

/-- The segments without the last one; the letter of a drive stays. -/
def shorten (kind : Kind) (items : List (List Char)) : List (List Char) :=
  match kind, items with
  | .file, [s] => if isDrive s then [s] else []
  | _, items => items.dropLast

/-- The segments after one more piece of a path; `last` says that nothing follows the piece. -/
def add (kind : Kind) (set : Char → Bool) (items : List (List Char)) (piece : List Char)
    (last : Bool) : List (List Char) :=
  let segment := escape set piece
  let ended (items : List (List Char)) := if last then items ++ [[]] else items
  if isDoubleDot segment then ended (shorten kind items)
  else if isSingleDot segment then ended items
  else if kind = .file && items.isEmpty && isDrive segment then items ++ [segment.take 1 ++ [':']]
  else items ++ [segment]

/-- The segments after some pieces, the last of which ends the path. -/
def addAll (kind : Kind) (items : List (List Char)) : List (List Char) → List (List Char)
  | [] => items
  | [piece] => add kind pathSet items piece true
  | piece :: pieces => addAll kind (add kind pathSet items piece false) pieces

/-- The segments without empty ones at the front, as long as one remains. -/
def dropEmpty : List (List Char) → List (List Char)
  | [] :: s :: rest => dropEmpty (s :: rest)
  | items => items

/-- The segments that a text spells, the solidus in front of it left out. -/
def split (kind : Kind) (cs : List Char) : List (List Char) :=
  let items := addAll kind [] (Text.cut (fun c => c = '/' || (kind.hasBackslash && c = '\\')) cs)
  if kind = .file then dropEmpty items else items

/-- The text of a path. -/
def text : Path → List Char
  | .rootless text => text
  | .segments items => items.flatMap ('/' :: ·)

/-- The path without an empty segment at its end, unless it is the only one. -/
def popEmpty : Path → Path
  | .segments items =>
    if items.getLast? = some [] ∧ 1 < items.length then .segments items.dropLast
    else .segments items
  | p => p

/-- The path with one more segment.  A segment of one or two full stops is not added; one that turns
into such a segment only when the characters that no URL holds are left out counts as it is read. -/
def push (kind : Kind) (segment : List Char) : Path → Path
  | .segments items =>
    if segment = ['.'] ∨ segment = ['.', '.'] then .segments items
    else
      let piece := segment.filter fun c => c ≠ '\t' && c ≠ '\n' && c ≠ '\r'
      .segments (add kind (segmentSet kind.hasBackslash) (if items = [[]] then [] else items) piece
        true)
  | p => p

end Path

end AgentSandbox.Url

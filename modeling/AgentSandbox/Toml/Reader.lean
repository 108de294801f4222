import AgentSandbox.Toml.Scalar

/-!
# Reading configuration files

`Toml.read?` reads a whole file of the TOML language, version 1.0, line by line.  A line binds a
dotted key in the current table, opens a table or an element of an array of tables, or holds nothing
but a comment; arrays and strings may go on over several lines.
-/

namespace AgentSandbox.Toml

/-- How deep arrays and inline tables may be nested, and how many parts a dotted key may have,
exclusive. -/
def maxDepth : Nat := 80

/-- The text behind the comment at its front, which ends before the line does. -/
def skipComment : List Char → List Char
  | '#' :: cs => cs.dropWhile isPlain
  | cs => cs

/-- The text behind the end of a line: blanks, a comment, and a line end or the end of the file. -/
def endLine? (cs : List Char) : Option (List Char) :=
  match skipComment (skipBlank cs) with
  | [] => some []
  | cs => newline? cs

/-- The text without the blanks, comments and line ends at its front; `fuel` bounds the lines. -/
def skipFiller : Nat → List Char → List Char
  | 0, cs => cs
  | fuel + 1, cs =>
    let cs := skipComment (skipBlank cs)
    match newline? cs with
    | some rest => skipFiller fuel rest
    | none => cs

/-! ## Keys -/

/-- Whether a character may stand in a key without quotes. -/
def isBareKey (c : Char) : Bool :=
  c.isAlphanum || c = '_' || c = '-'

/-- The key at the front of a text, which has one part. -/
def simpleKey? (cs : List Char) : Option (String × List Char) :=
  match cs with
  | '"' :: rest => (basic? (rest.length + 1) rest).map fun (s, rest) => (String.ofList s, rest)
  | '\'' :: rest => (literal? rest).map fun (s, rest) => (String.ofList s, rest)
  | _ =>
    match cs.takeWhile isBareKey with
    | [] => none
    | key => some (String.ofList key, cs.dropWhile isBareKey)

/-- The parts of the key at the front of a text, with the blanks around them; `fuel` bounds them. -/
def keyParts? : Nat → List Char → Option (List String × List Char)
  | 0, _ => none
  | fuel + 1, cs =>
    match simpleKey? (skipBlank cs) with
    | none => none
    | some (key, rest) =>
      match skipBlank rest with
      | '.' :: rest => (keyParts? fuel rest).map fun (keys, rest) => (key :: keys, rest)
      | rest => some ([key], rest)

/-- The dotted key at the front of a text. -/
def key? (cs : List Char) : Option (Path × List Char) := do
  let (keys, rest) ← keyParts? (cs.length + 1) cs
  let last ← keys.getLast?
  if keys.length < maxDepth then some (⟨keys.dropLast, last⟩, rest) else none

/-! ## Values -/

/-- The value without parts at the front of a text. -/
def scalar? (cs : List Char) : Option (Value × List Char) :=
  match cs with
  | [] => none
  | c :: _ =>
    if c = '"' ∨ c = '\'' then (string? cs).map fun (s, rest) => (.text s, rest)
    else
      match cs with
      | 't' :: 'r' :: 'u' :: 'e' :: rest => some (.bool true, rest)
      | 'f' :: 'a' :: 'l' :: 's' :: 'e' :: rest => some (.bool false, rest)
      | cs => (moment? cs).or ((float? cs).or (integer? cs))

mutual

/-- The value at the front of a text; `depth` counts the arrays and inline tables around it and
`fuel` bounds the calls. -/
def value? : Nat → Nat → List Char → Option (Value × List Char)
  | 0, _, _ => none
  | fuel + 1, depth, cs =>
    match cs with
    | '[' :: rest =>
      if depth + 1 < maxDepth then
        (items? fuel (depth + 1) rest).map fun (vs, rest) => (.array vs, rest)
      else none
    | '{' :: rest =>
      if depth + 1 < maxDepth then
        match skipBlank rest with
        | '}' :: rest => some (.table [], rest)
        | rest =>
          (pairs? fuel (depth + 1) [] rest).map fun (es, rest) => (.table (finishEntries es), rest)
      else none
    | cs => scalar? cs

/-- The items of an array up to its closing bracket; a comma may stand behind the last one. -/
def items? : Nat → Nat → List Char → Option (List Value × List Char)
  | 0, _, _ => none
  | fuel + 1, depth, cs =>
    match skipFiller (cs.length + 1) cs with
    | ']' :: rest => some ([], rest)
    | cs =>
      match value? fuel depth cs with
      | none => none
      | some (v, rest) =>
        match skipFiller (rest.length + 1) rest with
        | ',' :: rest => (items? fuel depth rest).map fun (vs, rest) => (v :: vs, rest)
        | ']' :: rest => some ([v], rest)
        | _ => none

/-- The bindings of an inline table up to its closing brace, added to those before them. -/
def pairs? : Nat → Nat → Entries → List Char → Option (Entries × List Char)
  | 0, _, _, _ => none
  | fuel + 1, depth, es, cs =>
    match key? cs with
    | some (p, '=' :: rest) =>
      match value? fuel depth (skipBlank rest) with
      | none => none
      | some (v, rest) =>
        match bindHere p.last v p.before es with
        | none => none
        | some es =>
          match skipBlank rest with
          | ',' :: rest => pairs? fuel depth es rest
          | '}' :: rest => some (es, rest)
          | _ => none
    | _ => none

end

/-! ## Lines -/

/-- What has been read of a file: its tree and the path of the current table. -/
structure State where
  root : Entries
  current : List String

/-- Reads the line at the front of a text. -/
def line? (s : State) (cs : List Char) : Option (State × List Char) :=
  match skipBlank cs with
  | '[' :: '[' :: rest => do
    let (p, rest) ← key? rest
    let rest ← expect? ']' rest
    let rest ← expect? ']' rest
    let root ← openElement p s.root
    let rest ← endLine? rest
    some (⟨root, p.keys⟩, rest)
  | '[' :: rest => do
    let (p, rest) ← key? rest
    let rest ← expect? ']' rest
    let root ← openTable p s.root
    let rest ← endLine? rest
    some (⟨root, p.keys⟩, rest)
  | cs =>
    match endLine? cs with
    | some rest => some (s, rest)
    | none => do
      let (p, rest) ← key? cs
      let rest ← expect? '=' rest
      let rest := skipBlank rest
      let (v, rest) ← value? (2 * rest.length + 2) 0 rest
      let root ← bind s.current p v s.root
      let rest ← endLine? rest
      some (⟨root, s.current⟩, rest)

/-- Reads all lines of a text; `fuel` bounds their number. -/
def lines? : Nat → State → List Char → Option State
  | _, s, [] => some s
  | 0, _, _ => none
  | fuel + 1, s, cs => (line? s cs).bind fun (s, rest) => lines? fuel s rest

/-- The table that a file describes; a byte order mark at its front does not count. -/
def read? (cs : List Char) : Option Value :=
  let cs := match cs with
    | '\uFEFF' :: rest => rest
    | cs => cs
  (lines? (cs.length + 1) ⟨[], []⟩ cs).map fun s => .table (finishEntries s.root)

end AgentSandbox.Toml

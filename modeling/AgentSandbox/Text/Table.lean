/-!
# Tables of characters

A `Table` says something of runs of characters, the runs being in increasing order, and
`Table.value?` looks a character up.  A table is written as a text: `Table.read` takes a word of it
for a run, which begins with the number of a character, or with those of the first and the last with
a hyphen between them, all in hexadecimal digits.  What follows is the value of the run.  An `Image`
is a value that puts other characters in the place of those of a run.
-/

namespace AgentSandbox.Text

/-- A text cut at every character that satisfies `p`. -/
def cut (p : Char → Bool) : List Char → List (List Char)
  | [] => [[]]
  | c :: cs =>
    if p c then [] :: cut p cs
    else
      match cut p cs with
      | [] => [[c]]
      | part :: parts => (c :: part) :: parts

/-- A run of characters, by the numbers of the first and the last, with its value. -/
structure Run (α : Type) where
  first : Nat
  last : Nat
  value : α

/-- What is said of some runs of characters. -/
structure Table (α : Type) where
  runs : Array (Run α)

variable {α : Type}

/-! ## Looking up -/

namespace Table

/-- The run that a number falls into, among those from place `low` on and before place `high`. -/
def search (t : Table α) (n low high : Nat) : Option (Run α) :=
  if low < high then
    let middle := (low + high) / 2
    match t.runs[middle]? with
    | none => none
    | some r =>
      if n < r.first then t.search n low middle
      else if r.last < n then t.search n (middle + 1) high
      else some r
  else none
termination_by high - low
decreasing_by all_goals omega

/-- The run that a character falls into. -/
def run? (t : Table α) (c : Char) : Option (Run α) := t.search c.toNat 0 t.runs.size

/-- What the table says of a character. -/
def value? (t : Table α) (c : Char) : Option α := (t.run? c).map Run.value

/-- Whether the table says something of a character. -/
def contains (t : Table α) (c : Char) : Bool := (t.run? c).isSome

end Table

/-! ## Reading -/

/-- The number that hexadecimal digits spell, the letters among them being capital. -/
def hexNumber (cs : List Char) : Nat :=
  cs.foldl (fun n c => n * 16 + (if c.isDigit then c.toNat - 48 else c.toNat - 55)) 0

/-- Whether a character of a word gives the ends of its run. -/
def isRangeChar (c : Char) : Bool := c.isDigit || ('A' ≤ c && c ≤ 'F') || c = '-'

/-- The run that a word stands for. -/
def Run.read (value : List Char → α) (word : List Char) : Run α :=
  let ends := (cut (· = '-') (word.takeWhile isRangeChar)).map hexNumber
  ⟨ends.headD 0, ends.getLastD 0, value (word.dropWhile isRangeChar)⟩

/-- The table that a text stands for. -/
def Table.read (value : List Char → α) (text : String) : Table α :=
  ⟨(((cut Char.isWhitespace text.toList).filter (!·.isEmpty)).map (Run.read value)).toArray⟩

/-! ## Images -/

/-- What stands in the place of the characters of a run. -/
inductive Image where
  /-- The same characters for all of them. -/
  | all (targets : List Char)
  /-- A character for each of them, one after the other in the order of their numbers. -/
  | shifted (target : Nat)
  /-- A character two further on for every second of them, the others remaining as they are. -/
  | alternate (target : Nat)
  /-- A character for each of them. -/
  | each (targets : List Char)

namespace Image

/-- The characters in the place of the one that is `place` behind the first of the run, if it does
not remain as it is. -/
def at? (place : Nat) : Image → Option (List Char)
  | all targets => some targets
  | shifted target => some [Char.ofNat (target + place)]
  | alternate target => if place % 2 = 0 then some [Char.ofNat (target + place)] else none
  | each targets => targets[place]?.map ([·])

/-- The characters that numbers between full stops stand for. -/
def characters (cs : List Char) : List Char :=
  ((cut (· = '.') cs).filter (!·.isEmpty)).map fun part => Char.ofNat (hexNumber part)

/-- The image that a mark and some numbers stand for. -/
def read : List Char → Image
  | '>' :: cs => shifted (hexNumber cs)
  | '/' :: cs => alternate (hexNumber cs)
  | ':' :: cs => each (characters cs)
  | cs => all (characters (cs.drop 1))

end Image

/-- What stands in the place of a character, if it does not remain as it is. -/
def Table.image? (t : Table Image) (c : Char) : Option (List Char) := do
  let r ← t.run? c
  r.value.at? (c.toNat - r.first)

end AgentSandbox.Text

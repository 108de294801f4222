import AgentSandbox.Binary64
import AgentSandbox.Calendar
import AgentSandbox.Toml.Tree

/-!
# Scalars of a configuration file

The readers of strings, numbers, dates and times.  Each takes its scalar off the front of a text and
answers what follows.
-/

namespace AgentSandbox.Toml

/-- Whether a character may stand in a comment, and in a string if it is not special there. -/
def isPlain (c : Char) : Bool :=
  c = '\t' || (0x20 ≤ c.toNat && c.toNat != 0x7F)

/-- The text without the blanks at its front. -/
def skipBlank (cs : List Char) : List Char :=
  cs.dropWhile fun c => c = ' ' || c = '\t'

/-- The text behind the line end at its front. -/
def newline? : List Char → Option (List Char)
  | '\n' :: cs => some cs
  | '\r' :: '\n' :: cs => some cs
  | _ => none

/-! ## Strings -/

/-- The number that hexadecimal digits spell. -/
def hexNumber? (ds : List Char) : Option Nat :=
  ds.foldlM (fun n c =>
    if '0' ≤ c ∧ c ≤ '9' then some (n * 16 + (c.toNat - '0'.toNat))
    else if 'a' ≤ c ∧ c ≤ 'f' then some (n * 16 + (c.toNat - 'a'.toNat + 10))
    else if 'A' ≤ c ∧ c ≤ 'F' then some (n * 16 + (c.toNat - 'A'.toNat + 10))
    else none) 0

/-- The character with the number that the first `width` characters spell, and what follows. -/
def numbered? (width : Nat) (cs : List Char) : Option (Char × List Char) := do
  let ds := cs.take width
  let n ← hexNumber? ds
  if ds.length = width ∧ n.isValidChar then some (Char.ofNat n, cs.drop width) else none

/-- The character of an escape, the text starting behind its backslash, and what follows. -/
def escape? : List Char → Option (Char × List Char)
  | 'b' :: cs => some ('\x08', cs)
  | 't' :: cs => some ('\t', cs)
  | 'n' :: cs => some ('\n', cs)
  | 'f' :: cs => some ('\x0c', cs)
  | 'r' :: cs => some ('\r', cs)
  | '"' :: cs => some ('"', cs)
  | '\\' :: cs => some ('\\', cs)
  | 'u' :: cs => numbered? 4 cs
  | 'U' :: cs => numbered? 8 cs
  | _ => none

/-- A string of one line in double quotes, behind the opening one; `fuel` bounds its length. -/
def basic? : Nat → List Char → Option (List Char × List Char)
  | 0, _ => none
  | _, [] => none
  | _ + 1, '"' :: cs => some ([], cs)
  | fuel + 1, '\\' :: cs =>
    match escape? cs with
    | some (c, cs) => (basic? fuel cs).map fun (s, rest) => (c :: s, rest)
    | none => none
  | fuel + 1, c :: cs =>
    if isPlain c then (basic? fuel cs).map fun (s, rest) => (c :: s, rest) else none

/-- A string of one line in single quotes, behind the opening one. -/
def literal? : List Char → Option (List Char × List Char)
  | [] => none
  | c :: cs =>
    if c = '\'' then some ([], cs)
    else if isPlain c then (literal? cs).map fun (s, rest) => (c :: s, rest)
    else none

/-- The number of leading characters that are `quote`. -/
def quoteRun (quote : Char) (cs : List Char) : Nat :=
  (cs.takeWhile (· = quote)).length

/-- The text without the blanks and line ends at its front. -/
def skipLines (cs : List Char) : List Char :=
  cs.dropWhile fun c => c = ' ' || c = '\t' || c = '\n' || c = '\r'

/-- Whether every carriage return among the blanks and line ends at the front of a text is half of a
line end. -/
def properLines : List Char → Bool
  | '\r' :: '\n' :: cs => properLines cs
  | '\r' :: _ => false
  | ' ' :: cs => properLines cs
  | '\t' :: cs => properLines cs
  | '\n' :: cs => properLines cs
  | _ => true

/-- A string of several lines behind its opening quotes, `escapes` saying whether a backslash is
special in it.  Up to two quotes may stand in it, also right before the closing three; a line end
counts as a line feed.  `fuel` bounds its length. -/
def multiline? (quote : Char) (escapes : Bool) : Nat → List Char → Option (List Char × List Char)
  | 0, _ => none
  | fuel + 1, cs =>
    match newline? cs with
    | some cs => (multiline? quote escapes fuel cs).map fun (s, rest) => ('\n' :: s, rest)
    | none =>
      match cs with
      | [] => none
      | c :: rest =>
        if c = quote then
          let n := quoteRun quote cs
          if n < 3 then
            (multiline? quote escapes fuel (cs.drop n)).map fun (s, rest) =>
              (List.replicate n quote ++ s, rest)
          else if n ≤ 5 then some (List.replicate (n - 3) quote, cs.drop n)
          else none
        else if c = '\\' ∧ escapes then
          match newline? (skipBlank rest) with
          | some after =>
            if properLines after then multiline? quote escapes fuel (skipLines after) else none
          | none =>
            match escape? rest with
            | some (c, rest) =>
              (multiline? quote escapes fuel rest).map fun (s, rest) => (c :: s, rest)
            | none => none
        else if isPlain c then
          (multiline? quote escapes fuel rest).map fun (s, rest) => (c :: s, rest)
        else none

/-- A string of several lines behind its opening quotes; a line end right there does not count. -/
def multilineString? (quote : Char) (escapes : Bool) (cs : List Char) :
    Option (List Char × List Char) :=
  let body := (newline? cs).getD cs
  multiline? quote escapes (body.length + 1) body

/-- The string at the front of a text, of any of the four kinds. -/
def string? : List Char → Option (String × List Char)
  | '"' :: '"' :: '"' :: cs =>
    (multilineString? '"' true cs).map fun (s, rest) => (String.ofList s, rest)
  | '\'' :: '\'' :: '\'' :: cs =>
    (multilineString? '\'' false cs).map fun (s, rest) => (String.ofList s, rest)
  | '"' :: cs => (basic? (cs.length + 1) cs).map fun (s, rest) => (String.ofList s, rest)
  | '\'' :: cs => (literal? cs).map fun (s, rest) => (String.ofList s, rest)
  | _ => none

/-! ## Numbers -/

/-- The rest of some digits: more of them, an underscore standing only between two. -/
def moreDigits (isDigit : Char → Bool) : List Char → List Char × List Char
  | [] => ([], [])
  | '_' :: c :: cs =>
    if isDigit c then
      let r := moreDigits isDigit cs
      (c :: r.1, r.2)
    else ([], '_' :: c :: cs)
  | c :: cs =>
    if isDigit c then
      let r := moreDigits isDigit cs
      (c :: r.1, r.2)
    else ([], c :: cs)

/-- Digits, at least one. -/
def digits? (isDigit : Char → Bool) : List Char → Option (List Char × List Char)
  | [] => none
  | c :: cs =>
    if isDigit c then
      let r := moreDigits isDigit cs
      some (c :: r.1, r.2)
    else none

/-- The sign at the front of a text: whether it is a minus, and what follows. -/
def sign : List Char → Bool × List Char
  | '+' :: cs => (false, cs)
  | '-' :: cs => (true, cs)
  | cs => (false, cs)

/-- Decimal digits in which a zero at the front stands alone. -/
def wholeDigits? : List Char → Option (List Char × List Char)
  | '0' :: cs => some (['0'], cs)
  | cs => digits? Char.isDigit cs

/-- The number that decimal digits spell. -/
def decimal (ds : List Char) : Nat :=
  ds.foldl (fun n c => n * 10 + (c.toNat - '0'.toNat)) 0

/-- An integer that fits 64 bits. -/
def bounded? (n : Int) : Option Value :=
  if -0x8000000000000000 ≤ n ∧ n < 0x8000000000000000 then some (.int n) else none

/-- An integer in one of the bases that a letter names, behind the zero and the letter. -/
def based? (base : Nat) (cs : List Char) : Option (Value × List Char) := do
  let isDigit (c : Char) : Bool :=
    match hexNumber? [c] with
    | some n => n < base
    | none => false
  let (ds, rest) ← digits? isDigit cs
  let v ← bounded? (ds.foldl (fun n c => n * base + (hexNumber? [c]).getD 0) 0 : Nat)
  some (v, rest)

/-- The integer at the front of a text. -/
def integer? : List Char → Option (Value × List Char)
  | '0' :: 'x' :: cs => based? 16 cs
  | '0' :: 'o' :: cs => based? 8 cs
  | '0' :: 'b' :: cs => based? 2 cs
  | cs => do
    let (negative, cs) := sign cs
    let (ds, rest) ← wholeDigits? cs
    let n : Int := decimal ds
    let v ← bounded? (if negative then -n else n)
    some (v, rest)

/-- The exponent of a float, if there is one. -/
def exponent? (cs : List Char) : Option (Option Int × List Char) :=
  match cs with
  | c :: rest =>
    if c = 'e' ∨ c = 'E' then
      let (negative, rest) := sign rest
      (digits? Char.isDigit rest).map fun (ds, rest) =>
        let n : Int := decimal ds
        (some (if negative then -n else n), rest)
    else some (none, cs)
  | [] => some (none, [])

/-- Whether `digits * 10 ^ exponent` is too large for a float. -/
def overflows (digits : List Char) (exponent : Int) : Bool :=
  let significant := digits.dropWhile (· = '0')
  let order := significant.length + exponent
  if significant.isEmpty then false
  else if order < 300 then false
  else if 400 < order then true
  else (Magnitude.round? (decimal significant * Nat.pow 10 exponent.toNat)
    (Nat.pow 10 (-exponent).toNat)).isNone

/-- The float at the front of a text: it has a fraction, an exponent, or both, or it is one of the
named ones.  A positive one may not be too large. -/
def float? (cs : List Char) : Option (Value × List Char) :=
  let (negative, cs) := sign cs
  match cs with
  | 'i' :: 'n' :: 'f' :: rest => some (.float, rest)
  | 'n' :: 'a' :: 'n' :: rest => some (.float, rest)
  | _ => do
    let (whole, rest) ← wholeDigits? cs
    let (fraction, rest) ← match rest with
      | '.' :: rest => (digits? Char.isDigit rest).map fun (ds, rest) => (some ds, rest)
      | rest => some (none, rest)
    let (exponent, rest) ← exponent? rest
    if fraction.isNone ∧ exponent.isNone then none
    else
      let fraction := fraction.getD []
      let order := exponent.getD 0 - fraction.length
      if overflows (whole ++ fraction) order ∧ ¬negative then none else some (.float, rest)

/-! ## Dates and times -/

/-- The number that exactly `width` decimal digits at the front of a text spell. -/
def field? (width : Nat) (cs : List Char) : Option (Nat × List Char) :=
  let ds := cs.take width
  if ds.length = width ∧ ds.all Char.isDigit then some (decimal ds, cs.drop width) else none

/-- The text behind the character `c` at its front. -/
def expect? (c : Char) : List Char → Option (List Char)
  | d :: cs => if d = c then some cs else none
  | [] => none

/-- The number of days of a month. -/
def daysInMonth (year month : Nat) : Nat :=
  if month = 2 then
    if year % 4 = 0 ∧ (year % 100 ≠ 0 ∨ year % 400 = 0) then 29 else 28
  else if month = 4 ∨ month = 6 ∨ month = 9 ∨ month = 11 then 30
  else 31

/-- What follows the date at the front of a text. -/
def date? (cs : List Char) : Option (List Char) := do
  let (year, cs) ← field? 4 cs
  let cs ← expect? '-' cs
  let (month, cs) ← field? 2 cs
  let cs ← expect? '-' cs
  let (day, cs) ← field? 2 cs
  if 1 ≤ month ∧ month ≤ 12 ∧ 1 ≤ day ∧ day ≤ daysInMonth year month then some cs else none

/-- What follows the time at the front of a text. -/
def time? (cs : List Char) : Option (List Char) := do
  let (hour, cs) ← field? 2 cs
  let cs ← expect? ':' cs
  let (minute, cs) ← field? 2 cs
  let cs ← expect? ':' cs
  let (second, cs) ← field? 2 cs
  let cs ← match cs with
    | '.' :: rest =>
      match rest.takeWhile Char.isDigit with
      | [] => none
      | ds => some (rest.drop ds.length)
    | cs => some cs
  if hour ≤ 23 ∧ minute ≤ 59 ∧ second ≤ 60 then some cs else none

/-- What follows the offset from UTC at the front of a text, or the text itself if there is none. -/
def offset? (cs : List Char) : Option (List Char) :=
  match cs with
  | [] => some []
  | c :: rest =>
    if c = 'Z' ∨ c = 'z' then some rest
    else if c = '+' ∨ c = '-' then do
      let (hour, rest) ← field? 2 rest
      let rest ← expect? ':' rest
      let (minute, rest) ← field? 2 rest
      if hour ≤ 23 ∧ minute ≤ 59 then some rest else none
    else some cs

/-- What follows the date, the time or both at the front of a text. -/
def momentEnd? (cs : List Char) : Option (List Char) :=
  match date? cs with
  | none => time? cs
  | some rest =>
    match rest with
    | c :: after =>
      if c = 'T' ∨ c = 't' then (time? after).bind offset?
      else if c = ' ' then
        match time? after with
        | some rest => offset? rest
        | none => some rest
      else some rest
    | [] => some []

/-- The date, the time or both at the front of a text. -/
def moment? (cs : List Char) : Option (Value × List Char) :=
  (momentEnd? cs).map fun rest =>
    (.moment (String.ofList (cs.take (cs.length - rest.length))), rest)

end AgentSandbox.Toml

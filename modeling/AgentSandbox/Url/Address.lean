import AgentSandbox.Json.Reader
import AgentSandbox.Text.Table

/-!
# Addresses

A host of a URL that ends in a number is an address of version 4: up to four numbers between full
stops, each decimal, octal or hexadecimal, of which the last fills all the bytes that remain.  A
host in square brackets is an address of version 6: eight pieces of 16 bits in hexadecimal digits
between colons, where two colons stand for a run of zeros and the last two pieces may be written as
an address of version 4.
-/

namespace AgentSandbox.Url

/-- The value of a digit below ten, if the character is one. -/
def decimalValue? (c : Char) : Option Nat :=
  if '0' ≤ c ∧ c ≤ '9' then some (c.toNat - '0'.toNat) else none

/-- The number that some digits of a base spell. -/
def number? (base : Nat) (cs : List Char) : Option Nat :=
  cs.foldlM (fun n c => (Json.hexValue? c).bind fun d =>
    if d < base then some (n * base + d) else none) 0

/-! ## Version 4 -/

/-- The number that a part of an address spells: hexadecimal behind `0x`, octal behind `0`. -/
def addressNumber? : List Char → Option Nat
  | [] => none
  | '0' :: 'x' :: cs => number? 16 cs
  | '0' :: 'X' :: cs => number? 16 cs
  | '0' :: c :: cs => number? 8 (c :: cs)
  | cs => number? 10 cs

/-- The parts of a host between full stops, without an empty one at the end. -/
def addressParts (host : List Char) : List (List Char) :=
  let parts := Text.cut (· = '.') host
  if 1 < parts.length ∧ parts.getLast? = some [] then parts.dropLast else parts

/-- Whether the last part of a host is a number, so that the host has to be an address. -/
def endsInNumber (host : List Char) : Bool :=
  match (addressParts host).getLast? with
  | none => false
  | some part =>
    (!part.isEmpty && part.all fun c => (decimalValue? c).isSome) || (addressNumber? part).isSome

/-- The address whose leading bytes are `leading` and whose remaining bytes are those of `last`. -/
def joinAddress? (leading : List Nat) (last : Nat) : Option Nat :=
  if leading.length ≤ 3 ∧ leading.all (· ≤ 255) ∧ last < Nat.pow 256 (4 - leading.length) then
    some (leading.foldl (fun n b => n * 256 + b) 0 * Nat.pow 256 (4 - leading.length) + last)
  else none

/-- The address of version 4 that a host spells. -/
def ipv4? (host : List Char) : Option Nat := do
  let numbers ← (addressParts host).mapM addressNumber?
  let last ← numbers.getLast?
  joinAddress? numbers.dropLast last

/-- An address of version 4 as four decimal numbers. -/
def ipv4Text (address : Nat) : String :=
  ".".intercalate ([3, 2, 1, 0].map fun k => toString (address / Nat.pow 256 k % 256))

/-! ## Version 6 -/

/-- A byte in decimal digits without a zero in front. -/
def decimalByte? (cs : List Char) : Option Nat :=
  if cs.isEmpty || (cs.head? = some '0' && cs.length ≠ 1) then none
  else (number? 10 cs).filter (· ≤ 255)

/-- The two pieces that four decimal numbers fill. -/
def embedded? (cs : List Char) : Option (List Nat) := do
  match ← (Text.cut (· = '.') cs).mapM decimalByte? with
  | [a, b, c, d] => some [a * 256 + b, c * 256 + d]
  | _ => none

/-- A piece in one to four hexadecimal digits. -/
def piece? (part : List Char) : Option Nat :=
  if part.length ≤ 4 ∧ part ≠ [] then number? 16 part else none

/-- The pieces of some parts, of which the last may be an embedded address if it ends the host. -/
def pieces? (ends : Bool) : List (List Char) → Option (List Nat)
  | [] => some []
  | [part] => if ends && part.contains '.' then embedded? part else (piece? part).map fun n => [n]
  | part :: parts => do
    let n ← piece? part
    let ns ← pieces? ends parts
    some (n :: ns)

/-- The parts without one of two empty ones at the front; a single empty one is not allowed there. -/
def trimGap? : List (List Char) → Option (List (List Char))
  | [] :: [] :: parts => some ([] :: parts)
  | [] :: _ => none
  | parts => some parts

/-- The eight pieces of an address of version 6: an empty part stands for a run of zeros. -/
def ipv6? (cs : List Char) : Option (List Nat) := do
  let parts ← trimGap? (Text.cut (· = ':') cs)
  let parts ← (trimGap? parts.reverse).map List.reverse
  let before := parts.takeWhile (· ≠ [])
  match parts.drop before.length with
  | [] =>
    let pieces ← pieces? true before
    if pieces.length = 8 then some pieces else none
  | _ :: after =>
    let front ← pieces? false before
    let back ← pieces? true after
    if front.length + back.length ≤ 7 then
      some (front ++ List.replicate (8 - front.length - back.length) 0 ++ back)
    else none

/-- The length of the run of zeros at the front of some pieces. -/
def zeroRun (pieces : List Nat) : Nat := (pieces.takeWhile (· = 0)).length

/-- The first of the longest runs of zeros, as its place and its length; `place` is that of the
first piece, and `best` the run to be beaten. -/
def longestZeroRun (place : Nat) (best : Nat × Nat) : List Nat → Nat × Nat
  | [] => best
  | p :: ps =>
    let run := zeroRun (p :: ps)
    longestZeroRun (place + 1) (if best.2 < run then (place, run) else best) ps

/-- Pieces in hexadecimal digits with colons between them. -/
def pieceTexts (pieces : List Nat) : String :=
  ":".intercalate (pieces.map fun p => String.ofList (Nat.toDigits 16 p))

/-- An address of version 6, its first longest run of two or more zeros as two colons. -/
def ipv6Text (pieces : List Nat) : String :=
  let run := longestZeroRun 0 (0, 1) pieces
  if run.2 < 2 then pieceTexts pieces
  else pieceTexts (pieces.take run.1) ++ "::" ++ pieceTexts (pieces.drop (run.1 + run.2))

end AgentSandbox.Url

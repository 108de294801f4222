import AgentSandbox.Json.Value

/-!
# JSON numerals

`Numeral.read?` takes a numeral of the JSON grammar off the front of a text, and
`Numeral.number?` gives it a meaning.  An integer that fits 64 bits is itself, except that `-0` is
a float; every other numeral is a float, whose significand keeps as many leading digits as fit
64 bits.  A float out of range has no meaning.
-/

namespace AgentSandbox.Json

/-- The parts of a numeral: its digits before and after the point, and its exponent with a sign. -/
structure Numeral where
  negative : Bool
  whole : List Char
  fraction : Option (List Char)
  exponent : Option (Bool × List Char)

namespace Numeral

/-- The digits at the front of a text, if there are any, and what follows. -/
def digits? (cs : List Char) : Option (List Char × List Char) :=
  match cs.takeWhile Char.isDigit with
  | [] => none
  | ds => some (ds, cs.dropWhile Char.isDigit)

/-- The digits before the point: a zero stands alone. -/
def whole? : List Char → Option (List Char × List Char)
  | '0' :: cs => if (cs.head?.any Char.isDigit) then none else some (['0'], cs)
  | cs => digits? cs

/-- The digits after the point, if there is one. -/
def fraction? : List Char → Option (Option (List Char) × List Char)
  | '.' :: cs => (digits? cs).map fun (ds, rest) => (some ds, rest)
  | cs => some (none, cs)

/-- The exponent, if there is one, with whether it is negative. -/
def exponent? : List Char → Option (Option (Bool × List Char) × List Char)
  | [] => some (none, [])
  | c :: cs =>
    if c = 'e' ∨ c = 'E' then
      match cs with
      | '+' :: cs => (digits? cs).map fun (ds, rest) => (some (false, ds), rest)
      | '-' :: cs => (digits? cs).map fun (ds, rest) => (some (true, ds), rest)
      | cs => (digits? cs).map fun (ds, rest) => (some (false, ds), rest)
    else some (none, c :: cs)

/-- The numeral at the front of a text without a sign, and what follows. -/
def unsigned? (negative : Bool) (cs : List Char) : Option (Numeral × List Char) := do
  let (whole, cs) ← whole? cs
  let (fraction, cs) ← fraction? cs
  let (exponent, cs) ← exponent? cs
  some (⟨negative, whole, fraction, exponent⟩, cs)

/-- The numeral at the front of a text, and what follows. -/
def read? : List Char → Option (Numeral × List Char)
  | '-' :: cs => unsigned? true cs
  | cs => unsigned? false cs

/-- The value of a decimal digit. -/
def digitValue (c : Char) : Nat := c.toNat - '0'.toNat

/-- Takes digits into a significand for as long as it fits 64 bits; answers the digits left out. -/
def gather (significand : Nat) : List Char → Nat × List Char
  | [] => (significand, [])
  | c :: cs =>
    let next := significand * 10 + digitValue c
    if next < 0x10000000000000000 then gather next cs else (significand, c :: cs)

/-- The number that decimal digits spell. -/
def natValue (ds : List Char) : Nat :=
  ds.foldl (fun n c => n * 10 + digitValue c) 0

/-- The float with this sign, and a significand and an exponent of ten. -/
def float? (negative : Bool) (significand : Nat) (exponent : Int) : Option Number :=
  (Magnitude.ofDecimal? significand exponent).map fun x => .float ⟨negative, x⟩

/-- The integer with this sign, or the float in its place if it has no integer form. -/
def integer? (negative : Bool) (n : Nat) : Option Number :=
  if negative then
    if n = 0 ∨ 0x8000000000000000 < n then float? true n 0 else some (.int (-n))
  else some (.int n)

/-- The number that the numeral means, if it is in range. -/
def number? (x : Numeral) : Option Number :=
  let (significand, left) := gather 0 x.whole
  match x.fraction, x.exponent with
  | none, none =>
    if left.isEmpty then integer? x.negative significand
    else float? x.negative significand left.length
  | fraction, exponent =>
    let fraction := fraction.getD []
    let (significand, unused) := gather significand fraction
    let order : Int := left.length - (fraction.length - unused.length : Nat)
    match exponent with
    | none => float? x.negative significand order
    | some (down, ds) =>
      let n := natValue ds
      if n < 0x80000000 then
        float? x.negative significand (if down then order - n else order + n)
      else if significand ≠ 0 ∧ ¬down then none
      else float? x.negative 0 0

end Numeral

end AgentSandbox.Json

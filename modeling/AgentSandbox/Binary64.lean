/-!
# Finite binary floating-point numbers

A `Magnitude` is a finite non-negative number of the 64-bit binary format, kept as the bits of its
exponent and significand; its value is `significand * 2 ^ scale / 2 ^ 1074`.  `Magnitude.round?`
rounds a quotient of natural numbers to the nearest magnitude, a tie going to the even one, and
`mul?` and `div` are the exact product and quotient rounded once.  `ofDecimal?` reads a decimal
with one rounding for the digits and one for each power of ten, and `shortest` finds the fewest
decimal digits that lie in the interval of numbers that round to the magnitude.
-/

namespace AgentSandbox

/-- The bits of the exponent and significand of a finite non-negative number. -/
structure Magnitude where
  bits : Nat
  finite : bits < 2047 * Nat.pow 2 52
  deriving DecidableEq

/-- A finite number: a magnitude and a sign, so zero has two forms. -/
structure Binary64 where
  negative : Bool
  magnitude : Magnitude
  deriving DecidableEq

/-- The quotient `num / den` rounded to the nearest natural number, a tie to the even one. -/
def roundQuotient (num den : Nat) : Nat :=
  let q := num / den
  let r := 2 * (num % den)
  if r < den then q else if den < r then q + 1 else q + q % 2

namespace Magnitude

/-- The magnitude zero. -/
def zero : Magnitude := ⟨0, by decide⟩

instance : Inhabited Magnitude := ⟨zero⟩

/-- The power of two, above the least one, by which the significand counts. -/
def scale (x : Magnitude) : Nat := x.bits / Nat.pow 2 52 - 1

/-- The significand, below `2 ^ 53`. -/
def significand (x : Magnitude) : Nat := x.bits - x.scale * Nat.pow 2 52

/-- The value of the magnitude in units of the least positive one, `1 / 2 ^ 1074`. -/
def units (x : Magnitude) : Nat := x.significand * Nat.pow 2 x.scale

/-- The magnitude nearest to `num / den`, if that is finite. -/
def round? (num den : Nat) : Option Magnitude :=
  let n := num * Nat.pow 2 1074
  let s := (n / den).log2 - 52
  let bits := s * Nat.pow 2 52 + roundQuotient n (den * Nat.pow 2 s)
  if h : bits < 2047 * Nat.pow 2 52 then some ⟨bits, h⟩ else none

/-- The product rounded to the nearest magnitude, if that is finite. -/
def mul? (x y : Magnitude) : Option Magnitude :=
  round? (x.units * y.units) (Nat.pow 2 2148)

/-- The quotient by a magnitude that is at least one, rounded to the nearest magnitude. -/
def div (x y : Magnitude) : Magnitude :=
  (round? x.units y.units).getD zero

/-- The magnitude nearest to `10 ^ n`, for `n` up to 308. -/
def tenPower (n : Nat) : Magnitude :=
  (round? (Nat.pow 10 n) 1).getD zero

/-- The magnitude divided by `10 ^ n`, by at most `10 ^ 308` at a time. -/
def divTenPower (x : Magnitude) (n : Nat) : Magnitude :=
  if n ≤ 308 then x.div (tenPower n)
  else if x = zero then x
  else divTenPower (x.div (tenPower 308)) (n - 308)
termination_by n

/-- The magnitude written as `digits * 10 ^ exponent`: the digits are rounded to a magnitude, which
is then multiplied or divided by the power of ten; `none` when that is not finite. -/
def ofDecimal? (digits : Nat) (exponent : Int) : Option Magnitude := do
  let x ← round? digits 1
  if 0 ≤ exponent then
    if exponent ≤ 308 then x.mul? (tenPower exponent.toNat)
    else if x = zero then some x else none
  else some (x.divTenPower (-exponent).toNat)

/-! ## The fewest digits that read back -/

/-- The greatest `d` with `10 ^ d ≤ num / den`, for positive numbers. -/
def decimalOrder (num den : Nat) : Int :=
  if den ≤ num then ((Nat.toDigits 10 (num / den)).length : Int) - 1
  else -((Nat.toDigits 10 ((den + num - 1) / num - 1)).length : Int)

/-- Whether `digits * 10 ^ order` rounds to the magnitude: it lies between the midpoints to the
neighbours, where a midpoint itself counts if the significand is even. -/
def covers (x : Magnitude) (digits : Nat) (order : Int) : Bool :=
  let m := x.significand
  let unit := Nat.pow 2 x.scale
  let below := if m = Nat.pow 2 52 ∧ x.scale ≠ 0 then unit else 2 * unit
  let low := 4 * x.units - below
  let high := 4 * x.units + 2 * unit
  let lift := Nat.pow 10 (-order).toNat
  let w := digits * Nat.pow 10 order.toNat * Nat.pow 2 1076
  if m % 2 = 0 then low * lift ≤ w && w ≤ high * lift
  else low * lift < w && w < high * lift

/-- Looks for a decimal with `n` digits that rounds to the magnitude, then for one with `n + 1`,
as far as `fuel` reaches; of two such neighbours the nearer one is taken, and of two equally near
ones the even one. -/
def shortestFrom (x : Magnitude) (top : Int) : Nat → Nat → Nat × Int
  | 0, n => (0, top - n)
  | fuel + 1, n =>
    let order := top - n + 1
    let num := x.units * Nat.pow 10 (-order).toNat
    let den := Nat.pow 2 1074 * Nat.pow 10 order.toNat
    let a := num / den
    let nearest := roundQuotient num den
    match x.covers a order, x.covers (a + 1) order with
    | true, true => (nearest, order)
    | true, false => (a, order)
    | false, true => (a + 1, order)
    | false, false => shortestFrom x top fuel (n + 1)

/-- The number without the zeros at its decimal end, and how many there were; `fuel` bounds them. -/
def stripZeros : Nat → Nat → Nat → Nat × Nat
  | 0, n, zeros => (n, zeros)
  | fuel + 1, n, zeros =>
    if n % 10 = 0 ∧ n ≠ 0 then stripZeros fuel (n / 10) (zeros + 1) else (n, zeros)

/-- The shortest decimal `digits * 10 ^ order` that rounds to the magnitude, without zeros at the
end of its digits; zero is `0 * 10 ^ 0`. -/
def shortest (x : Magnitude) : Nat × Int :=
  if x.bits = 0 then (0, 0)
  else
    let (digits, order) := x.shortestFrom (decimalOrder x.units (Nat.pow 2 1074)) 17 1
    let (digits, zeros) := stripZeros 17 digits 0
    (digits, order + zeros)

end Magnitude

namespace Binary64

/-- The digits with a point behind the first one, if there are others. -/
def pointAfterFirst : List Char → List Char
  | [] => []
  | [d] => [d]
  | d :: ds => d :: '.' :: ds

/-- The text of a number: the shortest digits, positional from `1e-5` to below `1e16` with at least
one digit after the point, and otherwise with an exponent. -/
def text (x : Binary64) : List Char :=
  let (digits, order) := x.magnitude.shortest
  let ds := Nat.toDigits 10 digits
  let point := ds.length + order
  let body :=
    if digits = 0 then ['0', '.', '0']
    else if 0 ≤ order ∧ point ≤ 16 then ds ++ List.replicate order.toNat '0' ++ ['.', '0']
    else if 0 < point ∧ point ≤ 16 then ds.take point.toNat ++ '.' :: ds.drop point.toNat
    else if -5 < point ∧ point ≤ 0 then
      '0' :: '.' :: List.replicate (-point).toNat '0' ++ ds
    else pointAfterFirst ds ++ 'e' :: (toString (point - 1)).toList
  if x.negative then '-' :: body else body

end Binary64

end AgentSandbox

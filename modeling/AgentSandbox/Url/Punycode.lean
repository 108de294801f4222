/-!
# Punycode

`Punycode.encode` writes a label of any script in ASCII: first its ASCII characters, then, behind a
hyphen, where the other characters go, in increasing order of the characters and each place counted
from the one before.  The counts are written in base 36, the least digit first, with thresholds that
adapt to the counts written so far; `Punycode.decode?` reads such a label.
-/

namespace AgentSandbox.Url.Punycode

/-- The character of a digit: letters first, then decimal digits. -/
def digitChar (d : Nat) : Char :=
  if d < 26 then Char.ofNat ('a'.toNat + d) else Char.ofNat ('0'.toNat + (d - 26))

/-- The value of a digit. -/
def digitValue? (c : Char) : Option Nat :=
  if 'a' ≤ c ∧ c ≤ 'z' then some (c.toNat - 'a'.toNat)
  else if '0' ≤ c ∧ c ≤ '9' then some (c.toNat - '0'.toNat + 26)
  else none

/-- The threshold of the digit at a place, counted in steps of 36: a digit below it is the last. -/
def threshold (bias place : Nat) : Nat := max 1 (min 26 (place - bias))

theorem threshold_bounds (bias place : Nat) :
    1 ≤ threshold bias place ∧ threshold bias place ≤ 26 := by
  unfold threshold
  omega

/-- A count divided by 35 until it is at most 455, with 36 for each division. -/
def reduce (count : Nat) (steps : Nat) : Nat × Nat :=
  if 455 < count then reduce (count / 35) (steps + 36) else (count, steps)
termination_by count
decreasing_by omega

/-- The bias after a count, the first one weighing less. -/
def adapt (count length : Nat) (first : Bool) : Nat :=
  let scaled := if first then count / 700 else count / 2
  let r := reduce (scaled + scaled / length) 0
  r.2 + 36 * r.1 / (r.1 + 38)

/-! ## Writing -/

/-- A count in digits. -/
def digits (bias place count : Nat) : List Char :=
  let t := threshold bias place
  if count < t then [digitChar count]
  else digitChar (t + (count - t) % (36 - t)) :: digits bias (place + 36) ((count - t) / (36 - t))
termination_by count
decreasing_by
  have := threshold_bounds bias place
  exact Nat.lt_of_le_of_lt (Nat.div_le_self _ _) (by omega)

/-- What has been written: the characters, the count since the last place, the bias, and the number
of characters whose place is known. -/
structure Written where
  text : List Char
  count : Nat
  bias : Nat
  placed : Nat

/-- One pass over a label places the character `n` wherever it stands; `basic` of the characters
were placed before the first pass. -/
def place (basic n : Nat) (w : Written) (c : Char) : Written :=
  if c.toNat < n then { w with count := w.count + 1 }
  else if c.toNat = n then
    ⟨w.text ++ digits w.bias 36 w.count, 0, adapt w.count (w.placed + 1) (w.placed = basic),
      w.placed + 1⟩
  else w

/-- The passes for some characters in increasing order, the one before them being `last`. -/
def passes (label : List Char) (basic : Nat) : Nat → List Nat → Written → Written
  | _, [], w => w
  | next, n :: ns, w =>
    let w := label.foldl (place basic n) { w with count := w.count + (n - next) * (w.placed + 1) }
    passes label basic (n + 1) ns { w with count := w.count + 1 }

/-- The numbers with another one put in its place, if it is not among them. -/
def insertNat (n : Nat) : List Nat → List Nat
  | [] => [n]
  | m :: ms => if n < m then n :: m :: ms else if n = m then m :: ms else m :: insertNat n ms

/-- The label in ASCII. -/
def encode (label : List Char) : List Char :=
  let basic := label.filter fun c => c.toNat < 0x80
  let others := ((label.filter fun c => 0x80 ≤ c.toNat).map Char.toNat).foldr insertNat []
  let start := if basic.isEmpty then [] else basic ++ ['-']
  (passes label basic.length 0x80 others ⟨start, 0, 72, basic.length⟩).text

/-! ## Reading -/

/-- The count at the front of some digits, and the digits behind it; the weight of a digit has at most
32 bits. -/
def count? (bias : Nat) : Nat → Nat → Nat → List Char → Option (Nat × List Char)
  | _, _, _, [] => none
  | place, weight, sum, c :: cs =>
    match digitValue? c with
    | none => none
    | some d =>
      let t := threshold bias place
      if d < t then some (sum + d * weight, cs)
      else if weight * (36 - t) < 0x100000000 then
        count? bias (place + 36) (weight * (36 - t)) (sum + d * weight) cs
      else none

theorem length_lt_of_count? {bias place weight sum n : Nat} {cs rest : List Char}
    (h : count? bias place weight sum cs = some (n, rest)) : rest.length < cs.length := by
  fun_induction count? bias place weight sum cs with
  | case1 => cases h
  | case2 => cases h
  | case3 place weight sum c cs d _ t _ => cases h; exact Nat.lt_succ_self _
  | case4 place weight sum c cs d _ t _ _ ih => exact Nat.lt_succ_of_lt (ih h)
  | case5 => cases h

/-- Puts the characters that some digits place into a label; `n` is the last character and `place`
where the next one would go if the count were zero. -/
def placed? (bias n place : Nat) (label : List Char) (ds : List Char) : Option (List Char) :=
  if ds.isEmpty then some label
  else
    match h : count? bias 36 1 0 ds with
    | none => none
    | some (count, rest) =>
      let length := label.length + 1
      let total := place + count
      let next := n + total / length
      if next.isValidChar then
        have := length_lt_of_count? h
        placed? (adapt count length (place = 0)) next (total % length + 1)
          (label.insertIdx (total % length) (Char.ofNat next)) rest
      else none
termination_by ds.length

/-- The label that a text in ASCII stands for.  The last hyphen is the one behind the ASCII characters
of the label, of which there has to be one then. -/
def decode? (text : List Char) : Option (List Char) :=
  let behind := (text.reverse.takeWhile (· != '-')).reverse
  match text.take (text.length - behind.length) with
  | [] => placed? 72 0x80 0 [] behind
  | [_] => none
  | before => placed? 72 0x80 0 before.dropLast behind

end AgentSandbox.Url.Punycode

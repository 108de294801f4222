/-!
# UTF-8

`encode` writes a text as bytes.  `decode` reads bytes back as a list of characters in which a
`none` stands for every maximal ill-formed part: the longest run of bytes that begins a well-formed
sequence but does not complete it, or else a single byte.  `decodeLossy` puts a replacement
character in those places, and `decodeStrict?` refuses a text that has any.
-/

namespace AgentSandbox.Utf8

/-- The bytes of a text. -/
def encode (s : String) : List UInt8 :=
  s.toList.flatMap String.utf8EncodeChar

/-- What the first byte of a sequence of two to four bytes says: the number of bytes that follow,
the bounds of the second byte, and the bits of the character that the first byte holds. -/
structure Lead where
  following : Nat
  low : UInt8
  high : UInt8
  bits : Nat

/-- The announcement made by a byte that begins a sequence of several bytes, if it begins one. -/
def lead? (b : UInt8) : Option Lead :=
  if b < 0xC2 then none
  else if b < 0xE0 then some ⟨1, 0x80, 0xBF, b.toNat - 0xC0⟩
  else if b < 0xF0 then
    some ⟨2, if b == 0xE0 then 0xA0 else 0x80, if b == 0xED then 0x9F else 0xBF, b.toNat - 0xE0⟩
  else if b < 0xF5 then
    some ⟨3, if b == 0xF0 then 0x90 else 0x80, if b == 0xF4 then 0x8F else 0xBF, b.toNat - 0xF0⟩
  else none

/-- Reads `following` more bytes of a sequence, the next of them between `low` and `high`; answers
the number the sequence spells, or `none` where a byte does not fit, with the bytes left over. -/
def continuation : Nat → UInt8 → UInt8 → Nat → List UInt8 → Option Nat × List UInt8
  | 0, _, _, bits, bytes => (some bits, bytes)
  | _ + 1, _, _, _, [] => (none, [])
  | n + 1, low, high, bits, b :: bytes =>
    if low ≤ b ∧ b ≤ high then
      continuation n 0x80 0xBF (bits * 64 + (b.toNat - 0x80)) bytes
    else (none, b :: bytes)

/-- Reads the character, or the maximal ill-formed part, that begins with the byte `b`. -/
def step (b : UInt8) (bytes : List UInt8) : Option Char × List UInt8 :=
  if b < 0x80 then (some (Char.ofNat b.toNat), bytes)
  else
    match lead? b with
    | none => (none, bytes)
    | some l =>
      let r := continuation l.following l.low l.high l.bits bytes
      (r.1.map Char.ofNat, r.2)

theorem length_continuation_le (n : Nat) (low high : UInt8) (bits : Nat) (bytes : List UInt8) :
    (continuation n low high bits bytes).2.length ≤ bytes.length := by
  fun_induction continuation n low high bits bytes with
  | case1 => exact Nat.le_refl _
  | case2 => exact Nat.le_refl _
  | case3 n low high bits b bytes h ih => exact Nat.le_succ_of_le ih
  | case4 => exact Nat.le_refl _

theorem length_step_le (b : UInt8) (bytes : List UInt8) :
    (step b bytes).2.length ≤ bytes.length := by
  unfold step
  split
  · exact Nat.le_refl _
  · split
    · exact Nat.le_refl _
    · exact length_continuation_le _ _ _ _ _

/-- The characters that the bytes spell, with a `none` for each maximal ill-formed part. -/
def decode : List UInt8 → List (Option Char)
  | [] => []
  | b :: bytes => (step b bytes).1 :: decode (step b bytes).2
termination_by bytes => bytes.length
decreasing_by exact Nat.lt_succ_of_le (length_step_le b bytes)

/-- The text with a replacement character U+FFFD for each maximal ill-formed part. -/
def decodeLossy (bytes : List UInt8) : List Char :=
  (decode bytes).map (·.getD '\uFFFD')

/-- The text, if the bytes are well-formed. -/
def decodeStrict? (bytes : List UInt8) : Option (List Char) :=
  (decode bytes).mapM id

/-- `decodeLossy` as a string. -/
def lossyString (bytes : List UInt8) : String :=
  String.ofList (decodeLossy bytes)

end AgentSandbox.Utf8

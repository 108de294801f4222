/-!
# SHA-256

`Sha256.digest` is the digest of FIPS 180-4 of a sequence of bytes, and `hmacSha256` the keyed
digest of RFC 2104 made from it.  `hex` writes bytes in lower-case hexadecimal digits.
-/

namespace AgentSandbox

namespace Sha256

/-- The eight words that are carried from block to block. -/
structure State where
  a : UInt32
  b : UInt32
  c : UInt32
  d : UInt32
  e : UInt32
  f : UInt32
  g : UInt32
  h : UInt32

/-- The words before the first block. -/
def start : State :=
  ⟨0x6a09e667, 0xbb67ae85, 0x3c6ef372, 0xa54ff53a, 0x510e527f, 0x9b05688c, 0x1f83d9ab, 0x5be0cd19⟩

/-- The constants of the 64 rounds. -/
def constants : List UInt32 := [
  0x428a2f98, 0x71374491, 0xb5c0fbcf, 0xe9b5dba5, 0x3956c25b, 0x59f111f1, 0x923f82a4, 0xab1c5ed5,
  0xd807aa98, 0x12835b01, 0x243185be, 0x550c7dc3, 0x72be5d74, 0x80deb1fe, 0x9bdc06a7, 0xc19bf174,
  0xe49b69c1, 0xefbe4786, 0x0fc19dc6, 0x240ca1cc, 0x2de92c6f, 0x4a7484aa, 0x5cb0a9dc, 0x76f988da,
  0x983e5152, 0xa831c66d, 0xb00327c8, 0xbf597fc7, 0xc6e00bf3, 0xd5a79147, 0x06ca6351, 0x14292967,
  0x27b70a85, 0x2e1b2138, 0x4d2c6dfc, 0x53380d13, 0x650a7354, 0x766a0abb, 0x81c2c92e, 0x92722c85,
  0xa2bfe8a1, 0xa81a664b, 0xc24b8b70, 0xc76c51a3, 0xd192e819, 0xd6990624, 0xf40e3585, 0x106aa070,
  0x19a4c116, 0x1e376c08, 0x2748774c, 0x34b0bcb5, 0x391c0cb3, 0x4ed8aa4a, 0x5b9cca4f, 0x682e6ff3,
  0x748f82ee, 0x78a5636f, 0x84c87814, 0x8cc70208, 0x90befffa, 0xa4506ceb, 0xbef9a3f7, 0xc67178f2]

/-- A word rotated to the right by `n` bits, for `n` between 1 and 31. -/
def rotate (x : UInt32) (n : UInt32) : UInt32 := (x >>> n) ||| (x <<< (32 - n))

/-- The word that follows sixteen words of the message schedule. -/
def nextWord (w : Array UInt32) : UInt32 :=
  let x := w.getD (w.size - 15) 0
  let y := w.getD (w.size - 2) 0
  w.getD (w.size - 16) 0 + (rotate x 7 ^^^ rotate x 18 ^^^ (x >>> 3)) + w.getD (w.size - 7) 0 +
    (rotate y 17 ^^^ rotate y 19 ^^^ (y >>> 10))

/-- A schedule prolonged by `n` words. -/
def prolong : Nat → Array UInt32 → Array UInt32
  | 0, w => w
  | n + 1, w => prolong n (w.push (nextWord w))

/-- The big-endian words of some bytes, four bytes each. -/
def words : List UInt8 → List UInt32
  | a :: b :: c :: d :: bs =>
    ((a.toUInt32 <<< 24) ||| (b.toUInt32 <<< 16) ||| (c.toUInt32 <<< 8) ||| d.toUInt32) :: words bs
  | _ => []

/-- One round, with its constant and its word of the schedule. -/
def round (s : State) (k w : UInt32) : State :=
  let t := s.h + (rotate s.e 6 ^^^ rotate s.e 11 ^^^ rotate s.e 25) +
    ((s.e &&& s.f) ^^^ (~~~s.e &&& s.g)) + k + w
  let u := (rotate s.a 2 ^^^ rotate s.a 13 ^^^ rotate s.a 22) +
    ((s.a &&& s.b) ^^^ (s.a &&& s.c) ^^^ (s.b &&& s.c))
  ⟨t + u, s.a, s.b, s.c, s.d + t, s.e, s.f, s.g⟩

/-- The words carried on after a block of 64 bytes. -/
def compress (s : State) (block : List UInt8) : State :=
  let schedule := (prolong 48 (words block).toArray).toList
  let r := (constants.zip schedule).foldl (fun s kw => round s kw.1 kw.2) s
  ⟨s.a + r.a, s.b + r.b, s.c + r.c, s.d + r.d, s.e + r.e, s.f + r.f, s.g + r.g, s.h + r.h⟩

/-- The words carried on after all blocks; fewer than 64 bytes at the end are left out. -/
def absorb (s : State) (bytes : List UInt8) : State :=
  if 64 ≤ bytes.length then absorb (compress s (bytes.take 64)) (bytes.drop 64) else s
termination_by bytes.length
decreasing_by simp only [List.length_drop]; omega

/-- The `n` bytes of a number, the most significant first. -/
def bigEndian : Nat → Nat → List UInt8
  | 0, _ => []
  | n + 1, x => UInt8.ofNat (x / Nat.pow 256 n % 256) :: bigEndian n x

/-- A message filled up to whole blocks: a one bit, zero bits, and the length in bits. -/
def pad (message : List UInt8) : List UInt8 :=
  message ++ 0x80 :: List.replicate ((119 - message.length % 64) % 64) 0 ++
    bigEndian 8 (8 * message.length)

/-- The bytes of a state. -/
def State.bytes (s : State) : List UInt8 :=
  [s.a, s.b, s.c, s.d, s.e, s.f, s.g, s.h].flatMap fun w => bigEndian 4 w.toNat

/-- The digest of a message, 32 bytes. -/
def digest (message : List UInt8) : List UInt8 :=
  (absorb start (pad message)).bytes

end Sha256

/-- A key as long as a block: a longer one is replaced by its digest, a shorter one filled up. -/
def blockKey (key : List UInt8) : List UInt8 :=
  let k := if 64 < key.length then Sha256.digest key else key
  k ++ List.replicate (64 - k.length) 0

/-- The keyed digest of a message. -/
def hmacSha256 (key message : List UInt8) : List UInt8 :=
  let k := blockKey key
  Sha256.digest (k.map (· ^^^ 0x5c) ++ Sha256.digest (k.map (· ^^^ 0x36) ++ message))

/-- The two hexadecimal digits of a byte. -/
def hexByte (b : UInt8) : List Char :=
  [Nat.digitChar (b.toNat / 16), Nat.digitChar (b.toNat % 16)]

/-- Bytes in hexadecimal digits. -/
def hex (bytes : List UInt8) : String :=
  String.ofList (bytes.flatMap hexByte)

end AgentSandbox

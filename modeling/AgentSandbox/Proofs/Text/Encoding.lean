import AgentSandbox.Text.Utf8

/-!
# Decoding what was encoded

A text is decoded from its bytes (`decodeLossy_encode`), character by character: the first byte of a
character announces how many follow (`lead?_two` and the others) and each of these adds six bits
(`continuation_byte`), so that each of the four forms spells its character (`step_one` to
`step_four`).  No part of a longer sequence is an ASCII byte (`utf8EncodeChar_cases`).
-/

namespace AgentSandbox.Utf8

/-! ## Sequences -/

section

variable {b : UInt8} {n : Nat}

theorem beq_eq_decide (b c : UInt8) : (b == c) = decide (b.toNat = c.toNat) := by
  rw [Bool.eq_iff_iff, beq_iff_eq, decide_eq_true_eq, UInt8.toNat_inj]

/-- The first byte of two announces the upper bits of a character. -/
theorem lead?_two (hb : b.toNat = n + 192) (hlow : 2 ≤ n) (hhigh : n < 32) :
    lead? b = some ⟨1, 0x80, 0xBF, n⟩ := by
  have hbits : b.toNat - 0xC0 = n := by omega
  simp only [lead?, UInt8.lt_iff_toNat_lt, hb, UInt8.reduceToNat] at hbits ⊢
  rw [if_neg (by omega), if_pos (by omega), hbits]

/-- The first byte of three; two of them narrow the range of the second one. -/
theorem lead?_three (hb : b.toNat = n + 224) (h : n < 16) :
    lead? b = some ⟨2, if n = 0 then 0xA0 else 0x80, if n = 13 then 0x9F else 0xBF, n⟩ := by
  have hbits : b.toNat - 0xE0 = n := by omega
  simp only [lead?, UInt8.lt_iff_toNat_lt, beq_eq_decide, hb, UInt8.reduceToNat] at hbits ⊢
  rw [if_neg (by omega), if_neg (by omega), if_pos (by omega), hbits]
  simp

/-- The first byte of four; two of them narrow the range of the second one. -/
theorem lead?_four (hb : b.toNat = n + 240) (h : n < 5) :
    lead? b = some ⟨3, if n = 0 then 0x90 else 0x80, if n = 4 then 0x8F else 0xBF, n⟩ := by
  have hbits : b.toNat - 0xF0 = n := by omega
  simp only [lead?, UInt8.lt_iff_toNat_lt, beq_eq_decide, hb, UInt8.reduceToNat] at hbits ⊢
  rw [if_neg (by omega), if_neg (by omega), if_neg (by omega), if_pos (by omega), hbits]
  simp

/-- A byte inside a sequence adds its six bits. -/
theorem continuation_byte {low high : UInt8} (hb : b.toNat = n + 128) (hlow : low.toNat ≤ n + 128)
    (hhigh : n + 128 ≤ high.toNat) (following bits : Nat) (bytes : List UInt8) :
    continuation (following + 1) low high bits (b :: bytes) =
      continuation following 0x80 0xBF (bits * 64 + n) bytes := by
  have hbits : b.toNat - 0x80 = n := by omega
  have hfits : low ≤ b ∧ b ≤ high := by
    rw [UInt8.le_iff_toNat_le, UInt8.le_iff_toNat_le, hb]
    exact ⟨hlow, hhigh⟩
  rw [continuation, if_pos hfits, hbits]

/-- The character that a first byte and those behind it spell. -/
theorem step_lead {l : Lead} {bytes rest : List UInt8} {v : Nat} (hl : lead? b = some l)
    (hc : continuation l.following l.low l.high l.bits bytes = (some v, rest)) :
    step b bytes = (some (Char.ofNat v), rest) := by
  have hb : ¬b < 0x80 := by
    intro h
    have hC2 : b < 0xC2 := UInt8.lt_trans h (by decide)
    rw [lead?, if_pos hC2] at hl
    cases hl
  rw [step, if_neg hb, hl]
  simp only [hc, Option.map_some]

end

/-! ## Characters and texts -/

theorem toNat_byte {n : Nat} (h : n < 256) : (UInt8.ofNat n).toNat = n :=
  UInt8.toNat_ofNat_of_lt' h

section

variable {v : Nat} (rest : List UInt8)

theorem toNat_low_byte (v : Nat) : (UInt8.ofNat (v % 64 + 128)).toNat = v % 64 + 128 :=
  toNat_byte (by omega)

/-- The last bytes of a sequence add their bits, whatever they are. -/
theorem continuation_low_byte (following bits : Nat) (bytes : List UInt8) :
    continuation (following + 1) 0x80 0xBF bits (UInt8.ofNat (v % 64 + 128) :: bytes) =
      continuation following 0x80 0xBF (bits * 64 + v % 64) bytes := by
  refine continuation_byte (toNat_low_byte v) ?_ ?_ following bits bytes
  · simp
  · simp
    omega

theorem step_one (h : v < 0x80) : step (UInt8.ofNat v) rest = (some (Char.ofNat v), rest) := by
  have hb := toNat_byte (show v < 256 by omega)
  have hlt : UInt8.ofNat v < 0x80 := by
    rw [UInt8.lt_iff_toNat_lt, hb]
    exact h
  rw [step, if_pos hlt, hb]

theorem step_two (hle : 0x80 ≤ v) (h : v < 0x800) :
    step (UInt8.ofNat (v / 64 % 32 + 192)) (UInt8.ofNat (v % 64 + 128) :: rest) =
      (some (Char.ofNat v), rest) := by
  have hv : v / 64 % 32 * 64 + v % 64 = v := by omega
  have hlead := lead?_two (toNat_byte (show v / 64 % 32 + 192 < 256 by omega)) (by omega)
    (by omega)
  refine step_lead hlead ?_
  rw [continuation_low_byte, hv, continuation]

theorem step_three (hle : 0x800 ≤ v) (h : v < 0x10000) (hvalid : v < 0xD800 ∨ 0xDFFF < v) :
    step (UInt8.ofNat (v / 4096 % 16 + 224))
        (UInt8.ofNat (v / 64 % 64 + 128) :: UInt8.ofNat (v % 64 + 128) :: rest) =
      (some (Char.ofNat v), rest) := by
  have hv : (v / 4096 % 16 * 64 + v / 64 % 64) * 64 + v % 64 = v := by omega
  have hlead := lead?_three (toNat_byte (show v / 4096 % 16 + 224 < 256 by omega)) (by omega)
  refine step_lead hlead ?_
  -- no short form and no surrogate
  have hlow : (if v / 4096 % 16 = 0 then (0xA0 : UInt8) else 0x80).toNat ≤ v / 64 % 64 + 128 := by
    split
    · simp only [UInt8.reduceToNat]; omega
    · simp only [UInt8.reduceToNat]; omega
  have hhigh : v / 64 % 64 + 128 ≤
      (if v / 4096 % 16 = 13 then (0x9F : UInt8) else 0xBF).toNat := by
    split
    · simp only [UInt8.reduceToNat]; omega
    · simp only [UInt8.reduceToNat]; omega
  rw [continuation_byte (toNat_low_byte _) hlow hhigh, continuation_low_byte, hv, continuation]

theorem step_four (hle : 0x10000 ≤ v) (h : v < 0x110000) :
    step (UInt8.ofNat (v / 262144 % 8 + 240))
        (UInt8.ofNat (v / 4096 % 64 + 128) :: UInt8.ofNat (v / 64 % 64 + 128) ::
          UInt8.ofNat (v % 64 + 128) :: rest) =
      (some (Char.ofNat v), rest) := by
  have hv : ((v / 262144 % 8 * 64 + v / 4096 % 64) * 64 + v / 64 % 64) * 64 + v % 64 = v := by
    omega
  have hlead := lead?_four (toNat_byte (show v / 262144 % 8 + 240 < 256 by omega)) (by omega)
  refine step_lead hlead ?_
  -- no short form and nothing above the last character
  have hlow : (if v / 262144 % 8 = 0 then (0x90 : UInt8) else 0x80).toNat ≤
      v / 4096 % 64 + 128 := by
    split
    · simp only [UInt8.reduceToNat]; omega
    · simp only [UInt8.reduceToNat]; omega
  have hhigh : v / 4096 % 64 + 128 ≤
      (if v / 262144 % 8 = 4 then (0x8F : UInt8) else 0xBF).toNat := by
    split
    · simp only [UInt8.reduceToNat]; omega
    · simp only [UInt8.reduceToNat]; omega
  rw [continuation_byte (toNat_low_byte _) hlow hhigh, continuation_low_byte,
    continuation_low_byte, hv, continuation]

end

/-- A character is decoded from its bytes, whatever follows them. -/
theorem step_utf8EncodeChar (c : Char) (rest : List UInt8) :
    ∃ b bytes, String.utf8EncodeChar c = b :: bytes ∧ step b (bytes ++ rest) = (some c, rest) := by
  suffices h : ∃ b bytes, String.utf8EncodeChar c = b :: bytes ∧
      step b (bytes ++ rest) = (some (Char.ofNat c.val.toNat), rest) by
    rwa [show Char.ofNat c.val.toNat = c from Char.ofNat_toNat c] at h
  have hvalid : c.val.toNat < 0xD800 ∨ 0xDFFF < c.val.toNat ∧ c.val.toNat < 0x110000 := c.valid
  unfold String.utf8EncodeChar
  generalize c.val.toNat = v at *
  simp only
  split
  · exact ⟨_, _, rfl, step_one rest (by omega)⟩
  split
  · exact ⟨_, _, rfl, step_two rest (by omega) (by omega)⟩
  split
  · exact ⟨_, _, rfl, step_three rest (by omega) (by omega) (hvalid.imp_right And.left)⟩
  · exact ⟨_, _, rfl, step_four rest (by omega) (by omega)⟩

theorem decode_utf8EncodeChar (c : Char) (rest : List UInt8) :
    decode (String.utf8EncodeChar c ++ rest) = some c :: decode rest := by
  obtain ⟨b, bytes, hbytes, hstep⟩ := step_utf8EncodeChar c rest
  rw [hbytes, List.cons_append, decode, hstep]

/-- A text is decoded from its bytes. -/
theorem decode_encode (s : String) : decode (encode s) = s.toList.map some := by
  have hdecode (cs : List Char) : decode (cs.flatMap String.utf8EncodeChar) = cs.map some := by
    induction cs with
    | nil => rw [List.flatMap_nil, decode, List.map_nil]
    | cons c cs ih => rw [List.flatMap_cons, decode_utf8EncodeChar, ih, List.map_cons]
  exact hdecode s.toList

theorem decodeLossy_encode (s : String) : decodeLossy (encode s) = s.toList := by
  simp [decodeLossy, decode_encode, Function.comp_def]

/-- Texts with the same bytes are equal. -/
theorem encode_inj {s t : String} (h : encode s = encode t) : s = t := by
  rw [← String.toList_inj, ← decodeLossy_encode, h, decodeLossy_encode]

theorem decodeStrict?_encode (s : String) : decodeStrict? (encode s) = some s.toList := by
  rw [decodeStrict?, decode_encode]
  induction s.toList with
  | nil => rfl
  | cons c cs ih => rw [List.map_cons, List.mapM_cons, ih]; rfl

theorem le_toNat_byte {n : Nat} (h : n < 256) (hle : 0x80 ≤ n) : 0x80 ≤ (UInt8.ofNat n).toNat := by
  rwa [toNat_byte h]

theorem utf8EncodeChar_of_lt {c : Char} (hc : c.toNat < 0x80) :
    String.utf8EncodeChar c = [UInt8.ofNat c.toNat] := by
  have hval : c.val.toNat = c.toNat := rfl
  rw [String.utf8EncodeChar, hval]
  exact if_pos (by omega)

/-- A character is an ASCII byte or has none. -/
theorem utf8EncodeChar_cases (c : Char) :
    c.toNat < 0x80 ∧ String.utf8EncodeChar c = [UInt8.ofNat c.toNat] ∨
      ∀ b ∈ String.utf8EncodeChar c, 0x80 ≤ b.toNat := by
  have hval : c.val.toNat = c.toNat := rfl
  unfold String.utf8EncodeChar
  rw [hval]
  generalize c.toNat = v
  simp only
  split
  · exact .inl ⟨by omega, rfl⟩
  refine .inr ?_
  split
  · simp only [List.forall_mem_cons]
    exact ⟨le_toNat_byte (by omega) (by omega), le_toNat_byte (by omega) (by omega), nofun⟩
  split
  · simp only [List.forall_mem_cons]
    exact ⟨le_toNat_byte (by omega) (by omega), le_toNat_byte (by omega) (by omega),
      le_toNat_byte (by omega) (by omega), nofun⟩
  · simp only [List.forall_mem_cons]
    exact ⟨le_toNat_byte (by omega) (by omega), le_toNat_byte (by omega) (by omega),
      le_toNat_byte (by omega) (by omega), le_toNat_byte (by omega) (by omega), nofun⟩

/-- A byte below `0x80` among those of a text is the character itself. -/
theorem exists_of_mem_encode {b : UInt8} (hb : b.toNat < 0x80) {s : String} (h : b ∈ encode s) :
    ∃ c ∈ s.toList, c.toNat = b.toNat := by
  obtain ⟨c, hc, hbyte⟩ := List.mem_flatMap.1 h
  refine ⟨c, hc, ?_⟩
  rcases utf8EncodeChar_cases c with ⟨hlt, hone⟩ | hall
  · rw [hone, List.mem_singleton] at hbyte
    rw [hbyte, toNat_byte (by omega)]
  · exact absurd hb (Nat.not_lt.2 (hall b hbyte))

end AgentSandbox.Utf8

import AgentSandbox.Text.Utf8

/-!
# Decoding around an ASCII byte

A byte below `0x80` stands for itself wherever it comes: no sequence of bytes contains it, so it
ends an ill-formed part in front of it.  Decoding may therefore be cut at any such byte
(`decodeLossy_append_ascii`, `decodeStrict?_append_ascii`), whatever the bytes on its two sides are.
-/

namespace AgentSandbox.Utf8

theorem le_low_of_lead? {b : UInt8} {l : Lead} (h : lead? b = some l) : 0x80 ≤ l.low := by
  unfold lead? at h
  split at h
  · cases h
  split at h
  · obtain rfl := Option.some.inj h
    exact UInt8.le_refl _
  split at h
  · obtain rfl := Option.some.inj h
    show 0x80 ≤ if b == 0xE0 then (0xA0 : UInt8) else 0x80
    split <;> decide
  split at h
  · obtain rfl := Option.some.inj h
    show 0x80 ≤ if b == 0xF0 then (0x90 : UInt8) else 0x80
    split <;> decide
  · cases h

theorem continuation_append_ascii {a : UInt8} (ha : a < 0x80) (rest : List UInt8) (n : Nat)
    {low : UInt8} (hl : 0x80 ≤ low) (high : UInt8) (bits : Nat) (bytes : List UInt8) :
    continuation n low high bits (bytes ++ a :: rest) =
      ((continuation n low high bits bytes).1,
        (continuation n low high bits bytes).2 ++ a :: rest) := by
  induction n generalizing low high bits bytes with
  | zero => rfl
  | succ n ih =>
    cases bytes with
    | nil =>
      have hlow : ¬(low ≤ a ∧ a ≤ high) :=
        fun h => absurd (UInt8.le_trans hl h.1) (UInt8.not_le.2 ha)
      simp only [List.nil_append, continuation, if_neg hlow]
    | cons b bytes =>
      simp only [List.cons_append, continuation]
      split
      · exact ih (UInt8.le_refl _) _ _ _
      · rfl

theorem step_append_ascii {a : UInt8} (ha : a < 0x80) (rest : List UInt8) (b : UInt8)
    (bytes : List UInt8) :
    step b (bytes ++ a :: rest) = ((step b bytes).1, (step b bytes).2 ++ a :: rest) := by
  unfold step
  split
  · rfl
  · cases hl : lead? b with
    | none => rfl
    | some l => simp only [continuation_append_ascii ha rest _ (le_low_of_lead? hl)]

theorem decode_cons_ascii {a : UInt8} (ha : a < 0x80) (rest : List UInt8) :
    decode (a :: rest) = some (Char.ofNat a.toNat) :: decode rest := by
  rw [decode, step, if_pos ha]

theorem decode_append_ascii {a : UInt8} (ha : a < 0x80) (bytes rest : List UInt8) :
    decode (bytes ++ a :: rest) = decode bytes ++ some (Char.ofNat a.toNat) :: decode rest := by
  fun_induction decode bytes with
  | case1 => exact decode_cons_ascii ha rest
  | case2 b bytes ih => rw [List.cons_append, decode, step_append_ascii ha, ih, List.cons_append]

theorem decodeLossy_nil : decodeLossy [] = [] := by
  rw [decodeLossy, decode, List.map_nil]

/-- Decoding may be cut at an ASCII byte. -/
theorem decodeLossy_append_ascii {a : UInt8} (ha : a < 0x80) (bytes rest : List UInt8) :
    decodeLossy (bytes ++ a :: rest) =
      decodeLossy bytes ++ Char.ofNat a.toNat :: decodeLossy rest := by
  simp only [decodeLossy, decode_append_ascii ha, List.map_append, List.map_cons, Option.getD_some]

/-- ASCII bytes stand for themselves in front of any bytes. -/
theorem decodeLossy_append_left {ascii : List UInt8} (h : ∀ b ∈ ascii, b < 0x80)
    (bytes : List UInt8) :
    decodeLossy (ascii ++ bytes) =
      (ascii.map fun b => Char.ofNat b.toNat) ++ decodeLossy bytes := by
  induction ascii with
  | nil => rfl
  | cons a ascii ih =>
    obtain ⟨ha, h⟩ := List.forall_mem_cons.1 h
    have hcut := decodeLossy_append_ascii ha [] (ascii ++ bytes)
    rwa [decodeLossy_nil, ih h] at hcut

/-- They do so behind any bytes, also where these break off inside a sequence. -/
theorem decodeLossy_append_right {ascii : List UInt8} (h : ∀ b ∈ ascii, b < 0x80)
    (bytes : List UInt8) :
    decodeLossy (bytes ++ ascii) = decodeLossy bytes ++ ascii.map fun b => Char.ofNat b.toNat := by
  cases ascii with
  | nil => rw [List.append_nil, List.map_nil, List.append_nil]
  | cons a ascii =>
    obtain ⟨ha, h⟩ := List.forall_mem_cons.1 h
    have hall := decodeLossy_append_left h []
    rw [List.append_nil, decodeLossy_nil, List.append_nil] at hall
    rw [decodeLossy_append_ascii ha, hall, List.map_cons]

/-- Strict decoding may be cut there as well. -/
theorem decodeStrict?_append_ascii {a : UInt8} (ha : a < 0x80) (bytes rest : List UInt8) :
    decodeStrict? (bytes ++ a :: rest) =
      (decodeStrict? bytes).bind fun cs =>
        (decodeStrict? rest).map fun ds => cs ++ Char.ofNat a.toNat :: ds := by
  simp only [decodeStrict?, decode_append_ascii ha, List.mapM_append, List.mapM_cons]
  cases (decode bytes).mapM id with
  | none => rfl
  | some cs => cases (decode rest).mapM id <;> rfl

/-- Well-formed bytes have no ill-formed part. -/
theorem decode_of_decodeStrict? {bytes : List UInt8} {cs : List Char}
    (h : decodeStrict? bytes = some cs) : decode bytes = cs.map some := by
  unfold decodeStrict? at h
  generalize decode bytes = parts at h ⊢
  induction parts generalizing cs with
  | nil =>
    cases h
    rfl
  | cons x parts ih =>
    simp only [List.mapM_cons, id, Option.bind_eq_bind, Option.bind_eq_some_iff, Option.pure_def,
      Option.some.injEq] at h
    obtain ⟨c, rfl, ds, hds, rfl⟩ := h
    rw [ih hds, List.map_cons]

theorem decodeStrict?_nil : decodeStrict? [] = some [] := by
  rw [decodeStrict?, decode, List.mapM_nil]
  rfl

/-- ASCII bytes are the characters themselves. -/
theorem decodeStrict?_of_forall {bytes : List UInt8} (h : ∀ b ∈ bytes, b < 0x80) :
    decodeStrict? bytes = some (bytes.map fun b => Char.ofNat b.toNat) := by
  induction bytes with
  | nil => exact decodeStrict?_nil
  | cons b bytes ih =>
    obtain ⟨hb, h⟩ := List.forall_mem_cons.1 h
    have hcut := decodeStrict?_append_ascii hb [] bytes
    rw [List.nil_append, decodeStrict?_nil, ih h] at hcut
    exact hcut

end AgentSandbox.Utf8

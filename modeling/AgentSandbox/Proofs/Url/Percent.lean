import AgentSandbox.Proofs.Text.Encoding
import AgentSandbox.Url.Percent

/-!
# Percent encoding, read back

A text that is written with a set holds no character of the set but the percent sign
(`not_mem_escape`), and if the percent sign is in the set, the bytes that it spells are those of the
text (`unescape_escape`).  So two texts that are written alike are equal (`escape_inj`).  Any text
may be cut in front of a character that is no digit (`unescape_append`).
-/

namespace AgentSandbox.Url

theorem hexValue?_digit {d : Nat} (hd : d < 16) :
    Json.hexValue? (Nat.digitChar d).toUpper = some d := by
  revert d
  decide

/-- The digits of a byte are letters or decimal digits. -/
theorem digit_isAlphanum {d : Nat} (hd : d < 16) : (Nat.digitChar d).toUpper.isAlphanum = true := by
  revert d
  decide

theorem unescape_percentByte (b : UInt8) (cs : List Char) :
    unescape (percentByte b ++ cs) = b :: unescape cs := by
  have hlt : b.toNat < 256 := b.toNat_lt
  have hupper := hexValue?_digit (d := b.toNat / 16) (by omega)
  have hlower := hexValue?_digit (d := b.toNat % 16) (by omega)
  have hbyte : b.toNat / 16 * 16 + b.toNat % 16 = b.toNat := by omega
  simp only [percentByte, List.cons_append, List.nil_append, unescape, hupper, hlower, hbyte,
    UInt8.ofNat_toNat]

theorem unescape_percentBytes (bytes : List UInt8) (cs : List Char) :
    unescape (bytes.flatMap percentByte ++ cs) = bytes ++ unescape cs := by
  induction bytes with
  | nil => rfl
  | cons b bytes ih =>
    rw [List.flatMap_cons, List.append_assoc, unescape_percentByte, ih, List.cons_append]

/-- A character that is not a percent sign spells its own bytes. -/
theorem unescape_cons {c : Char} (hc : c ≠ '%') (cs : List Char) :
    unescape (c :: cs) = String.utf8EncodeChar c ++ unescape cs := by
  rw [unescape]
  rintro a b cs' h -
  exact absurd h hc

/-- A percent sign without two digits behind it spells its own byte. -/
theorem unescape_percent {cs : List Char}
    (h : ∀ a b rest, cs = a :: b :: rest → Json.hexValue? a = none ∨ Json.hexValue? b = none) :
    unescape ('%' :: cs) = String.utf8EncodeChar '%' ++ unescape cs := by
  rcases cs with _ | ⟨a, _ | ⟨b, rest⟩⟩
  · rfl
  · rfl
  · rw [unescape]
    split
    · next x y hx hy =>
      rcases h a b rest rfl with ha | hb
      · rw [ha] at hx
        cases hx
      · rw [hb] at hy
        cases hy
    · rfl

/-- A character that is no digit is not part of a byte that is spelled before it. -/
theorem unescape_append {d : Char} (hdigit : Json.hexValue? d = none)
    (cs ds : List Char) : unescape (cs ++ d :: ds) = unescape cs ++ unescape (d :: ds) := by
  fun_induction unescape cs with
  | case1 a b cs x y hx hy ih => simp only [List.cons_append, unescape, hx, hy, ih]
  | case2 a b cs hnone ih =>
    have hdigits : ∀ a' b' rest, a :: b :: (cs ++ d :: ds) = a' :: b' :: rest →
        Json.hexValue? a' = none ∨ Json.hexValue? b' = none := by
      rintro a' b' rest ⟨⟩
      cases hx : Json.hexValue? a with
      | none => exact .inl rfl
      | some x => exact .inr (Option.eq_none_iff_forall_ne_some.2 fun y hy => hnone x y hx hy)
    exact (unescape_percent hdigits).trans (congrArg _ ih)
  | case3 c cs hshort ih =>
    rw [List.append_assoc, ← ih, List.cons_append]
    by_cases hc : c = '%'
    · subst hc
      refine unescape_percent fun a b rest h => ?_
      -- at most one character stands between the percent sign and `d`
      rcases cs with _ | ⟨a', _ | ⟨b', cs⟩⟩
      · cases h
        exact .inl hdigit
      · cases h
        exact .inr hdigit
      · exact absurd rfl (hshort a' b' cs rfl)
    · exact unescape_cons hc _
  | case4 => rfl

/-- A text without percent signs spells its own bytes. -/
theorem unescape_of_notMem {cs : List Char} (h : '%' ∉ cs) :
    unescape cs = cs.flatMap String.utf8EncodeChar := by
  induction cs with
  | nil => rfl
  | cons c cs ih =>
    obtain ⟨hc, hcs⟩ := not_or.1 (mt List.mem_cons.2 h)
    rw [unescape_cons (Ne.symm hc), ih hcs, List.flatMap_cons]

variable {set : Char → Bool}

/-- What is written with a set spells the bytes of the text. -/
theorem unescape_escape (hpercent : set '%' = true) (s : String) :
    unescape (escape set s.toList) = Utf8.encode s := by
  unfold Utf8.encode escape
  induction s.toList with
  | nil => rfl
  | cons c cs ih =>
    rw [List.flatMap_cons, List.flatMap_cons]
    split
    · rw [percentChar, unescape_percentBytes, ih]
    · next hc =>
      have hne : c ≠ '%' := fun h => hc (h ▸ hpercent)
      rw [List.singleton_append, unescape_cons hne, ih]

theorem escape_inj (hpercent : set '%' = true) {s t : String}
    (h : escape set s.toList = escape set t.toList) : s = t := by
  refine Utf8.encode_inj ?_
  rw [← unescape_escape hpercent s, h, unescape_escape hpercent]

/-- A character that is not left as it is becomes percent signs, letters and decimal digits. -/
theorem mem_percentChar {c d : Char} (h : d ∈ percentChar c) : d = '%' ∨ d.isAlphanum = true := by
  obtain ⟨b, -, hb⟩ := List.mem_flatMap.1 h
  have hlt : b.toNat < 256 := b.toNat_lt
  simp only [percentByte, List.mem_cons, List.not_mem_nil, or_false] at hb
  rcases hb with rfl | rfl | rfl
  · exact .inl rfl
  · exact .inr (digit_isAlphanum (by omega))
  · exact .inr (digit_isAlphanum (by omega))

/-- A written text has no sign but percent signs and those of the text that are not in the set. -/
theorem mem_escape {d : Char} {cs : List Char} (h : d ∈ escape set cs) :
    d = '%' ∨ d.isAlphanum = true ∨ (set d = false ∧ d ∈ cs) := by
  obtain ⟨c, hc, hd⟩ := List.mem_flatMap.1 h
  split at hd
  · exact (mem_percentChar hd).imp_right .inl
  · next hset =>
    obtain rfl := List.mem_singleton.1 hd
    exact .inr (.inr ⟨Bool.eq_false_iff.2 hset, hc⟩)

theorem not_mem_escape {d : Char} (hd : d ≠ '%') (halnum : d.isAlphanum = false) {cs : List Char}
    (h : set d = true ∨ d ∉ cs) : d ∉ escape set cs := by
  intro hmem
  rcases mem_escape hmem with heq | hal | ⟨hset, hcs⟩
  · exact hd heq
  · rw [halnum] at hal
    cases hal
  · rcases h with h | h
    · rw [hset] at h
      cases h
    · exact h hcs

end AgentSandbox.Url

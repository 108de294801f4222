import AgentSandbox.Proofs.Text.Table
import AgentSandbox.Url.Host

/-!
# Names that are no addresses

The numbers of an address in front of the last one are bytes.  So a name of three parts or more is no
address if its first part is a greater number or none (`ofName_eq_domain`).
-/

namespace AgentSandbox.Url

variable {base m n : Nat} {cs ds : List Char}

/-- A digit of a number, behind those that spell `n`. -/
theorem le_of_foldlM_digits (hbase : 0 < base)
    (h : ds.foldlM (fun n c => (Json.hexValue? c).bind fun d =>
      if d < base then some (n * base + d) else none) m = some n) : m ≤ n := by
  induction ds generalizing m with
  | nil =>
    obtain rfl := Option.some.inj h
    exact Nat.le_refl _
  | cons c ds ih =>
    rw [List.foldlM_cons] at h
    obtain ⟨m', hm', h⟩ := Option.bind_eq_some_iff.1 h
    obtain ⟨d, -, hd⟩ := Option.bind_eq_some_iff.1 hm'
    split at hd
    · obtain rfl := Option.some.inj hd
      calc m ≤ m * base := Nat.le_mul_of_pos_right m hbase
        _ ≤ m * base + d := Nat.le_add_right _ _
        _ ≤ n := ih h
    · cases hd

/-- A number is not less than what its first digits spell. -/
theorem le_of_number? (hbase : 0 < base) (h : number? base (cs ++ ds) = some n) :
    ∃ m, number? base cs = some m ∧ m ≤ n := by
  rw [number?, List.foldlM_append] at h
  obtain ⟨m, hm, h⟩ := Option.bind_eq_some_iff.1 h
  exact ⟨m, hm, le_of_foldlM_digits hbase h⟩

/-- A part of a name that no byte is written as. -/
def IsNoByte (part : List Char) : Prop := ∀ n, addressNumber? part = some n → 255 < n

theorem addressNumber?_cons {c : Char} (hc : c ≠ '0') (cs : List Char) :
    addressNumber? (c :: cs) = number? 10 (c :: cs) := by
  unfold addressNumber?
  split
  · next h => cases h
  · next h => exact absurd (List.cons.inj h).1 hc
  · next h => exact absurd (List.cons.inj h).1 hc
  · next h => exact absurd (List.cons.inj h).1 hc
  · rfl

/-- A decimal number that is no byte is none with more digits behind it either. -/
theorem isNoByte_append {c : Char} (hc : c ≠ '0') (hcs : ∀ m, number? 10 (c :: cs) = some m → 255 < m)
    (ds : List Char) : IsNoByte (c :: cs ++ ds) := by
  intro n hn
  rw [List.cons_append, addressNumber?_cons hc, ← List.cons_append] at hn
  obtain ⟨m, hm, hle⟩ := le_of_number? (by decide) hn
  exact Nat.lt_of_lt_of_le (hcs m hm) hle

theorem joinAddress?_eq_none (hn : 255 < n) (ns : List Nat) (last : Nat) :
    joinAddress? (n :: ns) last = none := by
  refine if_neg fun h => ?_
  have hbyte : n ≤ 255 := of_decide_eq_true (List.all_eq_true.1 h.2.1 n List.mem_cons_self)
  omega

theorem ipv4?_eq_none {host part next : List Char} {parts : List (List Char)}
    (hparts : addressParts host = part :: next :: parts) (hpart : IsNoByte part) :
    ipv4? host = none := by
  rw [ipv4?, hparts, List.mapM_cons, List.mapM_cons]
  cases hn : addressNumber? part with
  | none => rfl
  | some n =>
    cases addressNumber? next with
    | none => rfl
    | some m =>
      cases parts.mapM addressNumber? with
      | none => rfl
      | some ns =>
        -- the first number stands in front of the last one, so it should be a byte
        show (n :: m :: ns).getLast?.bind (joinAddress? (n :: (m :: ns).dropLast)) = none
        rw [List.getLast?_cons_cons]
        cases (m :: ns).getLast? with
        | none => rfl
        | some last => exact joinAddress?_eq_none (hpart n hn) _ last

/-- A part that is empty at the end does not count, but of three parts two are left. -/
theorem exists_addressParts {host first : List Char} {parts : List (List Char)}
    (h : Text.cut (· = '.') host = first :: parts) (hparts : 2 ≤ parts.length) :
    ∃ next rest, addressParts host = first :: next :: rest := by
  obtain ⟨second, third, rest, rfl⟩ : ∃ second third rest, parts = second :: third :: rest := by
    rcases parts with _ | ⟨second, _ | ⟨third, rest⟩⟩
    · cases hparts
    · exact absurd hparts (Nat.lt_irrefl 1)
    · exact ⟨second, third, rest, rfl⟩
  rw [addressParts, h]
  split
  · exact ⟨second, _, rfl⟩
  · exact ⟨second, _, rfl⟩

theorem ofName_eq_domain {name first : List Char} {parts : List (List Char)}
    (h : Text.cut (· = '.') name = first :: parts) (hparts : 2 ≤ parts.length)
    (hfirst : IsNoByte first) {host : Host} (hhost : Host.ofName name = .ok host) :
    host = .domain name := by
  obtain ⟨next, rest, haddress⟩ := exists_addressParts h hparts
  unfold Host.ofName at hhost
  rw [ipv4?_eq_none haddress hfirst] at hhost
  split at hhost
  · cases hhost
  split at hhost
  · cases hhost
  · cases hhost
    rfl

end AgentSandbox.Url

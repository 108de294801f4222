import AgentSandbox.Json.Document
import AgentSandbox.Json.Numeral

/-!
# Reading JSON

`Document.read?` reads a whole text by the grammar of RFC 8259: no trailing comma, no comment, no
raw control character in a string, nothing but blanks after the value.  A container inside 127
others is a hole, and so is whatever the grammar admits but no value can hold.  `Value.read?` is
the meaning of the text that was read.

`Document.scan?` reads a text in which bytes that are no character have been marked: they may stand
in a string, which is then a hole.
-/

namespace AgentSandbox.Json

/-- The text without the blanks of the grammar at its front. -/
def skipSpace (cs : List Char) : List Char :=
  cs.dropWhile fun c => c = ' ' || c = '\t' || c = '\n' || c = '\r'

/-- The value of a hexadecimal digit. -/
def hexValue? (c : Char) : Option Nat :=
  if '0' ≤ c ∧ c ≤ '9' then some (c.toNat - '0'.toNat)
  else if 'a' ≤ c ∧ c ≤ 'f' then some (c.toNat - 'a'.toNat + 10)
  else if 'A' ≤ c ∧ c ≤ 'F' then some (c.toNat - 'A'.toNat + 10)
  else none

/-- The number that the four hexadecimal digits at the front of a text spell, and what follows. -/
def unit? : List Char → Option (Nat × List Char)
  | a :: b :: c :: d :: cs => do
    let a ← hexValue? a
    let b ← hexValue? b
    let c ← hexValue? c
    let d ← hexValue? d
    some (((a * 16 + b) * 16 + c) * 16 + d, cs)
  | _ => none

/-- The second half of a surrogate pair, if the text begins with its escape, and what follows. -/
def lowSurrogate? : List Char → Option (Nat × List Char)
  | '\\' :: 'u' :: cs =>
    match unit? cs with
    | some (n, rest) => if 0xDC00 ≤ n ∧ n ≤ 0xDFFF then some (n, rest) else none
    | none => none
  | _ => none

/-- The character of an escape, the text starting behind its backslash, and what follows; the
character is `none` for a surrogate that has no partner. -/
def escape? : List Char → Option (Option Char × List Char)
  | [] => none
  | c :: cs =>
    match c with
    | '"' => some (some '"', cs)
    | '\\' => some (some '\\', cs)
    | '/' => some (some '/', cs)
    | 'b' => some (some '\x08', cs)
    | 'f' => some (some '\x0c', cs)
    | 'n' => some (some '\n', cs)
    | 'r' => some (some '\r', cs)
    | 't' => some (some '\t', cs)
    | 'u' =>
      match unit? cs with
      | none => none
      | some (n, cs) =>
        if n < 0xD800 ∨ 0xDFFF < n then some (some (Char.ofNat n), cs)
        else if 0xDC00 ≤ n then some (none, cs)
        else
          match lowSurrogate? cs with
          | some (low, cs) =>
            some (some (Char.ofNat (0x10000 + (n - 0xD800) * 0x400 + (low - 0xDC00))), cs)
          | none => some (none, cs)
    | _ => none

theorem length_lt_of_unit? {cs rest : List Char} {n : Nat} (h : unit? cs = some (n, rest)) :
    rest.length < cs.length := by
  unfold unit? at h
  split at h
  · simp only [Option.bind_eq_bind, Option.bind_eq_some_iff, Option.some.injEq, Prod.mk.injEq] at h
    obtain ⟨_, _, _, _, _, _, _, _, _, rfl⟩ := h
    simp only [List.length_cons]
    omega
  · exact absurd h (by simp)

theorem length_lt_of_lowSurrogate? {cs rest : List Char} {n : Nat}
    (h : lowSurrogate? cs = some (n, rest)) : rest.length < cs.length := by
  unfold lowSurrogate? at h
  split at h
  · split at h
    · next hu =>
      split at h
      · simp only [Option.some.injEq, Prod.mk.injEq] at h
        obtain ⟨-, rfl⟩ := h
        have := length_lt_of_unit? hu
        simp only [List.length_cons]
        omega
      · exact absurd h (by simp)
    · exact absurd h (by simp)
  · exact absurd h (by simp)

theorem length_lt_of_escape? {cs rest : List Char} {c : Option Char}
    (h : escape? cs = some (c, rest)) : rest.length < cs.length := by
  unfold escape? at h
  split at h
  · exact absurd h (by simp)
  · split at h
    all_goals try
      simp only [Option.some.injEq, Prod.mk.injEq] at h
      obtain ⟨-, rfl⟩ := h
      exact Nat.lt_succ_self _
    · split at h
      · exact absurd h (by simp)
      · next hu =>
        have hu := length_lt_of_unit? hu
        split at h
        · simp only [Option.some.injEq, Prod.mk.injEq] at h
          obtain ⟨-, rfl⟩ := h
          simp only [List.length_cons]; omega
        · split at h
          · simp only [Option.some.injEq, Prod.mk.injEq] at h
            obtain ⟨-, rfl⟩ := h
            simp only [List.length_cons]; omega
          · split at h
            · next hl =>
              have hl := length_lt_of_lowSurrogate? hl
              simp only [Option.some.injEq, Prod.mk.injEq] at h
              obtain ⟨-, rfl⟩ := h
              simp only [List.length_cons]; omega
            · simp only [Option.some.injEq, Prod.mk.injEq] at h
              obtain ⟨-, rfl⟩ := h
              simp only [List.length_cons]; omega
    · exact absurd h (by simp)

/-- The mark for bytes that are no character: the text of a document does not hold this sign itself,
neither in a string nor elsewhere. -/
def illFormed : Char := '\x00'

/-- The characters of a string, the text starting behind its opening quote, and what follows its
closing quote; a `none` is a surrogate without a partner, or it stands for bytes that are no
character. -/
def characters? : List Char → Option (List (Option Char) × List Char)
  | [] => none
  | c :: cs =>
    if c = '"' then some ([], cs)
    else if c = '\\' then
      match h : escape? cs with
      | none => none
      | some (x, rest) =>
        have := length_lt_of_escape? h
        (characters? rest).map fun (xs, rest) => (x :: xs, rest)
    else if c = illFormed then (characters? cs).map fun (xs, rest) => (none :: xs, rest)
    else if c.toNat < 0x20 then none
    else (characters? cs).map fun (xs, rest) => (some c :: xs, rest)
termination_by cs => cs.length

/-- The string, behind its opening quote, and what follows; `none` inside for one that is no
text. -/
def string? (cs : List Char) : Option (Option String × List Char) :=
  (characters? cs).map fun (xs, rest) => ((xs.mapM id).map String.ofList, rest)

/-- The literal or number at the front of a text, and what follows. -/
def scalar? : List Char → Option (Document × List Char)
  | 'n' :: 'u' :: 'l' :: 'l' :: cs => some (.null, cs)
  | 't' :: 'r' :: 'u' :: 'e' :: cs => some (.bool true, cs)
  | 'f' :: 'a' :: 'l' :: 's' :: 'e' :: cs => some (.bool false, cs)
  | cs => (Numeral.read? cs).map fun (x, rest) => ((x.number?.map .number).getD .hole, rest)

/-- The container, or a hole where no further nesting is allowed. -/
def nested (room : Nat) (d : Document) : Document :=
  if room = 0 then .hole else d

mutual

/-- The value at the front of a text, and what follows; containers may nest `room` deep, and `fuel`
bounds the calls. -/
def value? : Nat → Nat → List Char → Option (Document × List Char)
  | 0, _, _ => none
  | fuel + 1, room, cs =>
    match skipSpace cs with
    | '"' :: cs => (string? cs).map fun (s, rest) => ((s.map .text).getD .hole, rest)
    | '[' :: cs =>
      match skipSpace cs with
      | ']' :: cs => some (nested room (.list []), cs)
      | cs => (items? fuel (room - 1) cs).map fun (ds, rest) => (nested room (.list ds), rest)
    | '{' :: cs =>
      match skipSpace cs with
      | '}' :: cs => some (nested room (.record []), cs)
      | cs => (members? fuel (room - 1) cs).map fun (ms, rest) => (nested room (.record ms), rest)
    | cs => scalar? cs

/-- The items of a list up to its closing bracket, at least one, and what follows. -/
def items? : Nat → Nat → List Char → Option (List Document × List Char)
  | 0, _, _ => none
  | fuel + 1, room, cs =>
    match value? fuel room cs with
    | none => none
    | some (d, cs) =>
      match skipSpace cs with
      | ',' :: cs => (items? fuel room cs).map fun (ds, rest) => (d :: ds, rest)
      | ']' :: cs => some ([d], cs)
      | _ => none

/-- The members of a record up to its closing brace, at least one, and what follows. -/
def members? : Nat → Nat → List Char → Option (List (Option String × Document) × List Char)
  | 0, _, _ => none
  | fuel + 1, room, cs =>
    match skipSpace cs with
    | '"' :: cs =>
      match string? cs with
      | none => none
      | some (name, cs) =>
        match skipSpace cs with
        | ':' :: cs =>
          match value? fuel room cs with
          | none => none
          | some (d, cs) =>
            match skipSpace cs with
            | ',' :: cs => (members? fuel room cs).map fun (ms, rest) => ((name, d) :: ms, rest)
            | '}' :: cs => some ([(name, d)], cs)
            | _ => none
        | _ => none
    | _ => none

end

/-- The number of containers that may be nested in each other. -/
def maxNesting : Nat := 127

/-- The document that a text spells in which bytes that are no character are marked. -/
def Document.scan? (cs : List Char) : Option Document :=
  match Json.value? (2 * cs.length + 2) maxNesting cs with
  | some (d, rest) => if (skipSpace rest).isEmpty then some d else none
  | none => none

/-- The document that a text spells. -/
def Document.read? (cs : List Char) : Option Document :=
  if illFormed ∈ cs then none else scan? cs

/-- The value that a text means. -/
def Value.read? (cs : List Char) : Option Value :=
  (Document.read? cs).bind Document.value?

end AgentSandbox.Json

import AgentSandbox.Proofs.Execution.Lines
import Mathlib.Data.List.Basic
import Mathlib.Logic.Function.Iterate

/-!
# Every byte of a line buffer is accounted for

An `Account` is a buffer together with all bytes that were pushed and all lines that were given out.
It balances (`Account.IsBalanced`): the lines, each with its newline, and the bytes still buffered
are the bytes pushed.  The search for the next line starts behind bytes that hold no newline
(`LineBuffer.IsSearched`), which is what makes it find the first one (`IsSearched.next?_cases`);
both are kept by every use of the buffer (`IsBalanced.use`), and so hold after any uses
(`account_balances`).
-/

namespace AgentSandbox.Execution

namespace LineBuffer

/-! ## The search for a line -/

/-- The bytes that were searched are bytes of the buffer and hold no newline. -/
structure IsSearched (b : LineBuffer) : Prop where
  scanned_le : b.scanned ≤ b.bytes.length
  notMem_take : newline ∉ b.bytes.take b.scanned

theorem isSearched_zero (bytes : List UInt8) : IsSearched ⟨bytes, 0⟩ :=
  ⟨Nat.zero_le _, List.not_mem_nil⟩

variable {b : LineBuffer}

/-- The newline that is found is a byte of the buffer. -/
theorem found_lt {offset : Nat}
    (ho : (b.bytes.drop b.scanned).findIdx? (· == newline) = some offset) :
    b.scanned + offset < b.bytes.length := by
  obtain ⟨hlt, -⟩ := List.findIdx?_eq_some_iff_getElem.1 ho
  rw [List.length_drop] at hlt
  omega

namespace IsSearched

theorem push (h : b.IsSearched) (piece : List UInt8) : (b.push piece).IsSearched where
  scanned_le := by
    rw [LineBuffer.push, List.length_append]
    exact Nat.le_add_right_of_le h.scanned_le
  notMem_take := by
    rw [LineBuffer.push, List.take_append_of_le_length h.scanned_le]
    exact h.notMem_take

/-- Either there is no newline, and all bytes are searched; or the bytes up to the first one are
given out, and those behind it are left. -/
theorem next?_cases (h : b.IsSearched) :
    (newline ∉ b.bytes ∧ b.next? = (none, ⟨b.bytes, b.bytes.length⟩)) ∨
    ∃ line bytes, newline ∉ line ∧ b.bytes = line ++ newline :: bytes ∧
      b.next? = (some line, ⟨bytes, 0⟩) := by
  obtain ⟨bytes, scanned⟩ := b
  obtain ⟨_, _, hc⟩ := exists_isCut bytes
  cases hc with
  | rest hn => exact .inl ⟨hn, next?_of_notMem hn⟩
  | @line line bytes _ _ hl _ =>
    exact .inr ⟨line, bytes, hl, rfl, next?_line hl (le_length_of_notMem_take h.notMem_take) bytes⟩

theorem next? (h : b.IsSearched) : b.next?.2.IsSearched := by
  obtain ⟨hn, heq⟩ | ⟨line, bytes, -, -, heq⟩ := h.next?_cases
  · rw [heq]
    exact ⟨Nat.le_refl _, by rwa [List.take_length]⟩
  · rw [heq]
    exact isSearched_zero bytes

theorem next?_eq_none_iff (h : b.IsSearched) : b.next?.1 = none ↔ newline ∉ b.bytes := by
  obtain ⟨hn, heq⟩ | ⟨line, bytes, -, hb, heq⟩ := h.next?_cases
  · rw [heq]
    exact iff_of_true rfl hn
  · rw [heq, hb]
    exact iff_of_false (Option.some_ne_none line) (not_not_intro (by simp))

/-! ## Draining -/

theorem count_next? (h : b.IsSearched) :
    b.next?.2.bytes.count newline = b.bytes.count newline - 1 := by
  obtain ⟨hn, heq⟩ | ⟨line, bytes, hl, hb, heq⟩ := h.next?_cases
  · rw [heq, List.count_eq_zero_of_not_mem hn]
  · rw [heq, hb, List.count_append, List.count_eq_zero_of_not_mem hl, List.count_cons_self,
      Nat.zero_add, Nat.add_sub_cancel]

/-- Lines come out as often as there are newlines, and then no more. -/
theorem isSome_iterate_next? (h : b.IsSearched) (n : Nat) :
    ((fun b => b.next?.2)^[n] b).next?.1.isSome ↔ n < b.bytes.count newline := by
  induction n generalizing b with
  | zero =>
    rw [Function.iterate_zero_apply, List.count_pos_iff, Option.isSome_iff_ne_none, Ne,
      h.next?_eq_none_iff, not_not]
  | succ n ih =>
    rw [Function.iterate_succ_apply, ih h.next?, h.count_next?]
    omega

/-- Draining is giving out a line for every newline. -/
theorem length_drain (h : b.IsSearched) : b.drain.1.length = b.bytes.count newline := by
  obtain ⟨ended, rest, hc⟩ := exists_isCut b.bytes
  rw [show b = ⟨b.bytes, b.scanned⟩ from rfl, drain_eq hc h.notMem_take, hc.count_newline]

end IsSearched

/-! ## Accounts -/

/-- Something that a buffer is used for: to take a piece, or to give the next line. -/
inductive Use where
  | push (piece : List UInt8)
  | next

/-- A buffer, all bytes that were pushed into it, and all lines that it gave. -/
structure Account where
  buffer : LineBuffer
  pushed : List UInt8
  given : List (List UInt8)

namespace Account

/-- The empty buffer before any use. -/
def start : Account := ⟨.empty, [], []⟩

/-- The account after a use of its buffer. -/
def use (a : Account) : Use → Account
  | .push piece => ⟨a.buffer.push piece, a.pushed ++ piece, a.given⟩
  | .next => ⟨a.buffer.next?.2, a.pushed, a.given ++ a.buffer.next?.1.toList⟩

/-- The lines that were given, each with its newline, and the bytes that are left are the bytes that
were pushed; and the next line is searched for where it can be. -/
structure IsBalanced (a : Account) : Prop where
  searched : a.buffer.IsSearched
  notMem_given : ∀ line ∈ a.given, newline ∉ line
  pushed_eq : a.pushed = a.given.flatMap (· ++ [newline]) ++ a.buffer.bytes

theorem isBalanced_start : start.IsBalanced :=
  ⟨isSearched_zero [], fun _ h => absurd h List.not_mem_nil, rfl⟩

namespace IsBalanced

variable {a : Account}

theorem push (h : a.IsBalanced) (piece : List UInt8) : (a.use (.push piece)).IsBalanced where
  searched := h.searched.push piece
  notMem_given := h.notMem_given
  pushed_eq := by rw [use, LineBuffer.push, h.pushed_eq, List.append_assoc]

theorem next (h : a.IsBalanced) : (a.use .next).IsBalanced where
  searched := h.searched.next?
  notMem_given := by
    intro line hmem
    obtain hgiven | hnew := List.mem_append.1 hmem
    · exact h.notMem_given line hgiven
    · obtain ⟨-, heq⟩ | ⟨line', bytes, hl, -, heq⟩ := h.searched.next?_cases
      · rw [heq] at hnew
        exact absurd hnew List.not_mem_nil
      · rw [heq] at hnew
        rwa [List.mem_singleton.1 hnew]
  pushed_eq := by
    rw [use]
    obtain ⟨-, heq⟩ | ⟨line, bytes, -, hb, heq⟩ := h.searched.next?_cases
    · rw [heq, h.pushed_eq, Option.toList_none, List.append_nil]
    · rw [heq, h.pushed_eq, hb]
      simp

theorem use (h : a.IsBalanced) : ∀ u, (a.use u).IsBalanced
  | .push piece => h.push piece
  | .next => h.next

theorem foldl_use (h : a.IsBalanced) (uses : List Use) : (uses.foldl Account.use a).IsBalanced := by
  induction uses generalizing a with
  | nil => exact h
  | cons u uses ih => exact ih (h.use u)

end IsBalanced

end Account

/-- After any uses, the account of a buffer that was empty balances.  The newline that a search
finds is a byte of the buffer; no line is given out just when no newline is buffered; to ask for
lines again and again gives as many as there are newlines buffered, and then no more; and what is
left at the end are the bytes still buffered, if there are any. -/
theorem account_balances (uses : List Use) :
    let a := uses.foldl Account.use .start
    let b := a.buffer
    a.IsBalanced ∧
      (∀ offset, (b.bytes.drop b.scanned).findIdx? (· == newline) = some offset →
        b.scanned + offset < b.bytes.length) ∧
      (b.next?.1 = none ↔ newline ∉ b.bytes) ∧
      (∀ n, ((fun b => b.next?.2)^[n] b).next?.1.isSome ↔ n < b.bytes.count newline) ∧
      b.drain.1.length = b.bytes.count newline ∧
      b.rest? = if b.bytes = [] then none else some b.bytes := by
  intro a b
  have h : a.IsBalanced := Account.isBalanced_start.foldl_use uses
  refine ⟨h, fun offset => found_lt, h.searched.next?_eq_none_iff, h.searched.isSome_iterate_next?,
    h.searched.length_drain, ?_⟩
  simp only [rest?, List.isEmpty_iff]

/-- A newline that is the first byte of a piece, where the bytes before it were searched already. -/
theorem account_balances_at_piece_boundary :
    let a := [Use.push [97], .next, .push [newline, 98]].foldl Account.use .start
    a.buffer = ⟨[97, newline, 98], 1⟩ ∧ a.IsBalanced ∧
      a.buffer.scanned + 0 < a.buffer.bytes.length ∧
      a.buffer.next? = (some [97], ⟨[98], 0⟩) := by
  intro a
  obtain ⟨hbalanced, hfound, -⟩ :=
    account_balances [Use.push [97], .next, .push [newline, 98]]
  exact ⟨by decide, hbalanced, hfound 0 (by decide), by decide⟩

end LineBuffer

end AgentSandbox.Execution

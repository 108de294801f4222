import AgentSandbox.Execution.Lines

/-!
# Lines, however the bytes arrive

`IsCut bytes ended rest` says what the lines of some bytes are, without cutting anything: the
contents of the lines that a newline ends, and the bytes behind the last newline.  All bytes have
such a cut (`exists_isCut`), and a cut goes on where more bytes arrive (`IsCut.append`).  `lines`,
`endedLines` and `LineBuffer.drain` are then described by the cut of their bytes.
-/

namespace AgentSandbox.Execution

/-- The bytes are the lines `ended`, each with a newline behind it, and then `rest`. -/
inductive IsCut : List UInt8 → List (List UInt8) → List UInt8 → Prop
  | rest {bytes : List UInt8} (h : newline ∉ bytes) : IsCut bytes [] bytes
  | line {line bytes rest : List UInt8} {ended : List (List UInt8)} (h : newline ∉ line)
      (hc : IsCut bytes ended rest) : IsCut (line ++ newline :: bytes) (line :: ended) rest

theorem exists_isCut (bytes : List UInt8) : ∃ ended rest, IsCut bytes ended rest := by
  induction bytes with
  | nil => exact ⟨[], [], .rest List.not_mem_nil⟩
  | cons b bytes ih =>
    obtain ⟨ended, rest, hc⟩ := ih
    by_cases hb : b = newline
    · subst hb
      exact ⟨[] :: ended, rest, .line List.not_mem_nil hc⟩
    · cases hc with
      | rest h => exact ⟨[], _, .rest (List.not_mem_cons_of_ne_of_not_mem (Ne.symm hb) h)⟩
      | line h hc => exact ⟨_, _, .line (List.not_mem_cons_of_ne_of_not_mem (Ne.symm hb) h) hc⟩

/-- More bytes complete the open line and bring lines of their own. -/
theorem IsCut.append {a b rest rest' : List UInt8} {ended ended' : List (List UInt8)}
    (h : IsCut a ended rest) (h' : IsCut (rest ++ b) ended' rest') :
    IsCut (a ++ b) (ended ++ ended') rest' := by
  induction h with
  | rest _ => exact h'
  | line hl _ ih =>
    rw [List.append_assoc, List.cons_append, List.cons_append]
    exact .line hl (ih h')

/-! ## Cutting at once -/

theorem cutLine_of_notMem {bytes : List UInt8} (h : newline ∉ bytes) :
    cutLine bytes = (bytes, []) := by
  induction bytes with
  | nil => rfl
  | cons b bytes ih =>
    obtain ⟨hb, hbs⟩ := List.ne_and_not_mem_of_not_mem_cons h
    rw [cutLine, if_neg (Ne.symm hb), ih hbs]

theorem cutLine_line {line : List UInt8} (h : newline ∉ line) (bytes : List UInt8) :
    cutLine (line ++ newline :: bytes) = (line ++ [newline], bytes) := by
  induction line with
  | nil => rw [List.nil_append, cutLine, if_pos rfl, List.nil_append]
  | cons b line ih =>
    obtain ⟨hb, hl⟩ := List.ne_and_not_mem_of_not_mem_cons h
    rw [List.cons_append, cutLine, if_neg (Ne.symm hb), ih hl, List.cons_append]

theorem lines_of_ne_nil {bytes : List UInt8} (h : bytes ≠ []) :
    lines bytes = (cutLine bytes).1 :: lines (cutLine bytes).2 := by
  cases bytes with
  | nil => exact absurd rfl h
  | cons b bytes => rw [lines]

theorem lines_line {line : List UInt8} (h : newline ∉ line) (bytes : List UInt8) :
    lines (line ++ newline :: bytes) = (line ++ [newline]) :: lines bytes := by
  rw [lines_of_ne_nil (by simp), cutLine_line h]

theorem lines_of_notMem {bytes : List UInt8} (h : newline ∉ bytes) :
    lines bytes = if bytes = [] then [] else [bytes] := by
  split
  · next hnil => rw [hnil, lines]
  · next hne => rw [lines_of_ne_nil hne, cutLine_of_notMem h, lines]

/-- The lines of some bytes are the ended ones and the rest, if there is one. -/
theorem IsCut.lines_eq {bytes rest : List UInt8} {ended : List (List UInt8)}
    (h : IsCut bytes ended rest) :
    lines bytes = ended.map (· ++ [newline]) ++ if rest = [] then [] else [rest] := by
  induction h with
  | rest h => exact lines_of_notMem h
  | line hl _ ih => rw [lines_line hl, ih, List.map_cons, List.cons_append]

theorem IsCut.newline_notMem_rest {bytes rest : List UInt8} {ended : List (List UInt8)}
    (h : IsCut bytes ended rest) : newline ∉ rest := by
  induction h with
  | rest h => exact h
  | line _ _ ih => exact ih

theorem IsCut.count_newline {bytes rest : List UInt8} {ended : List (List UInt8)}
    (h : IsCut bytes ended rest) : bytes.count newline = ended.length := by
  induction h with
  | rest h => exact List.count_eq_zero_of_not_mem h
  | line hl _ ih =>
    rw [List.count_append, List.count_eq_zero_of_not_mem hl, List.count_cons_self, ih,
      List.length_cons, Nat.zero_add]

theorem IsCut.endedLines_eq {bytes rest : List UInt8} {ended : List (List UInt8)}
    (h : IsCut bytes ended rest) : endedLines bytes = ended.map (· ++ [newline]) := by
  have hmap : (ended.map (· ++ [newline])).filter (fun l => l.getLast? == some newline) =
      ended.map (· ++ [newline]) := by
    refine List.filter_eq_self.2 fun l hl => ?_
    obtain ⟨line, -, rfl⟩ := List.mem_map.1 hl
    simp
  have hrest : (if rest = [] then [] else [rest]).filter (fun l => l.getLast? == some newline) =
      [] := by
    split
    · rfl
    · refine List.filter_eq_nil_iff.2 fun l hl heq => h.newline_notMem_rest ?_
      rw [List.mem_singleton.1 hl] at heq
      exact List.mem_of_getLast? (eq_of_beq heq)
  rw [endedLines, h.lines_eq, List.filter_append, hmap, hrest, List.append_nil]

/-! ## Cutting what arrives -/

namespace LineBuffer

theorem findIdx?_newline_eq_none {bytes : List UInt8} (h : newline ∉ bytes) :
    bytes.findIdx? (· == newline) = none := by
  refine List.findIdx?_eq_none_iff.2 fun x hx => beq_eq_false_iff_ne.2 ?_
  rintro rfl
  exact h hx

theorem next?_of_notMem {b : LineBuffer} (h : newline ∉ b.bytes) :
    b.next? = (none, ⟨b.bytes, b.bytes.length⟩) := by
  rw [next?, findIdx?_newline_eq_none fun hd => h (List.mem_of_mem_drop hd)]

theorem next?_line {line : List UInt8} {scanned : Nat} (h : newline ∉ line)
    (hs : scanned ≤ line.length) (bytes : List UInt8) :
    next? ⟨line ++ newline :: bytes, scanned⟩ = (some line, ⟨bytes, 0⟩) := by
  have hn : (line.drop scanned).findIdx? (· == newline) = none :=
    findIdx?_newline_eq_none fun hd => h (List.mem_of_mem_drop hd)
  have hi : ((line ++ newline :: bytes).drop scanned).findIdx? (· == newline) =
      some (line.length - scanned) := by
    rw [List.drop_append_of_le_length hs, List.findIdx?_append, hn, List.findIdx?_cons,
      if_pos (beq_self_eq_true _)]
    simp
  have hl : scanned + (line.length - scanned) = line.length := by omega
  have hd : (line ++ newline :: bytes).drop (line.length + 1) = bytes := by
    rw [List.append_cons]
    exact List.drop_left' (by simp)
  simp only [next?, hi, hl, hd, List.take_left]

/-- A search that met no newline has not gone past the first line. -/
theorem le_length_of_notMem_take {line bytes : List UInt8} {scanned : Nat}
    (hs : newline ∉ (line ++ newline :: bytes).take scanned) : scanned ≤ line.length := by
  refine Nat.le_of_not_lt fun hlt => hs ?_
  rw [List.take_append, show scanned - line.length = scanned - line.length - 1 + 1 by omega]
  exact List.mem_append_right _ List.mem_cons_self

theorem drain_of_none {b : LineBuffer} (h : b.next?.1 = none) : b.drain = ([], b.next?.2) := by
  rw [drain]
  split
  · rfl
  · next line h' => rw [h] at h'; cases h'

theorem drain_of_some {b : LineBuffer} {line : List UInt8} (h : b.next?.1 = some line) :
    b.drain = (line :: b.next?.2.drain.1, b.next?.2.drain.2) := by
  rw [drain]
  split
  · next h' => rw [h] at h'; cases h'
  · next line' h' =>
    rw [h] at h'
    obtain rfl := Option.some.inj h'
    rfl

/-- A buffer that has searched no further than its first line gives out all its lines. -/
theorem drain_eq {bytes rest : List UInt8} {ended : List (List UInt8)} (h : IsCut bytes ended rest)
    {scanned : Nat} (hs : newline ∉ bytes.take scanned) :
    drain ⟨bytes, scanned⟩ = (ended, ⟨rest, rest.length⟩) := by
  induction h generalizing scanned with
  | rest h => rw [drain_of_none (by rw [next?_of_notMem h]), next?_of_notMem h]
  | @line line bytes rest ended hl _ ih =>
    have hnext := next?_line hl (le_length_of_notMem_take hs) bytes
    rw [drain_of_some (by rw [hnext]), hnext, ih List.not_mem_nil]

end LineBuffer

end AgentSandbox.Execution

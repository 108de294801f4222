import AgentSandbox.Proofs.Execution.RoundTrip

/-!
# Lines do not depend on each other

A reader of two parts with a newline between them makes the progress of the first part followed by
that of the second (`decodeReads_append_newline`): no line changes how another one is decoded, and
the only thing that a later line takes back is the fault of an earlier one.  Hence a line that
reports nothing can stand in front of any line, and a fault stops nothing (`line_isolation`).
-/

namespace AgentSandbox.Execution

/-- A line can start behind these bytes: there are none, or the last one is a newline. -/
def IsLineStart (bytes : List UInt8) : Prop :=
  bytes = [] ∨ ∃ b, bytes = b ++ [newline]

/-! ## One part followed by another -/

namespace Progress

theorem append_empty (p : Progress) : p.append empty = p := by
  rw [append, empty, Output.append_empty, List.append_nil]

theorem empty_append (p : Progress) : empty.append p = p := by
  obtain ⟨⟨stdout, stderr, results, fault⟩, notices⟩ := p
  simp [append, empty, Output.append, Output.empty]

/-- The progress that some events make does not depend on the progress before. -/
theorem foldl_record_append (l : Listeners) (es es' : List Event) :
    (es ++ es').foldl (record l) empty =
      (es.foldl (record l) empty).append (es'.foldl (record l) empty) := by
  rw [foldl_record, foldl_record, foldl_record, List.foldl_append, Output.foldl_record,
    List.filterMap_append]
  rfl

end Progress

theorem events_append_newline (b₁ b₂ : List UInt8) :
    events [.bytes (b₁ ++ newline :: b₂)] = events [.bytes b₁] ++ events [.bytes b₂] := by
  obtain ⟨ended₁, rest₁, h₁⟩ := exists_isCut b₁
  obtain ⟨ended₂, rest₂, h₂⟩ := exists_isCut b₂
  have hcut : IsCut (b₁ ++ newline :: b₂) (ended₁ ++ rest₁ :: ended₂) rest₂ :=
    h₁.append (.line h₁.newline_notMem_rest h₂)
  rw [events_bytes hcut, events_bytes h₁, events_bytes h₂, ← List.filterMap_append]
  simp only [List.append_assoc, List.cons_append, List.nil_append]

theorem decodeReads_append_newline (l : Listeners) (b₁ b₂ : List UInt8) :
    decodeReads l [.bytes (b₁ ++ newline :: b₂)] =
      (decodeReads l [.bytes b₁]).append (decodeReads l [.bytes b₂]) := by
  rw [decodeReads, events_append_newline, Progress.foldl_record_append]
  rfl

/-! ## One line -/

theorem decodeReads_line (l : Listeners) {line : List UInt8} (h : newline ∉ line) :
    decodeReads l [.bytes line] = Progress.line l .empty line :=
  decodeReads_bytes (.rest h) l

theorem decodeReads_nil (l : Listeners) : decodeReads l [.bytes []] = .empty := by
  rw [decodeReads_line l List.not_mem_nil, Progress.line, Event.ofLine?_nil]

theorem IsLineStart.decodeReads_append {b₁ : List UInt8} (h : IsLineStart b₁) (l : Listeners)
    (b₂ : List UInt8) :
    decodeReads l [.bytes (b₁ ++ b₂)] =
      (decodeReads l [.bytes b₁]).append (decodeReads l [.bytes b₂]) := by
  obtain rfl | ⟨b, rfl⟩ := h
  · rw [List.nil_append, decodeReads_nil, Progress.empty_append]
  · rw [List.append_assoc, List.singleton_append, decodeReads_append_newline,
      decodeReads_append_newline, decodeReads_nil, Progress.append_empty]

/-- A line that is put where one can start makes its progress between that of the bytes before it
and that of the bytes behind it. -/
theorem IsLineStart.decodeReads_insert {b₁ : List UInt8} (h : IsLineStart b₁) (l : Listeners)
    {line : List UInt8} (hline : newline ∉ line) (b₂ : List UInt8) :
    decodeReads l [.bytes (b₁ ++ (line ++ newline :: b₂))] =
      (decodeReads l [.bytes b₁]).append
        ((Progress.line l .empty line).append (decodeReads l [.bytes b₂])) := by
  rw [h.decodeReads_append, decodeReads_append_newline, decodeReads_line l hline]

/-- A fault between two parts is the fault of the whole unless the second part has one. -/
theorem Progress.append_record_fault_append (l : Listeners) (p q : Progress) (f : Fault) :
    p.append ((record l .empty (.fault f)).append q) =
      ⟨{ (p.append q).output with fault := some (q.output.fault.getD f) },
        p.notices ++ q.notices⟩ := by
  obtain ⟨⟨stdout, stderr, results, fault⟩, notices⟩ := q
  cases fault <;>
    simp [append, record, empty, Output.append, Output.record, Output.empty, Event.notice?]

/-- Two parts with a newline between them are decoded as each of them alone.  A line that reports
nothing changes nothing, wherever it is put or taken away, also as the last line, with or without a
newline; a line that reports a fault changes nothing but the fault, and a later fault counts instead
of it. -/
theorem line_isolation (l : Listeners) :
    (∀ b₁ b₂, decodeReads l [.bytes (b₁ ++ newline :: b₂)] =
      (decodeReads l [.bytes b₁]).append (decodeReads l [.bytes b₂])) ∧
    (∀ line, newline ∉ line → Event.ofLine? line = none →
      (∀ b₁ b₂, IsLineStart b₁ → decodeReads l [.bytes (b₁ ++ (line ++ newline :: b₂))] =
        decodeReads l [.bytes (b₁ ++ b₂)]) ∧
      (∀ b₁, IsLineStart b₁ → decodeReads l [.bytes (b₁ ++ line)] = decodeReads l [.bytes b₁]) ∧
      ∀ b₁, decodeReads l [.bytes (b₁ ++ newline :: line)] = decodeReads l [.bytes b₁]) ∧
    ∀ line f, newline ∉ line → Event.ofLine? line = some (.fault f) →
      ∀ b₁ b₂, IsLineStart b₁ →
        let without := decodeReads l [.bytes (b₁ ++ b₂)]
        let fault := (decodeReads l [.bytes b₂]).output.fault.getD f
        decodeReads l [.bytes (b₁ ++ (line ++ newline :: b₂))] =
          ⟨{ without.output with fault := some fault }, without.notices⟩ := by
  refine ⟨decodeReads_append_newline l, fun line hline hnone => ?_, ?_⟩
  · have hempty : Progress.line l .empty line = .empty := by
      rw [Progress.line, hnone]
    refine ⟨fun b₁ b₂ h => ?_, fun b₁ h => ?_, fun b₁ => ?_⟩
    · rw [h.decodeReads_insert l hline, hempty, Progress.empty_append, h.decodeReads_append]
    · rw [h.decodeReads_append, decodeReads_line l hline, hempty, Progress.append_empty]
    · rw [decodeReads_append_newline, decodeReads_line l hline, hempty, Progress.append_empty]
  · intro line f hline hfault b₁ b₂ h without fault
    have hrecord : Progress.line l .empty line = Progress.record l .empty (.fault f) := by
      rw [Progress.line, hfault]
    have hwithout : without = (decodeReads l [.bytes b₁]).append (decodeReads l [.bytes b₂]) :=
      h.decodeReads_append l b₂
    rw [h.decodeReads_insert l hline, hrecord, Progress.append_record_fault_append, hwithout]
    rfl

/-- Lines that report nothing, for one reason each, and a line that reports a fault, all behind a
line that prints. -/
theorem line_isolation_behind_printing :
    let printing := Utf8.encode "\x7b\"type\":\"stdout\",\"text\":\"a\"\x7d\n"
    let faulty := Utf8.encode (Event.fault ⟨"E", "", ""⟩).form.toText
    let r := fun bytes => decodeReads ⟨true, true⟩ [.bytes bytes]
    (∀ s ∈ ["", " \t", "\x7b\"type\":\"stdout\",\"text\":\"a", "[1]", "\x7b\"type\":\"x\"\x7d",
        "\x7b\"type\":\"stdout\",\"text\":1\x7d"],
      r (printing ++ (Utf8.encode s ++ newline :: printing)) = r (printing ++ printing)) ∧
    r (printing ++ (faulty ++ newline :: printing)) =
      ⟨{ (r (printing ++ printing)).output with fault := some ⟨"E", "", ""⟩ },
        (r (printing ++ printing)).notices⟩ := by
  intro printing faulty r
  have hstart : IsLineStart printing :=
    .inr ⟨Utf8.encode "\x7b\"type\":\"stdout\",\"text\":\"a\"\x7d", by decide +kernel⟩
  have hnofault : (r printing).output.fault = none := by decide +kernel
  refine ⟨fun s hs => ?_, ?_⟩
  · have hrejected : ∀ s ∈ ["", " \t", "\x7b\"type\":\"stdout\",\"text\":\"a", "[1]",
        "\x7b\"type\":\"x\"\x7d", "\x7b\"type\":\"stdout\",\"text\":1\x7d"],
        newline ∉ Utf8.encode s ∧ Event.ofLine? (Utf8.encode s) = none := by decide +kernel
    obtain ⟨hline, hnone⟩ := hrejected s hs
    exact ((line_isolation _).2.1 _ hline hnone).1 _ _ hstart
  · have hfault : Event.ofLine? faulty = some (.fault ⟨"E", "", ""⟩) :=
      Event.ofLine?_encode_form trivial
    have h := (line_isolation ⟨true, true⟩).2.2 faulty _ (Event.newline_notMem_encode_form trivial)
      hfault printing printing hstart
    rw [show (decodeReads _ [.bytes printing]).output.fault = none from hnofault] at h
    exact h

end AgentSandbox.Execution

import Mathlib.Logic.Relation
import AgentSandbox.Proofs.Execution.Isolation

/-!
# Padding does not matter

A carriage return, a space or a tab at the start of a line or at its end, the end of all bytes
included, changes nothing of what a reader or a stream gives (`padded_bytes`).  A line is decoded
alike with blanks around it, whatever its own bytes are, and padding moves no newline: the lines of
the padded bytes are those of the bytes, but for blanks around one of them (`Pads.sameEvents`).
-/

namespace AgentSandbox.Execution

/-- The byte is a carriage return, a space or a tab. -/
def IsPadding (b : UInt8) : Prop := b = 13 ∨ b = 32 ∨ b = 9

theorem IsPadding.isBlankByte {b : UInt8} (h : IsPadding b) : Event.IsBlankByte b := by
  obtain rfl | rfl | rfl := h <;> exact ⟨by decide, by decide⟩

theorem newline_notMem_of_isPadding {padding : List UInt8} (h : ∀ b ∈ padding, IsPadding b) :
    newline ∉ padding := fun hmem => by
  simpa [IsPadding, newline] using h newline hmem

/-- A line can end in front of these bytes: there are none, or the first one is a newline. -/
def IsLineEnd (bytes : List UInt8) : Prop :=
  bytes = [] ∨ ∃ b, bytes = newline :: b

/-- The second bytes are the first ones with padding put where a line starts or ends. -/
inductive Pads : List UInt8 → List UInt8 → Prop
  | insert {before padding behind : List UInt8} (hplace : IsLineStart before ∨ IsLineEnd behind)
      (h : ∀ b ∈ padding, IsPadding b) : Pads (before ++ behind) (before ++ (padding ++ behind))

/-! ## Lines and padding -/

/-- No line is open behind bytes where a line can start. -/
theorem IsLineStart.exists_isCut {bytes : List UInt8} (h : IsLineStart bytes) :
    ∃ ended, IsCut bytes ended [] := by
  obtain rfl | ⟨b, rfl⟩ := h
  · exact ⟨[], .rest List.not_mem_nil⟩
  · obtain ⟨ended, rest, hc⟩ := AgentSandbox.Execution.exists_isCut b
    exact ⟨_, hc.append (.line hc.newline_notMem_rest (.rest List.not_mem_nil))⟩

/-- Where a line can end, nothing stands in front of the newline that ends it. -/
theorem IsLineEnd.eq_nil {line bytes : List UInt8} (h : newline ∉ line)
    (hend : IsLineEnd (line ++ newline :: bytes)) : line = [] := by
  cases line with
  | nil => rfl
  | cons b line =>
    obtain hnil | ⟨_, heq⟩ := hend
    · exact absurd hnil (List.cons_ne_nil _ _)
    · exact absurd (List.cons.inj heq).1.symm (List.ne_and_not_mem_of_not_mem_cons h).1

/-- What the open line becomes when `line` comes behind it is decoded alike with padding between the
two, if one of them has no bytes. -/
theorem ofLine?_padded {rest padding line : List UInt8} (hempty : rest = [] ∨ line = [])
    (h : ∀ b ∈ padding, IsPadding b) :
    Event.ofLine? (rest ++ (padding ++ line)) = Event.ofLine? (rest ++ line) := by
  have hblank : ∀ b ∈ padding, Event.IsBlankByte b := fun b hb => (h b hb).isBlankByte
  obtain rfl | rfl := hempty
  · exact Event.ofLine?_append_left hblank line
  · rw [List.append_nil, List.append_nil]
    exact Event.ofLine?_append_right hblank rest

/-! ## The same events -/

/-- Two readers of the bytes report the same events, be it that they end or that they fail. -/
structure SameEvents (a b : List UInt8) : Prop where
  lines : (lines a).filterMap Event.ofLine? = (lines b).filterMap Event.ofLine?
  endedLines : (endedLines a).filterMap Event.ofLine? = (endedLines b).filterMap Event.ofLine?

theorem IsCut.sameEvents {a b rest rest' : List UInt8} {ended ended' : List (List UInt8)}
    (ha : IsCut a ended rest) (hb : IsCut b ended' rest')
    (hended : ended.filterMap Event.ofLine? = ended'.filterMap Event.ofLine?)
    (hrest : Event.ofLine? rest = Event.ofLine? rest') : SameEvents a b where
  lines := by
    rw [filterMap_ofLine?_lines ha, filterMap_ofLine?_lines hb, List.filterMap_append,
      List.filterMap_append, hended, List.filterMap_cons, List.filterMap_cons, hrest]
  endedLines := by
    rw [ha.endedLines_eq, hb.endedLines_eq, filterMap_ofLine?_map_append_newline,
      filterMap_ofLine?_map_append_newline, hended]

/-- The line that is open behind some bytes goes on with `line`; it may be replaced by one that is
decoded alike. -/
theorem IsCut.sameEvents_append {before rest line line' : List UInt8} {ended : List (List UInt8)}
    (h : IsCut before ended rest) (hl : newline ∉ line) (hl' : newline ∉ line')
    (heq : Event.ofLine? (rest ++ line) = Event.ofLine? (rest ++ line')) :
    SameEvents (before ++ line) (before ++ line') ∧ ∀ bytes, SameEvents
      (before ++ (line ++ newline :: bytes)) (before ++ (line' ++ newline :: bytes)) := by
  have hopen : ∀ {l}, newline ∉ l → newline ∉ rest ++ l := fun hl hmem =>
    (List.mem_append.1 hmem).elim h.newline_notMem_rest hl
  refine ⟨(h.append (.rest (hopen hl))).sameEvents (h.append (.rest (hopen hl'))) rfl heq,
    fun bytes => ?_⟩
  obtain ⟨ended₂, rest₂, hc⟩ := exists_isCut bytes
  have hcut : ∀ {l}, newline ∉ l →
      IsCut (before ++ (l ++ newline :: bytes)) (ended ++ (rest ++ l) :: ended₂) rest₂ :=
    fun hl => h.append (by rw [← List.append_assoc]; exact .line (hopen hl) hc)
  refine (hcut hl).sameEvents (hcut hl') ?_ rfl
  rw [List.filterMap_append, List.filterMap_append, List.filterMap_cons, List.filterMap_cons, heq]

theorem Pads.sameEvents {a b : List UInt8} (h : Pads a b) : SameEvents a b := by
  obtain @⟨before, padding, behind, hplace, hpad⟩ := h
  obtain ⟨ended, rest, hc, hrest⟩ : ∃ ended rest, IsCut before ended rest ∧
      (rest = [] ∨ IsLineEnd behind) := by
    obtain hstart | hend := hplace
    · obtain ⟨ended, hc⟩ := hstart.exists_isCut
      exact ⟨ended, [], hc, .inl rfl⟩
    · obtain ⟨ended, rest, hc⟩ := exists_isCut before
      exact ⟨ended, rest, hc, .inr hend⟩
  have hpadded : ∀ {line}, newline ∉ line → newline ∉ padding ++ line := fun hl hmem =>
    (List.mem_append.1 hmem).elim (newline_notMem_of_isPadding hpad) hl
  obtain ⟨_, _, hbehind⟩ := exists_isCut behind
  cases hbehind with
  | rest hl =>
    have hempty : rest = [] ∨ behind = [] := hrest.imp_right fun hend => hend.resolve_right <| by
      rintro ⟨b, rfl⟩
      exact hl List.mem_cons_self
    exact (hc.sameEvents_append hl (hpadded hl) (ofLine?_padded hempty hpad).symm).1
  | @line line bytes _ _ hl _ =>
    have hempty : rest = [] ∨ line = [] := hrest.imp_right fun hend => hend.eq_nil hl
    rw [← List.append_assoc padding]
    exact (hc.sameEvents_append hl (hpadded hl) (ofLine?_padded hempty hpad).symm).2 bytes

/-- Padding that is put in and taken away any number of times changes no event. -/
theorem sameEvents_of_eqvGen {a b : List UInt8} (h : Relation.EqvGen Pads a b) :
    SameEvents a b := by
  induction h with
  | rel _ _ h => exact h.sameEvents
  | refl _ => exact ⟨rfl, rfl⟩
  | symm _ _ _ ih => exact ⟨ih.lines.symm, ih.endedLines.symm⟩
  | trans _ _ _ _ _ ih₁ ih₂ =>
    exact ⟨ih₁.lines.trans ih₂.lines, ih₁.endedLines.trans ih₂.endedLines⟩

/-! ## Readers and streams -/

theorem SameEvents.foldl_linesBefore {a b : List UInt8} (h : SameEvents a b) (l : Listeners)
    (failed : Bool) :
    (linesBefore failed a).foldl (Progress.line l) .empty =
      (linesBefore failed b).foldl (Progress.line l) .empty := by
  rw [Progress.foldl_line, Progress.foldl_line]
  cases failed with
  | false => exact congrArg (List.foldl (Progress.record l) .empty) h.lines
  | true => exact congrArg (List.foldl (Progress.record l) .empty) h.endedLines

/-- Bytes that differ in nothing but padding, put in or taken away where lines start or end, are
decoded alike: readers that give them in any pieces, and both end or both fail, make the same
progress, which is the output and the notices; so do streams that deliver them in any pieces, empty
ones too, and both end or break for the same reason. -/
theorem padded_bytes (l : Listeners) {bytes bytes' : List UInt8}
    (h : Relation.EqvGen Pads bytes bytes') :
    (∀ (failed : Bool) (reads reads' : List Read),
      Gives reads bytes failed → Gives reads' bytes' failed →
        decodeReads l reads = decodeReads l reads') ∧
    ∀ (reason? : Option String) (pieces pieces' : List Piece),
      delivered pieces = (bytes, reason?) → delivered pieces' = (bytes', reason?) →
        decodePieces l pieces = decodePieces l pieces' := by
  have hsame := sameEvents_of_eqvGen h
  refine ⟨fun failed reads reads' hr hr' => ?_, fun reason? pieces pieces' hp hp' => ?_⟩
  · rw [decodeReads_eq, decodeReads_eq, hr.readLines_eq, hr'.readLines_eq,
      hsame.foldl_linesBefore]
  · rw [decodePieces_eq, decodePieces_eq, hp, hp', hsame.foldl_linesBefore]

/-- A tab less in front of a line that ends inside a character, a carriage return more behind it, a
space more in front of the next line and a tab more behind that one. -/
theorem padded_bytes_around_cut_character :
    let line := Utf8.encode "\x7b\"type\":\"stdout\",\"text\":\"a\"\x7d"
    let bytes := [9, 0xE2, 0x82] ++ newline :: line
    let bytes' := [0xE2, 0x82, 13] ++ newline :: (32 :: line ++ [9])
    Relation.EqvGen Pads bytes bytes' ∧
      decodeReads ⟨true, true⟩ [.bytes bytes] =
        decodeReads ⟨true, true⟩ [.interrupted, .bytes bytes'] ∧
      decodePieces ⟨true, true⟩ [.ok (bytes.take 2), .ok (bytes.drop 2), .error "lost"] =
        decodePieces ⟨true, true⟩ [.ok bytes', .error "lost"] := by
  intro line bytes bytes'
  have hpad : ∀ p : UInt8, IsPadding p → ∀ b ∈ [p], IsPadding b := fun p hp =>
    List.forall_mem_singleton.2 hp
  have htab : Pads ([] ++ ([0xE2, 0x82] ++ newline :: line)) ([] ++ ([9] ++ ([0xE2, 0x82] ++
      newline :: line))) := .insert (.inl (.inl rfl)) (hpad 9 (.inr (.inr rfl)))
  have hreturn : Pads ([0xE2, 0x82] ++ newline :: line)
      ([0xE2, 0x82] ++ ([13] ++ newline :: line)) :=
    .insert (.inr (.inr ⟨line, rfl⟩)) (hpad 13 (.inl rfl))
  have hspace : Pads ([0xE2, 0x82, 13, newline] ++ line)
      ([0xE2, 0x82, 13, newline] ++ ([32] ++ line)) :=
    .insert (.inl (.inr ⟨[0xE2, 0x82, 13], rfl⟩)) (hpad 32 (.inr (.inl rfl)))
  have hlast : Pads (([0xE2, 0x82, 13, newline, 32] ++ line) ++ [])
      (([0xE2, 0x82, 13, newline, 32] ++ line) ++ ([9] ++ [])) :=
    .insert (.inr (.inl rfl)) (hpad 9 (.inr (.inr rfl)))
  rw [List.append_nil] at hlast
  have h : Relation.EqvGen Pads bytes bytes' :=
    (((Relation.EqvGen.rel _ _ htab).symm.trans _ _ _ (.rel _ _ hreturn)).trans _ _ _
      (.rel _ _ hspace)).trans _ _ _ (.rel _ _ hlast)
  refine ⟨h, (padded_bytes _ h).1 false _ _ (.bytes (List.cons_ne_nil _ _) .ended)
    (.interrupted (.bytes (List.cons_ne_nil _ _) .ended)),
    (padded_bytes _ h).2 (some "lost") _ _ ?_ ?_⟩
  all_goals simp [delivered, List.take_append_drop]

end AgentSandbox.Execution

import AgentSandbox.Execution.Decoding
import AgentSandbox.Proofs.Execution.Lines
import AgentSandbox.Proofs.Text.Blank
import AgentSandbox.Proofs.Text.Utf8

/-!
# Streams and readers

A stream that ends properly gives the output and the notices that a reader of the same bytes gives,
however the bytes were cut into pieces (`stream_agrees_with_reader`); one that breaks gives those of
its ended lines (`broken_stream`).  The invariant is `Decoder.holding`: after any pieces, the
decoder has decoded the ended lines of all bytes so far and holds the rest.
-/

namespace AgentSandbox.Execution

/-! ## Events of a line -/

namespace Event

theorem ofLine?_nil : ofLine? [] = none := by
  rw [ofLine?, Utf8.decodeLossy_nil]
  rfl

/-- The byte is a blank character. -/
def IsBlankByte (b : UInt8) : Prop := b < 0x80 ∧ Text.isBlank (Char.ofNat b.toNat) = true

theorem isBlank_of_mem_map {blanks : List UInt8} (h : ∀ b ∈ blanks, IsBlankByte b) :
    ∀ c ∈ blanks.map fun b => Char.ofNat b.toNat, Text.isBlank c = true :=
  List.forall_mem_map.2 fun b hb => (h b hb).2

/-- Blanks in front of a line do not matter, whatever its first bytes are. -/
theorem ofLine?_append_left {blanks : List UInt8} (h : ∀ b ∈ blanks, IsBlankByte b)
    (line : List UInt8) : ofLine? (blanks ++ line) = ofLine? line := by
  rw [ofLine?, Utf8.decodeLossy_append_left fun b hb => (h b hb).1, ofText?,
    Text.trim_append_left (isBlank_of_mem_map h)]
  rfl

/-- Blanks behind a line do not matter, even after bytes that are not well-formed. -/
theorem ofLine?_append_right {blanks : List UInt8} (h : ∀ b ∈ blanks, IsBlankByte b)
    (line : List UInt8) : ofLine? (line ++ blanks) = ofLine? line := by
  rw [ofLine?, Utf8.decodeLossy_append_right fun b hb => (h b hb).1, ofText?,
    Text.trim_append_right (isBlank_of_mem_map h)]
  rfl

theorem ofLine?_append_newline (line : List UInt8) :
    ofLine? (line ++ [newline]) = ofLine? line :=
  ofLine?_append_right (List.forall_mem_singleton.2 ⟨by decide, by decide⟩) line

end Event

theorem filterMap_ofLine?_map_append_newline (ended : List (List UInt8)) :
    (ended.map (· ++ [newline])).filterMap Event.ofLine? = ended.filterMap Event.ofLine? := by
  rw [List.filterMap_map]
  exact congrArg (ended.filterMap ·) (funext Event.ofLine?_append_newline)

/-! ## Progress -/

namespace Output

theorem append_record (a b : Output) (e : Event) :
    (a.append b).record e = a.append (b.record e) := by
  cases e <;> simp [append, record]

theorem append_empty (o : Output) : o.append empty = o := by
  cases o
  simp [append, empty]

/-- What some events add to an output does not depend on the output. -/
theorem foldl_record (o : Output) (es : List Event) :
    es.foldl record o = o.append (es.foldl record empty) := by
  suffices h : ∀ b : Output, es.foldl record (o.append b) = o.append (es.foldl record b) by
    rw [← h, append_empty]
  induction es with
  | nil => exact fun b => rfl
  | cons e es ih =>
    intro b
    rw [List.foldl_cons, append_record, ih, List.foldl_cons]

/-- Nothing that was printed or returned before is lost when more events follow. -/
theorem prefix_foldl_record (o : Output) (es : List Event) :
    o.stdout <+: (es.foldl record o).stdout ∧ o.stderr <+: (es.foldl record o).stderr ∧
      o.results <+: (es.foldl record o).results := by
  rw [foldl_record]
  exact ⟨List.prefix_append _ _, List.prefix_append _ _, List.prefix_append _ _⟩

end Output

namespace Progress

theorem foldl_record (l : Listeners) (es : List Event) (p : Progress) :
    es.foldl (record l) p =
      ⟨es.foldl Output.record p.output, p.notices ++ es.filterMap (Event.notice? l)⟩ := by
  induction es generalizing p with
  | nil => simp
  | cons e es ih =>
    rw [List.foldl_cons, ih, List.filterMap_cons]
    cases h : e.notice? l <;> simp [record, h]

theorem foldl_line (l : Listeners) (ls : List (List UInt8)) (p : Progress) :
    ls.foldl (line l) p = (ls.filterMap Event.ofLine?).foldl (record l) p := by
  induction ls generalizing p with
  | nil => rfl
  | cons b ls ih =>
    rw [List.foldl_cons, ih, List.filterMap_cons, line]
    cases Event.ofLine? b <;> rfl

end Progress

/-! ## Lines that count -/

/-- The lines of some bytes that count in front of the proper end of the bytes, or in front of a
failure. -/
def linesBefore (failed : Bool) (bytes : List UInt8) : List (List UInt8) :=
  if failed then endedLines bytes else lines bytes

/-- The events of all lines are those of the ended ones and of the rest. -/
theorem filterMap_ofLine?_lines {bytes rest : List UInt8} {ended : List (List UInt8)}
    (h : IsCut bytes ended rest) :
    (lines bytes).filterMap Event.ofLine? = (ended ++ [rest]).filterMap Event.ofLine? := by
  have hrest : (if rest = [] then [] else [rest]).filterMap Event.ofLine? =
      [rest].filterMap Event.ofLine? := by
    split
    · next hnil => rw [hnil, List.filterMap_cons, Event.ofLine?_nil, List.filterMap_nil]
    · rfl
  rw [h.lines_eq, List.filterMap_append, filterMap_ofLine?_map_append_newline, hrest,
    ← List.filterMap_append]

theorem foldl_lines {bytes rest : List UInt8} {ended : List (List UInt8)}
    (h : IsCut bytes ended rest) (l : Listeners) :
    (lines bytes).foldl (Progress.line l) .empty =
      (ended ++ [rest]).foldl (Progress.line l) .empty := by
  rw [Progress.foldl_line, filterMap_ofLine?_lines h, Progress.foldl_line]

theorem foldl_endedLines {bytes rest : List UInt8} {ended : List (List UInt8)}
    (h : IsCut bytes ended rest) (l : Listeners) :
    (endedLines bytes).foldl (Progress.line l) .empty = ended.foldl (Progress.line l) .empty := by
  rw [Progress.foldl_line, h.endedLines_eq, filterMap_ofLine?_map_append_newline,
    Progress.foldl_line]

/-! ## Readers -/

/-- The reader gives these bytes, in answers of at least one byte, and then ends or fails. -/
inductive Gives : List Read → List UInt8 → Bool → Prop
  | ended : Gives [] [] false
  | failed (reason : String) (reads : List Read) : Gives (.failure reason :: reads) [] true
  | interrupted {reads : List Read} {bytes : List UInt8} {failed : Bool}
      (h : Gives reads bytes failed) : Gives (.interrupted :: reads) bytes failed
  | bytes {bs bytes : List UInt8} {reads : List Read} {failed : Bool} (hne : bs ≠ [])
      (h : Gives reads bytes failed) : Gives (.bytes bs :: reads) (bs ++ bytes) failed

theorem Gives.readLinesFrom_eq {reads : List Read} {bytes : List UInt8} {failed : Bool}
    (h : Gives reads bytes failed) (pending : List UInt8) :
    readLinesFrom pending reads = linesBefore failed (pending ++ bytes) := by
  induction h generalizing pending with
  | ended => rw [readLinesFrom, List.append_nil]; rfl
  | failed reason reads => rw [readLinesFrom, List.append_nil]; rfl
  | interrupted _ ih => rw [readLinesFrom, ih]
  | bytes hne _ ih =>
    obtain ⟨b, bs, rfl⟩ := List.exists_cons_of_ne_nil hne
    rw [readLinesFrom, ih, List.append_assoc]

/-- A reader that gives some bytes gives their lines, in whatever pieces the bytes come. -/
theorem Gives.readLines_eq {reads : List Read} {bytes : List UInt8} {failed : Bool}
    (h : Gives reads bytes failed) : readLines reads = linesBefore failed bytes :=
  h.readLinesFrom_eq []

theorem readLines_bytes (bytes : List UInt8) : readLines [.bytes bytes] = lines bytes := by
  cases bytes with
  | nil => rfl
  | cons b bs => rfl

theorem readLines_failure (bytes : List UInt8) (fault : String) (reads : List Read) :
    readLines (.bytes bytes :: .failure fault :: reads) = endedLines bytes := by
  cases bytes with
  | nil =>
    show lines [] = endedLines []
    rw [endedLines, lines, List.filter_nil]
  | cons b bs => rfl

theorem decodeReads_eq (l : Listeners) (reads : List Read) :
    decodeReads l reads = (readLines reads).foldl (Progress.line l) .empty := by
  rw [Progress.foldl_line]
  rfl

theorem events_bytes {bytes rest : List UInt8} {ended : List (List UInt8)}
    (h : IsCut bytes ended rest) :
    events [.bytes bytes] = (ended ++ [rest]).filterMap Event.ofLine? := by
  rw [events, readLines_bytes, filterMap_ofLine?_lines h]

theorem decodeReads_bytes {bytes rest : List UInt8} {ended : List (List UInt8)}
    (h : IsCut bytes ended rest) (l : Listeners) :
    decodeReads l [.bytes bytes] = (ended ++ [rest]).foldl (Progress.line l) .empty := by
  rw [decodeReads_eq, readLines_bytes, foldl_lines h]

theorem decodeReads_failure {bytes rest : List UInt8} {ended : List (List UInt8)}
    (h : IsCut bytes ended rest) (l : Listeners) (fault : String) (reads : List Read) :
    decodeReads l (.bytes bytes :: .failure fault :: reads) =
      ended.foldl (Progress.line l) .empty := by
  rw [decodeReads_eq, readLines_failure, foldl_endedLines h]

/-! ## Streams -/

namespace Decoder

/-- The decoder that has decoded some ended lines and holds the bytes behind them. -/
def holding (l : Listeners) (ended : List (List UInt8)) (rest : List UInt8) : Decoder :=
  ⟨⟨rest, rest.length⟩, ended.foldl (Progress.line l) .empty⟩

theorem feed_holding {l : Listeners} {ended ended' : List (List UInt8)}
    {rest rest' piece : List UInt8} (hr : newline ∉ rest) (h : IsCut (rest ++ piece) ended' rest') :
    (holding l ended rest).feed l piece = holding l (ended ++ ended') rest' := by
  have hs : newline ∉ (rest ++ piece).take rest.length := by rwa [List.take_left]
  simp only [feed, holding, LineBuffer.push, LineBuffer.drain_eq h hs, List.foldl_append]

theorem finish_holding (l : Listeners) (ended : List (List UInt8)) (rest : List UInt8) :
    (holding l ended rest).finish l = (ended ++ [rest]).foldl (Progress.line l) .empty := by
  rw [List.foldl_append]
  cases rest with
  | nil => simp only [finish, holding, LineBuffer.rest?, List.foldl_cons, List.foldl_nil,
      Progress.line, Event.ofLine?_nil, List.isEmpty_nil, if_true]
  | cons b bs => rfl

end Decoder

/-- Whatever pieces arrive, the decoder has decoded the ended lines of their bytes and holds the
rest. -/
theorem decodeFrom_holding (l : Listeners) (chunks : List (List UInt8)) {bytes rest : List UInt8}
    {ended : List (List UInt8)} (h : IsCut bytes ended rest) :
    ∃ ended' rest', IsCut (bytes ++ chunks.flatten) ended' rest' ∧ ∀ pieces,
      decodeFrom l (.holding l ended rest) (chunks.map .ok ++ pieces) =
        decodeFrom l (.holding l ended' rest') pieces := by
  induction chunks generalizing bytes ended rest with
  | nil => exact ⟨ended, rest, by simpa using h, fun pieces => rfl⟩
  | cons chunk chunks ih =>
    obtain ⟨ended', rest', hc⟩ := exists_isCut (rest ++ chunk)
    obtain ⟨ended'', rest'', hcut, hrun⟩ := ih (h.append hc)
    refine ⟨ended'', rest'', by rwa [List.flatten_cons, ← List.append_assoc], fun pieces => ?_⟩
    rw [List.map_cons, List.cons_append, decodeFrom,
      Decoder.feed_holding h.newline_notMem_rest hc, hrun]

theorem decodePieces_append (l : Listeners) (chunks : List (List UInt8)) :
    ∃ ended rest, IsCut chunks.flatten ended rest ∧ ∀ pieces,
      decodePieces l (chunks.map .ok ++ pieces) = decodeFrom l (.holding l ended rest) pieces :=
  decodeFrom_holding l chunks (.rest List.not_mem_nil)

theorem decodePieces_map_ok (l : Listeners) (chunks : List (List UInt8)) :
    decodePieces l (chunks.map .ok) = (decodeReads l [.bytes chunks.flatten], none) := by
  obtain ⟨ended, rest, hc, hrun⟩ := decodePieces_append l chunks
  rw [← List.append_nil (chunks.map _), hrun, decodeFrom, Decoder.finish_holding,
    decodeReads_bytes hc]

/-! ## The bytes of a stream -/

/-- The bytes that a stream delivers before it ends or breaks, and the reason if it breaks. -/
def delivered : List Piece → List UInt8 × Option String
  | [] => ([], none)
  | .ok bytes :: pieces => (bytes ++ (delivered pieces).1, (delivered pieces).2)
  | .error reason :: _ => ([], some reason)

theorem delivered_map_ok_append (chunks : List (List UInt8)) (pieces : List Piece) :
    delivered (chunks.map .ok ++ pieces) =
      (chunks.flatten ++ (delivered pieces).1, (delivered pieces).2) := by
  induction chunks with
  | nil => rfl
  | cons chunk chunks ih =>
    rw [List.map_cons, List.cons_append, delivered, ih, List.flatten_cons, List.append_assoc]

/-- A stream is some bytes in pieces, and then its end or a break. -/
theorem exists_chunks (pieces : List Piece) : ∃ (chunks : List (List UInt8)) (ending : List Piece),
    pieces = chunks.map .ok ++ ending ∧
      (ending = [] ∨ ∃ reason rest, ending = .error reason :: rest) := by
  induction pieces with
  | nil => exact ⟨[], [], rfl, .inl rfl⟩
  | cons piece pieces ih =>
    cases piece with
    | error reason => exact ⟨[], _, rfl, .inr ⟨reason, pieces, rfl⟩⟩
    | ok chunk =>
      obtain ⟨chunks, ending, rfl, hending⟩ := ih
      exact ⟨chunk :: chunks, ending, rfl, hending⟩

/-- A stream makes the progress of the lines that count of the bytes it delivers. -/
theorem decodePieces_eq (l : Listeners) (pieces : List Piece) :
    let d := delivered pieces
    decodePieces l pieces = ((linesBefore d.2.isSome d.1).foldl (Progress.line l) .empty, d.2) := by
  obtain ⟨chunks, ending, rfl, rfl | ⟨reason, rest, rfl⟩⟩ := exists_chunks pieces
  · rw [delivered_map_ok_append, List.append_nil, decodePieces_map_ok, decodeReads_eq,
      readLines_bytes]
    simp [delivered, linesBefore]
  · obtain ⟨ended, tail, hc, hrun⟩ := decodePieces_append l chunks
    rw [delivered_map_ok_append, hrun]
    simp only [delivered, List.append_nil, linesBefore, Option.isSome_some, if_true,
      foldl_endedLines hc, decodeFrom, Decoder.holding]

/-- A stream that ends properly gives what a reader of all its bytes gives, and so does every other
way to cut these bytes into pieces. -/
theorem stream_agrees_with_reader (l : Listeners) (chunks : List (List UInt8)) :
    streamOutput (decodePieces l (chunks.map .ok)) =
        .ok (decodeReads l [.bytes chunks.flatten]).output ∧
      (decodePieces l (chunks.map .ok)).1.notices =
        (decodeReads l [.bytes chunks.flatten]).notices ∧
      ∀ chunks' : List (List UInt8), chunks'.flatten = chunks.flatten →
        decodePieces l (chunks'.map .ok) = decodePieces l (chunks.map .ok) := by
  refine ⟨?_, ?_, fun chunks' h => ?_⟩
  · rw [decodePieces_map_ok]
    rfl
  · rw [decodePieces_map_ok]
  · rw [decodePieces_map_ok, decodePieces_map_ok, h]

/-- The pieces of a line that prints, cut inside a character, are as good as the whole line. -/
theorem stream_agrees_with_reader_inside_character :
    let line := Utf8.encode "\x7b\"type\":\"stdout\",\"text\":\"\u00e9\"\x7d\n"
    [line.take 26, [], line.drop 26].flatten = [line].flatten ∧
      decodePieces ⟨true, true⟩ ([line.take 26, [], line.drop 26].map .ok) =
        decodePieces ⟨true, true⟩ ([line].map .ok) := by
  intro line
  have h : [line.take 26, [], line.drop 26].flatten = [line].flatten := by
    simp only [List.flatten_cons, List.flatten_nil, List.append_nil, List.nil_append,
      List.take_append_drop]
  exact ⟨h, (stream_agrees_with_reader ⟨true, true⟩ [line]).2.2 _ h⟩

/-- A stream that breaks fails with its reason and with the output of its ended lines; the notices
given are those of the events of these lines.  The bytes of the open line and what follows the break
count for nothing.  A reader that fails behind the same bytes has made the same progress, and the
output is the beginning of what the stream would have given had it ended there. -/
theorem broken_stream (l : Listeners) (chunks : List (List UInt8)) (reason : String)
    (pieces : List Piece) :
    let es := (endedLines chunks.flatten).filterMap Event.ofLine?
    let output := es.foldl Output.record .empty
    let r := decodePieces l (chunks.map .ok ++ .error reason :: pieces)
    streamOutput r = .error (.interrupted reason output) ∧
      r.1.notices = es.filterMap (Event.notice? l) ∧
      (∀ (fault : String) (reads : List Read),
        decodeReads l (.bytes chunks.flatten :: .failure fault :: reads) = r.1) ∧
      ∃ whole, streamOutput (decodePieces l (chunks.map .ok)) = .ok whole ∧
        output.stdout <+: whole.stdout ∧ output.stderr <+: whole.stderr ∧
        output.results <+: whole.results := by
  obtain ⟨ended, rest, hc, hrun⟩ := decodePieces_append l chunks
  intro es output r
  have hes : es = ended.filterMap Event.ofLine? := by
    rw [← filterMap_ofLine?_map_append_newline, ← hc.endedLines_eq]
  have hr : r = (ended.foldl (Progress.line l) .empty, some reason) := hrun _
  have hp : ended.foldl (Progress.line l) .empty = ⟨output, es.filterMap (Event.notice? l)⟩ := by
    rw [Progress.foldl_line, Progress.foldl_record, ← hes]
    rfl
  have hwhole : decodePieces l (chunks.map .ok) =
      ((ended ++ [rest]).foldl (Progress.line l) .empty, none) := by
    rw [decodePieces_map_ok, decodeReads_bytes hc]
  have hmore : ((ended ++ [rest]).foldl (Progress.line l) .empty).output =
      ([rest].filterMap Event.ofLine?).foldl Output.record output := by
    rw [List.foldl_append, hp, Progress.foldl_line, Progress.foldl_record]
  refine ⟨?_, ?_, fun fault reads => ?_, _, by rw [hwhole]; rfl, ?_⟩
  · rw [hr, hp]
    rfl
  · rw [hr, hp]
  · rw [decodeReads_failure hc, hr]
  · rw [hmore]
    exact Output.prefix_foldl_record output _

end AgentSandbox.Execution

import AgentSandbox.Proofs.Execution.Decoding
import AgentSandbox.Proofs.Json.Printing
import AgentSandbox.Proofs.Text.Encoding

/-!
# Events that are written and read

An event is written as the text of its object, one event a line (`reportText`).  A reader of these
bytes gives the events back in their order, and so does a stream, however the bytes are cut into
pieces (`events_reportText`): the text of an object is one line, has no blank at its ends and is
read as the object.
-/

namespace AgentSandbox.Execution

open Json

/-- The events that a line can carry: a result is any object of the type `result` with its members
in order, whose numbers are integers of 64 bits and whose containers are not nested too deeply. -/
def Event.IsReportable : Event → Prop
  | .result payload =>
    textMember? "type" payload = some "result" ∧ (Value.object payload).Fits maxNesting ∧
      (Value.object payload).IsOrdered
  | _ => True

/-- The text that reports some events, one a line. -/
def reportText (es : List Event) : String :=
  "\n".intercalate (es.map fun e => e.form.toText)

/-! ## One event -/

namespace Event

/-- An object of texts fits. -/
theorem fits_texts {ms : List (String × Value)} (h : ∀ m ∈ ms, ∃ s, m.2 = .text s) :
    (Value.object ms).Fits maxNesting := by
  refine .object fun m hm => ?_
  obtain ⟨s, hs⟩ := h m hm
  rw [hs]
  exact .text _ s

theorem fits_form {e : Event} (h : e.IsReportable) : e.form.Fits maxNesting := by
  cases e with
  | result payload => exact h.2.1
  | stdout text => exact fits_texts (by simp)
  | stderr text => exact fits_texts (by simp)
  | fault f => exact fits_texts (by simp)

theorem distinct_text (kind text : String) :
    ([("type", Value.text kind), ("text", .text text)].map (·.1)).Pairwise (· ≠ ·) := by
  show ["type", "text"].Pairwise (· ≠ ·)
  decide

theorem distinct_fault (f : Fault) :
    ([("type", Value.text "error"), ("name", .text f.name), ("value", .text f.value),
      ("traceback", .text f.traceback)].map (·.1)).Pairwise (· ≠ ·) := by
  show ["type", "name", "value", "traceback"].Pairwise (· ≠ ·)
  decide

/-- The object that is written for an event means the event. -/
theorem exists_members_form {e : Event} (h : e.IsReportable) :
    ∃ ms, (Document.ofValue e.form).value? = some (.object ms) ∧ ofMembers? ms = some e := by
  cases e with
  | result payload =>
    refine ⟨payload, Document.value?_ofValue h.2.2, ?_⟩
    simp [ofMembers?, h.1]
  | stdout text =>
    refine ⟨_, rfl, ?_⟩
    simp only [ofMembers?, textMember?, Dictionary.lookup?_ofList (distinct_text _ text)]
    rfl
  | stderr text =>
    refine ⟨_, rfl, ?_⟩
    simp only [ofMembers?, textMember?, Dictionary.lookup?_ofList (distinct_text _ text)]
    rfl
  | fault f =>
    refine ⟨_, rfl, ?_⟩
    simp only [ofMembers?, textMember?, Dictionary.lookup?_ofList (distinct_fault f)]
    rfl

theorem exists_form (e : Event) : ∃ ms, e.form = .object ms := by
  cases e <;> exact ⟨_, rfl⟩

/-- The text of an object has no blank at its ends. -/
theorem trim_print_form (e : Event) : Text.trim e.form.print = e.form.print := by
  obtain ⟨ms, hform⟩ := e.exists_form
  rw [Text.trim_eq_self_iff, hform, Value.print]
  constructor
  · intro c hc
    obtain rfl := Option.some.inj hc
    decide
  · intro c hc
    rw [List.getLast?_append] at hc
    obtain rfl := Option.some.inj hc
    decide

/-- A line that is written for an event reports the event. -/
theorem ofLine?_encode_form {e : Event} (h : e.IsReportable) :
    ofLine? (Utf8.encode e.form.toText) = some e := by
  obtain ⟨ms, hvalue, hms⟩ := exists_members_form h
  have hread : Value.read? e.form.print = some (.object ms) := by
    rw [Value.read?, Document.read?_print (fits_form h), Option.bind_some, hvalue]
  rw [ofLine?, Utf8.decodeLossy_encode, Value.toText, String.toList_ofList, ofText?,
    trim_print_form, hread]
  exact hms

theorem newline_notMem_encode_form {e : Event} (h : e.IsReportable) :
    newline ∉ Utf8.encode e.form.toText := by
  intro hmem
  obtain ⟨c, hc, hnat⟩ := Utf8.exists_of_mem_encode (by decide) hmem
  rw [Value.toText, String.toList_ofList] at hc
  have hle := (fits_form h).le_toNat c hc
  rw [hnat] at hle
  exact absurd hle (by decide)

end Event

/-! ## Many events -/

theorem encode_append (s t : String) : Utf8.encode (s ++ t) = Utf8.encode s ++ Utf8.encode t := by
  rw [Utf8.encode, String.toList_append, List.flatMap_append]
  rfl

/-- Lines that are joined by newlines are cut into these lines again. -/
theorem isCut_encode_intercalate {s : String} {ss : List String}
    (h : ∀ t ∈ s :: ss, newline ∉ Utf8.encode t) :
    ∃ ended rest, IsCut (Utf8.encode ("\n".intercalate (s :: ss))) ended rest ∧
      ended ++ [rest] = (s :: ss).map Utf8.encode := by
  induction ss generalizing s with
  | nil =>
    rw [String.intercalate_singleton]
    exact ⟨[], _, .rest (h s List.mem_cons_self), rfl⟩
  | cons t ts ih =>
    obtain ⟨ended, rest, hcut, hlines⟩ := ih fun u hu => h u (List.mem_cons_of_mem _ hu)
    have hs := h s List.mem_cons_self
    refine ⟨Utf8.encode s :: ended, rest, ?_, by rw [List.cons_append, hlines]; rfl⟩
    rw [String.intercalate_cons_of_ne_nil (List.cons_ne_nil t ts), encode_append, encode_append,
      List.append_assoc]
    exact .line hs hcut

theorem filterMap_ofLine?_encode_form {es : List Event} (h : ∀ e ∈ es, e.IsReportable) :
    ((es.map fun e => e.form.toText).map Utf8.encode).filterMap Event.ofLine? = es := by
  induction es with
  | nil => rfl
  | cons e es ih =>
    have he := Event.ofLine?_encode_form (h e List.mem_cons_self)
    rw [List.map_cons, List.map_cons, List.filterMap_cons, he,
      ih fun x hx => h x (List.mem_cons_of_mem _ hx)]

theorem filterMap_ofLine?_reportText {es : List Event} (h : ∀ e ∈ es, e.IsReportable) :
    (lines (Utf8.encode (reportText es))).filterMap Event.ofLine? = es := by
  cases es with
  | nil =>
    have hnil : Utf8.encode (reportText []) = [] := rfl
    rw [hnil, lines, List.filterMap_nil]
  | cons e es =>
    have hlines : ∀ t ∈ (e :: es).map fun e => e.form.toText, newline ∉ Utf8.encode t := by
      intro t ht
      obtain ⟨x, hx, rfl⟩ := List.mem_map.1 ht
      exact Event.newline_notMem_encode_form (h x hx)
    obtain ⟨ended, rest, hcut, hall⟩ := isCut_encode_intercalate hlines
    rw [reportText, List.map_cons, filterMap_ofLine?_lines hcut, hall]
    exact filterMap_ofLine?_encode_form h

/-- The events that are written are read again, in their order, by every reader that gives their
bytes, whatever the pieces are, and a stream of any pieces of them, empty ones too, records them one
after the other. -/
theorem events_reportText {es : List Event} (h : ∀ e ∈ es, e.IsReportable) :
    (∀ reads, Gives reads (Utf8.encode (reportText es)) false → events reads = es) ∧
      ∀ (l : Listeners) (chunks : List (List UInt8)),
        chunks.flatten = Utf8.encode (reportText es) →
          decodePieces l (chunks.map .ok) = (es.foldl (Progress.record l) .empty, none) := by
  refine ⟨fun reads hreads => ?_, fun l chunks hchunks => ?_⟩
  · rw [events, hreads.readLines_eq]
    exact filterMap_ofLine?_reportText h
  · rw [decodePieces_map_ok, decodeReads_eq, readLines_bytes, hchunks, Progress.foldl_line,
      filterMap_ofLine?_reportText h]

/-- A text of two lines, a fault and a nested result.  A reader gives its bytes in two answers that
are cut inside a character, a stream in three pieces of which one is empty. -/
theorem events_reportText_inside_character :
    let es : List Event :=
      [.stdout "\u00e9 \"a\"\n", .fault ⟨"E", "", "\\"⟩,
        .result [("data", .list [.object [("n", .number (.int (-7)))], .null]),
          ("type", .text "result")]]
    let bytes := Utf8.encode (reportText es)
    (∀ e ∈ es, e.IsReportable) ∧
      events [.bytes (bytes.take 26), .interrupted, .bytes (bytes.drop 26)] = es ∧
      decodePieces ⟨true, true⟩ ([bytes.take 26, [], bytes.drop 26].map .ok) =
        (es.foldl (Progress.record ⟨true, true⟩) .empty, none) := by
  intro es bytes
  have hfits : (Value.object [("data", .list [.object [("n", .number (.int (-7)))], .null]),
      ("type", .text "result")]).Fits maxNesting := by
    have hinner : (Value.object [("n", .number (.int (-7)))]).Fits 125 :=
      .object (List.forall_mem_singleton.2 (.int _ (by decide)))
    have hdata : (Value.list [.object [("n", .number (.int (-7)))], .null]).Fits 126 :=
      .list (List.forall_mem_cons.2 ⟨hinner, List.forall_mem_singleton.2 (.null _)⟩)
    exact .object (List.forall_mem_cons.2 ⟨hdata, List.forall_mem_singleton.2 (.text _ _)⟩)
  have hordered : (Value.object [("data", .list [.object [("n", .number (.int (-7)))], .null]),
      ("type", .text "result")]).IsOrdered := by
    have hinner : (Value.object [("n", .number (.int (-7)))]).IsOrdered :=
      .object (List.pairwise_singleton _ _) (List.forall_mem_singleton.2 (.number _))
    have hdata : (Value.list [.object [("n", .number (.int (-7)))], .null]).IsOrdered :=
      .list (List.forall_mem_cons.2 ⟨hinner, List.forall_mem_singleton.2 .null⟩)
    refine .object ?_ (List.forall_mem_cons.2 ⟨hdata, List.forall_mem_singleton.2 (.text _)⟩)
    exact List.pairwise_pair.2 (by decide)
  have h : ∀ e ∈ es, e.IsReportable := by
    simp only [es, List.forall_mem_cons]
    exact ⟨trivial, trivial, ⟨by decide, hfits, hordered⟩, List.forall_mem_nil _⟩
  have hgives :
      Gives [.bytes (bytes.take 26), .interrupted, .bytes (bytes.drop 26)] bytes false := by
    have htake : bytes.take 26 ≠ [] := by decide +kernel
    have hdrop : bytes.drop 26 ≠ [] := by decide +kernel
    have hpieces := Gives.bytes htake (.interrupted (.bytes hdrop .ended))
    rwa [List.append_nil, List.take_append_drop] at hpieces
  have hchunks : [bytes.take 26, [], bytes.drop 26].flatten = Utf8.encode (reportText es) := by
    simp only [List.flatten_cons, List.flatten_nil, List.append_nil, List.nil_append,
      List.take_append_drop, bytes]
  exact ⟨h, (events_reportText h).1 _ hgives, (events_reportText h).2 _ _ hchunks⟩

end AgentSandbox.Execution

import AgentSandbox.Execution.Service
import AgentSandbox.Proofs.Exchange.World
import AgentSandbox.Proofs.Execution.Decoding

/-!
# What listeners hear

What is printed and what the listeners of a channel hear are read off one sequence of events
(`texts_filterMap_notice?`), so a listener hears exactly what is printed on its channel.  Nothing else
depends on the listeners: without them the same is decoded and no notice is given
(`Received.muted_feed`, `Received.muted_finish`).  The events are those of the lines of the stream
(`Received.exists_stream`).
-/

namespace AgentSandbox

namespace Execution

/-! ## Channels -/

/-- Whether a channel has a listener. -/
def Listeners.hears (l : Listeners) : Channel → Bool
  | .stdout => l.stdout
  | .stderr => l.stderr

/-- The texts printed on a channel. -/
def Output.printed (o : Output) : Channel → List String
  | .stdout => o.stdout
  | .stderr => o.stderr

/-- The texts of the notices about a channel. -/
def texts (channel : Channel) (notices : List Notice) : List String :=
  notices.filterMap fun n => if n.channel = channel then some n.text else none

/-- The text that an event prints on a channel. -/
def Event.printed? : Channel → Event → Option String
  | .stdout, .stdout text => some text
  | .stderr, .stderr text => some text
  | _, _ => none

theorem filterMap_cons_toList {α β : Type} (f : α → Option β) (x : α) (xs : List α) :
    (x :: xs).filterMap f = (f x).toList ++ xs.filterMap f := by
  cases h : f x with
  | none => rw [List.filterMap_cons_none h]; rfl
  | some y => rw [List.filterMap_cons_some h]; rfl

theorem printed_foldl_record (channel : Channel) (es : List Event) (o : Output) :
    (es.foldl Output.record o).printed channel =
      o.printed channel ++ es.filterMap (Event.printed? channel) := by
  induction es generalizing o with
  | nil => exact (List.append_nil _).symm
  | cons e es ih =>
    have hrecord : (o.record e).printed channel =
        o.printed channel ++ (Event.printed? channel e).toList := by
      cases channel <;> cases e <;> simp [Output.record, Output.printed, Event.printed?]
    rw [List.foldl_cons, ih, hrecord, List.append_assoc, filterMap_cons_toList]

/-- The listener of a channel hears what the events print on it, and nothing is heard of a channel
without one. -/
theorem texts_filterMap_notice? (l : Listeners) (channel : Channel) (es : List Event) :
    texts channel (es.filterMap (Event.notice? l)) =
      if l.hears channel then es.filterMap (Event.printed? channel) else [] := by
  induction es with
  | nil => exact (ite_self _).symm
  | cons e es ih =>
    have hnotice : texts channel (e.notice? l).toList =
        if l.hears channel then (Event.printed? channel e).toList else [] := by
      rcases l with ⟨_ | _, _ | _⟩ <;> cases channel <;> cases e <;> rfl
    rw [filterMap_cons_toList, filterMap_cons_toList]
    unfold texts at hnotice ih ⊢
    rw [List.filterMap_append, hnotice, ih]
    split
    · rfl
    · rfl

/-- The listener of a channel hears what is printed on it. -/
theorem texts_of_hears {l : Listeners} {channel : Channel} (h : l.hears channel = true)
    (es : List Event) :
    texts channel (es.filterMap (Event.notice? l)) =
      (es.foldl Output.record .empty).printed channel := by
  have hempty : Output.empty.printed channel = [] := by cases channel <;> rfl
  rw [texts_filterMap_notice?, if_pos h, printed_foldl_record, hempty, List.nil_append]

/-! ## Without listeners -/

theorem filterMap_notice?_none (es : List Event) : es.filterMap (Event.notice? .none) = [] := by
  refine List.filterMap_eq_nil_iff.2 fun e _ => ?_
  cases e <;> rfl

/-- The same progress without notices. -/
def Progress.muted (p : Progress) : Progress := ⟨p.output, []⟩

theorem Progress.muted_foldl_line (l : Listeners) (ls : List (List UInt8)) (p : Progress) :
    (ls.foldl (line l) p).muted = ls.foldl (line .none) p.muted := by
  rw [foldl_line, foldl_line, foldl_record, foldl_record, filterMap_notice?_none]
  rfl

theorem Progress.notices_prefix_foldl_line (l : Listeners) (ls : List (List UInt8)) (p : Progress) :
    p.notices <+: (ls.foldl (line l) p).notices := by
  rw [foldl_line, foldl_record]
  exact List.prefix_append _ _

/-- The same decoder, with progress without notices. -/
def Decoder.muted (d : Decoder) : Decoder := ⟨d.buffer, d.progress.muted⟩

end Execution

open Execution

namespace Received

/-- The same for nobody. -/
def muted : Received → Received
  | .execution _ d => .execution .none d.muted
  | r => r

theorem muted_feed (r : Received) (bytes : List UInt8) : (r.feed bytes).muted = r.muted.feed bytes := by
  cases r with
  | execution l d =>
    exact congrArg (fun p => execution .none ⟨_, p⟩) (Progress.muted_foldl_line l _ d.progress)
  | _ => rfl

theorem muted_finish (r : Received) : r.finish.muted = r.muted.finish := by
  cases r with
  | execution l d =>
    have hprogress : (d.finish l).muted = d.muted.finish .none := by
      unfold Decoder.finish Decoder.muted
      dsimp only
      cases d.buffer.rest? with
      | none => rfl
      | some bytes => exact Progress.muted_foldl_line l [bytes] d.progress
    exact congrArg (fun p => execution .none ⟨_, p⟩) hprogress
  | _ => rfl

@[simp] theorem output_muted (r : Received) : r.muted.output = r.output := by cases r <;> rfl

@[simp] theorem bytes_muted (r : Received) : r.muted.bytes = r.bytes := by cases r <;> rfl

@[simp] theorem notices_muted (r : Received) : r.muted.notices = [] := by cases r <;> rfl

/-! ## Streams -/

/-- After all chunks of a body. -/
def feedAll (r : Received) (chunks : List Chunk) : Received :=
  chunks.foldl (fun r chunk => r.feed chunk.bytes) r

theorem whole_eq_finish (r : Received) (chunks : List Chunk) :
    r.whole chunks = (r.feedAll chunks).finish := rfl

/-- The chunks of a stream bring the lines of their bytes. -/
theorem feedAll_holding (l : Listeners) (chunks : List Chunk) {bytes rest : List UInt8}
    {ended : List (List UInt8)} (h : IsCut bytes ended rest) :
    ∃ ended' rest', IsCut (bytes ++ chunks.flatMap (·.bytes)) ended' rest' ∧
      feedAll (.execution l (.holding l ended rest)) chunks =
        .execution l (.holding l ended' rest') := by
  induction chunks generalizing bytes ended rest with
  | nil => exact ⟨ended, rest, by simpa using h, rfl⟩
  | cons chunk chunks ih =>
    obtain ⟨ended', rest', hc⟩ := exists_isCut (rest ++ chunk.bytes)
    obtain ⟨ended'', rest'', hcut, hall⟩ := ih (h.append hc)
    refine ⟨ended'', rest'', by rwa [List.flatMap_cons, ← List.append_assoc], ?_⟩
    have hfeed : (execution l (.holding l ended rest)).feed chunk.bytes =
        .execution l (.holding l (ended ++ ended') rest') :=
      congrArg (execution l) (Decoder.feed_holding h.newline_notMem_rest hc)
    rw [feedAll, List.foldl_cons, hfeed]
    exact hall

/-- What is received tells of some events: they make up the output, and the notices are those that
they cause. -/
def Tells (r : Received) (l : Listeners) (es : List Event) : Prop :=
  r.output = es.foldl Output.record .empty ∧ r.notices = es.filterMap (Event.notice? l)

theorem tells_of_progress {l : Listeners} {d : Decoder} {ls : List (List UInt8)}
    (h : d.progress = ls.foldl (Progress.line l) .empty) :
    (execution l d).Tells l (ls.filterMap Event.ofLine?) := by
  have hprogress : d.progress = _ := h.trans ((Progress.foldl_line l ls .empty).trans
    (Progress.foldl_record l _ .empty))
  exact ⟨congrArg Progress.output hprogress, congrArg Progress.notices hprogress⟩

/-- Behind all chunks the stream has told of the events of its ended lines, and behind its proper end
of those of all its lines. -/
theorem tells_stream (l : Listeners) (chunks : List Chunk) :
    (feedAll (.execution l .start) chunks).Tells l
        ((endedLines (chunks.flatMap (·.bytes))).filterMap Event.ofLine?) ∧
      (whole (.execution l .start) chunks).Tells l
        ((lines (chunks.flatMap (·.bytes))).filterMap Event.ofLine?) := by
  obtain ⟨ended, rest, hcut, hall⟩ := feedAll_holding l chunks (.rest List.not_mem_nil)
  rw [List.nil_append] at hcut
  have hall : feedAll (.execution l .start) chunks = .execution l (.holding l ended rest) := hall
  rw [whole_eq_finish, hall, hcut.endedLines_eq, filterMap_ofLine?_map_append_newline,
    filterMap_ofLine?_lines hcut]
  exact ⟨tells_of_progress rfl, tells_of_progress (Decoder.finish_holding l ended rest)⟩

/-- Notices that were given are never taken back. -/
theorem notices_prefix_feed (r : Received) (bytes : List UInt8) :
    r.notices <+: (r.feed bytes).notices := by
  cases r with
  | execution l d => exact Progress.notices_prefix_foldl_line l _ d.progress
  | _ => exact List.prefix_refl _

theorem notices_prefix_finish (r : Received) : r.notices <+: r.finish.notices := by
  cases r with
  | execution l d =>
    have hfinish : d.progress.notices <+: (d.finish l).notices := by
      unfold Decoder.finish
      cases d.buffer.rest? with
      | none => exact List.prefix_refl _
      | some line => exact Progress.notices_prefix_foldl_line l [line] d.progress
    exact hfinish
  | _ => exact List.prefix_refl _

end Received

/-- The events of the lines of a stream that is over: of all lines if it ended properly, of the ended
lines if it broke. -/
def Response.events? : Response → Option (List Event)
  | .answer 200 chunks .complete =>
    some ((lines (chunks.flatMap (·.bytes))).filterMap Event.ofLine?)
  | .answer 200 chunks .broken =>
    some ((endedLines (chunks.flatMap (·.bytes))).filterMap Event.ofLine?)
  | _ => none

end AgentSandbox

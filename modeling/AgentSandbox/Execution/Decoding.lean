import AgentSandbox.Error
import AgentSandbox.Execution.Lines
import AgentSandbox.Execution.Output

/-!
# Decoding an execution

The events of an execution arrive in one of two ways.  A reader is asked for bytes until it ends or
fails: `events` are those of the lines it gave, and a line that a failure cuts short does not count.
A stream delivers pieces: a `Decoder` takes them one by one, so that the listeners hear of a line as
soon as it is complete, and `decodePieces` runs it over a whole stream.  A stream that breaks leaves
the progress made so far and the reason.
-/

namespace AgentSandbox.Execution

/-! ## Readers -/

/-- What a reader answers when it is asked for bytes. -/
inductive Read where
  /-- Some bytes, or none if there are no more. -/
  | bytes (bytes : List UInt8)
  /-- Nothing yet; the reader is to be asked again. -/
  | interrupted
  | failure (reason : String)
  deriving DecidableEq

/-- The bytes end in a line that no newline ends. -/
def endsInLine (bytes : List UInt8) : Bool :=
  bytes.getLast?.any (· != newline)

/-- The lines of the bytes that are read already and of what a reader answers next.  An answer
without bytes ends the open line, and the reader is asked once more for the next one; if no line is
open, it ends the input. -/
def readLinesFrom (pending : List UInt8) : List Read → List (List UInt8)
  | [] => lines pending
  | .bytes [] :: rs =>
    if endsInLine pending then lines pending ++ readLinesFrom [] rs else lines pending
  | .bytes (b :: bs) :: rs => readLinesFrom (pending ++ b :: bs) rs
  | .interrupted :: rs => readLinesFrom pending rs
  | .failure _ :: _ => endedLines pending

/-- The lines that a reader gives. -/
def readLines (reads : List Read) : List (List UInt8) :=
  readLinesFrom [] reads

/-- The events that a reader gives. -/
def events (reads : List Read) : List Event :=
  (readLines reads).filterMap Event.ofLine?

/-- The progress after all the events that a reader gives. -/
def decodeReads (l : Listeners) (reads : List Read) : Progress :=
  (events reads).foldl (Progress.record l) .empty

/-! ## Streams -/

/-- The progress of a stream and the bytes of the line that is still incomplete. -/
structure Decoder where
  buffer : LineBuffer
  progress : Progress

namespace Decoder

/-- The decoder of a stream that has delivered nothing. -/
def start : Decoder := ⟨.empty, .empty⟩

/-- The decoder after one more piece: every line that is now complete is decoded. -/
def feed (l : Listeners) (d : Decoder) (piece : List UInt8) : Decoder :=
  let r := (d.buffer.push piece).drain
  ⟨r.2, r.1.foldl (Progress.line l) d.progress⟩

/-- The progress at the proper end of a stream: a last line without a newline is decoded, too. -/
def finish (l : Listeners) (d : Decoder) : Progress :=
  match d.buffer.rest? with
  | some line => d.progress.line l line
  | none => d.progress

end Decoder

/-- A stream, piece by piece: bytes, or the reason why it breaks. -/
abbrev Piece := Except String (List UInt8)

/-- The progress from a decoder to the end of a stream, and the reason if the stream breaks. -/
def decodeFrom (l : Listeners) : Decoder → List Piece → Progress × Option String
  | d, [] => (d.finish l, none)
  | d, .ok bytes :: pieces => decodeFrom l (d.feed l bytes) pieces
  | d, .error reason :: _ => (d.progress, some reason)

/-- The progress of a whole stream, and the reason if it breaks. -/
def decodePieces (l : Listeners) (pieces : List Piece) : Progress × Option String :=
  decodeFrom l .start pieces

/-- The output of a stream that ended properly, or the error of one that broke. -/
def streamOutput (r : Progress × Option String) : Except Error Output :=
  match r.2 with
  | none => .ok r.1.output
  | some reason => .error (.interrupted reason r.1.output)

end AgentSandbox.Execution

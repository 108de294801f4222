/-!
# Lines of bytes

`lines` cuts a finite sequence of bytes behind every newline.  `LineBuffer` does the same for bytes
that arrive in pieces of any size: `push` takes a piece, `next?` gives the first complete line
without its newline and remembers how far the bytes were searched, `drain` gives all complete lines,
and `rest?` is what is left at the end.
-/

namespace AgentSandbox.Execution

/-- The byte that ends a line. -/
def newline : UInt8 := 10

/-- The bytes up to and including the first newline, and the bytes behind it. -/
def cutLine : List UInt8 → List UInt8 × List UInt8
  | [] => ([], [])
  | b :: bs =>
    if b = newline then ([b], bs)
    else
      let r := cutLine bs
      (b :: r.1, r.2)

theorem length_cutLine_cons_lt (b : UInt8) (bs : List UInt8) :
    (cutLine (b :: bs)).2.length < (b :: bs).length := by
  induction bs generalizing b with
  | nil => unfold cutLine; split <;> simp [cutLine]
  | cons c cs ih =>
    unfold cutLine
    split
    · exact Nat.lt_succ_self _
    · exact Nat.lt_succ_of_lt (ih c)

/-- The lines of some bytes, each with the newline that ends it; the last one may have none. -/
def lines : List UInt8 → List (List UInt8)
  | [] => []
  | b :: bs => (cutLine (b :: bs)).1 :: lines (cutLine (b :: bs)).2
termination_by bytes => bytes.length
decreasing_by exact length_cutLine_cons_lt b bs

/-- The lines of some bytes that a newline ends. -/
def endedLines (bytes : List UInt8) : List (List UInt8) :=
  (lines bytes).filter fun line => line.getLast? == some newline

/-- Bytes that have arrived and are not yet given out as lines; the first `scanned` of them hold no
newline. -/
structure LineBuffer where
  bytes : List UInt8
  scanned : Nat
  deriving DecidableEq

namespace LineBuffer

/-- No bytes. -/
def empty : LineBuffer := ⟨[], 0⟩

/-- The buffer with a piece added at its end. -/
def push (b : LineBuffer) (piece : List UInt8) : LineBuffer :=
  { b with bytes := b.bytes ++ piece }

/-- The first complete line, without its newline, if there is one, and the buffer after it. -/
def next? (b : LineBuffer) : Option (List UInt8) × LineBuffer :=
  match (b.bytes.drop b.scanned).findIdx? (· == newline) with
  | none => (none, { b with scanned := b.bytes.length })
  | some offset =>
    (some (b.bytes.take (b.scanned + offset)), ⟨b.bytes.drop (b.scanned + offset + 1), 0⟩)

theorem length_next?_lt {b : LineBuffer} {line : List UInt8} (h : b.next?.1 = some line) :
    b.next?.2.bytes.length < b.bytes.length := by
  unfold next? at h ⊢
  split
  · next hn => rw [hn] at h; exact absurd h (by simp)
  · next offset ho =>
    have := (List.findIdx?_eq_some_iff_getElem.1 ho).choose
    simp only [List.length_drop] at this ⊢
    omega

/-- All complete lines, and the buffer after them. -/
def drain (b : LineBuffer) : List (List UInt8) × LineBuffer :=
  match h : b.next?.1 with
  | none => ([], b.next?.2)
  | some line =>
    have := length_next?_lt h
    let r := drain b.next?.2
    (line :: r.1, r.2)
termination_by b.bytes.length

/-- The bytes of a last line without a newline, if there are any. -/
def rest? (b : LineBuffer) : Option (List UInt8) :=
  if b.bytes.isEmpty then none else some b.bytes

end LineBuffer

end AgentSandbox.Execution

import SqlScript.Bytes

namespace SqlScript

inductive FailureKind
  | connectionReset
  | brokenPipe
  | wouldBlock
  | timedOut
  | unexpectedEnd
  | invalidData
  | permissionDenied
  | other
  deriving DecidableEq, Repr

def FailureKind.text : FailureKind → String
  | .connectionReset => "connection reset"
  | .brokenPipe => "broken pipe"
  | .wouldBlock => "operation would block"
  | .timedOut => "timed out"
  | .unexpectedEnd => "unexpected end of file"
  | .invalidData => "invalid data"
  | .permissionDenied => "permission denied"
  | .other => "other error"

/-- What one read of the input gives. No bytes mean the end of input; after an interruption the
read is made again. -/
inductive Read
  | data (bytes : Bytes)
  | interrupted
  | failed (cause : String)
  deriving DecidableEq, Repr

/-- A read that fails, with the text of its kind unless it has one of its own. -/
def Read.failure (kind : FailureKind) (message? : Option String) : Read :=
  .failed (message?.getD kind.text)

/-- The reads of an input in order; after the last one the input is at its end. -/
abbrev Source := List Read

/-- An input that gives all its bytes in one read. -/
def Source.ofBytes (bytes : Bytes) : Source := if bytes.isEmpty then [] else [.data bytes]

def Source.giveBack (bytes : Bytes) (source : Source) : Source :=
  if bytes.isEmpty then source else .data bytes :: source

/-- The pieces of at most `capacity` bytes that bytes come in, after those already cut, which come
last one first. -/
def piecesAfter (capacity : Nat) (cut : List Bytes) (bytes : Bytes) : List Bytes :=
  if capacity = 0 ∨ bytes.drop capacity = [] then (bytes :: cut).reverse
  else piecesAfter capacity (bytes.take capacity :: cut) (bytes.drop capacity)
termination_by bytes.length
decreasing_by
  simp only [List.drop_eq_nil_iff, not_or] at *
  simp only [List.length_drop]
  omega

theorem piecesAfter_flatten (capacity : Nat) (cut : List Bytes) (bytes : Bytes) :
    (piecesAfter capacity cut bytes).flatten = cut.reverse.flatten ++ bytes := by
  fun_induction piecesAfter capacity cut bytes with
  | case1 => simp
  | case2 _ _ _ ih => simp [ih]

/-- A read through a buffer takes as many reads as the buffer must be filled for it. -/
def Read.buffered (capacity : Nat) : Read → Source
  | .data bytes => (piecesAfter capacity [] bytes).map .data
  | .interrupted => [.interrupted]
  | .failed cause => [.failed cause]

/-- An input seen through a buffer. Nothing can be read through one that holds no bytes. -/
def Source.buffered (capacity : Nat) (source : Source) : Source :=
  if capacity = 0 then [] else source.flatMap (Read.buffered capacity)

end SqlScript

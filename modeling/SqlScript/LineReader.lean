import SqlScript.Failure
import SqlScript.Log
import SqlScript.Source

namespace SqlScript

/-- Looks for a line feed: the bytes before it, put on `gathered` last one first, and the bytes
after it, if there is one. -/
def cutLine (gathered : Bytes) : Bytes → Bytes × Option Bytes
  | [] => (gathered, none)
  | lineFeed :: rest => (gathered, some rest)
  | b :: rest => cutLine (b :: gathered) rest

/-- A line from its bytes, last one first, without the carriage return of its line end. -/
def lineOfGathered : Bytes → Bytes
  | carriageReturn :: gathered => gathered.reverse
  | gathered => gathered.reverse

/-- How a search for the end of a line came out, with the line or what there was of one. -/
inductive LineEnd
  | found (line : Bytes) (rest : Source)
  | inputEnded (tail : Bytes)
  | inputFailed (tail : Bytes) (cause : String)

/-- Reads up to the end of a line of which the bytes in `gathered`, last one first, have been
read. -/
def gatherLine (gathered : Bytes) : Source → LineEnd
  | [] => .inputEnded gathered.reverse
  | .interrupted :: source => gatherLine gathered source
  | .failed cause :: _ => .inputFailed gathered.reverse cause
  | .data [] :: _ => .inputEnded gathered.reverse
  | .data (b :: bytes) :: source =>
    match cutLine gathered (b :: bytes) with
    | (gathered, some rest) => .found (lineOfGathered gathered) (Source.giveBack rest source)
    | (gathered, none) => gatherLine gathered source

/-- What is left for a line reader to do: to read on, to tell of a failure, or nothing. -/
inductive LinePhase
  | reading (source : Source)
  | failing (cause : String)
  | ended

structure LineReader where
  phase : LinePhase
  linesRead : Nat

def LineReader.ofSource (source : Source) : LineReader := ⟨.reading source, 0⟩

/-- No line is read any more from an input that has ended or failed. -/
def LineReader.isFinished (reader : LineReader) : Bool :=
  match reader.phase with
  | .reading _ => false
  | _ => true

/-- A line, the end of input or a failure, with what there is to log and the reader behind it. -/
structure LineRead where
  line : Except Failure (Option Bytes)
  log : List LogEntry
  reader : LineReader

/-- The next line without its end; a failure comes after what there is of its line, once and for
all. -/
def LineReader.next (reader : LineReader) : LineRead :=
  let count := reader.linesRead
  match reader.phase with
  | .ended => ⟨.ok none, [], ⟨.ended, count⟩⟩
  | .failing cause => ⟨.error (.unread cause), [], ⟨.ended, count⟩⟩
  | .reading source =>
    match gatherLine [] source with
    | .found line rest => ⟨.ok (some line), [], ⟨.reading rest, count + 1⟩⟩
    | .inputEnded [] => ⟨.ok none, [], ⟨.ended, count⟩⟩
    | .inputEnded tail => ⟨.ok (some tail), [], ⟨.ended, count + 1⟩⟩
    | .inputFailed [] cause =>
      ⟨.error (.unread cause), [.readFailed count cause], ⟨.ended, count⟩⟩
    | .inputFailed tail cause =>
      ⟨.ok (some tail), [.readFailed count cause], ⟨.failing cause, count + 1⟩⟩

/-- A bound on the bytes and the reads left in an input. -/
def Source.weight : Source → Nat
  | [] => 0
  | .data bytes :: source => bytes.length + 1 + Source.weight source
  | _ :: source => 1 + Source.weight source

/-- A bound on the bytes and the reads left for a line reader. -/
def LineReader.weight (reader : LineReader) : Nat :=
  match reader.phase with
  | .reading source => Source.weight source
  | _ => 0

theorem cutLine_some {gathered bytes line rest : Bytes}
    (h : cutLine gathered bytes = (line, some rest)) :
    line.length + rest.length + 1 = gathered.length + bytes.length := by
  fun_induction cutLine gathered bytes with
  | case1 => simp at h
  | case2 => cases h; simp only [List.length_cons]; omega
  | case3 _ _ _ _ ih => have := ih h; simp only [List.length_cons] at this ⊢; omega

theorem cutLine_none {gathered bytes line : Bytes} (h : cutLine gathered bytes = (line, none)) :
    line = bytes.reverse ++ gathered := by
  fun_induction cutLine gathered bytes with
  | case1 => simpa using h.symm
  | case2 => simp at h
  | case3 _ _ _ _ ih => simp [ih h]

theorem lineOfGathered_length (gathered : Bytes) :
    (lineOfGathered gathered).length ≤ gathered.length := by
  unfold lineOfGathered
  split <;> simp

theorem Source.giveBack_weight (bytes : Bytes) (source : Source) :
    Source.weight (Source.giveBack bytes source) ≤ bytes.length + 1 + Source.weight source := by
  unfold giveBack
  split
  · omega
  · simp [weight]

theorem gatherLine_found {gathered line : Bytes} {source rest : Source}
    (h : gatherLine gathered source = .found line rest) :
    line.length + Source.weight rest < gathered.length + Source.weight source := by
  fun_induction gatherLine gathered source with
  | case1 => simp at h
  | case2 _ _ ih => have := ih h; simp only [Source.weight]; omega
  | case3 => simp at h
  | case4 => simp at h
  | case5 gathered b bytes source gathered' rest' hcut =>
    cases h
    have hc := cutLine_some hcut
    have hl := lineOfGathered_length gathered'
    have hw := Source.giveBack_weight rest' source
    simp only [Source.weight]
    omega
  | case6 gathered b bytes source gathered' hcut ih =>
    have := ih h
    rw [cutLine_none hcut] at this
    simp only [List.length_append, List.length_reverse, Source.weight] at this ⊢
    omega

theorem gatherLine_tail {gathered tail : Bytes} {source : Source}
    (h : gatherLine gathered source = .inputEnded tail ∨
      ∃ cause, gatherLine gathered source = .inputFailed tail cause) :
    tail = gathered.reverse ∨ tail.length < gathered.length + Source.weight source := by
  fun_induction gatherLine gathered source with
  | case1 | case3 | case4 => left; simpa [eq_comm] using h
  | case2 _ _ ih =>
    rcases ih h with h | h
    · exact .inl h
    · right; simp only [Source.weight]; omega
  | case5 => simp at h
  | case6 gathered b bytes source gathered' hcut ih =>
    right
    have hlen := congrArg List.length (cutLine_none hcut)
    simp only [List.length_append, List.length_reverse] at hlen
    rcases ih h with h | h
    · simp only [h, List.length_reverse, Source.weight]; omega
    · simp only [Source.weight]; omega

theorem LineReader.next_weight_le (reader : LineReader) :
    reader.next.reader.weight ≤ reader.weight := by
  obtain ⟨phase, count⟩ := reader
  cases phase with
  | ended => simp [next, weight]
  | failing => simp [next, weight]
  | reading source =>
    simp only [next]
    split
    · next hg => have := gatherLine_found hg; simp only [weight, List.length_nil] at this ⊢; omega
    all_goals simp [weight]

/-- Every line read pays for its bytes out of the input. -/
theorem LineReader.next_weight {reader : LineReader} {line : Bytes}
    (h : reader.next.line = .ok (some line)) :
    line.length + reader.next.reader.weight < reader.weight := by
  obtain ⟨phase, count⟩ := reader
  cases phase with
  | ended => simp [next] at h
  | failing => simp [next] at h
  | reading source =>
    simp only [next, weight] at h ⊢
    split at h <;> try simp at h
    · next hg => subst h; simpa [hg] using gatherLine_found hg
    · next tail hne hg =>
      subst h
      rcases gatherLine_tail (.inl hg) with ht | ht
      · exact absurd ht hne
      · simpa [hg] using ht
    · next tail cause hne hg =>
      subst h
      rcases gatherLine_tail (.inr ⟨cause, hg⟩) with ht | ht
      · exact absurd ht hne
      · simpa [hg] using ht

end SqlScript

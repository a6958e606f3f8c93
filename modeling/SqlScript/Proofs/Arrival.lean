import SqlScript.Describe
import SqlScript.Proofs.Merging

namespace SqlScript

theorem piecesAfter_ne_nil {capacity : Nat} {cut : List Bytes} {bytes : Bytes}
    (hc : capacity ≠ 0) (hcut : [] ∉ cut) (hb : bytes ≠ []) :
    [] ∉ piecesAfter capacity cut bytes := by
  fun_induction piecesAfter capacity cut bytes with
  | case1 cut bytes =>
    intro hm
    rcases List.mem_cons.mp (List.mem_reverse.mp hm) with he | hm
    · exact hb he.symm
    · exact hcut hm
  | case2 cut bytes h ih =>
    refine ih ?_ (fun he => h (.inr he))
    intro hm
    rcases List.mem_cons.mp hm with he | hm
    · rcases List.take_eq_nil_iff.mp he.symm with hz | hn
      · exact hc hz
      · exact hb hn
    · exact hcut hm

theorem Source.bytes_pieces {pieces : List Bytes} (source : Source) (h : [] ∉ pieces) :
    Source.bytes (pieces.map .data ++ source) = pieces.flatten ++ Source.bytes source := by
  induction pieces with
  | nil => rfl
  | cons piece pieces ih =>
    rw [List.mem_cons, not_or] at h
    cases piece with
    | nil => exact absurd rfl h.1
    | cons b piece => simp [Source.bytes, ih h.2]

theorem Source.failure?_pieces {pieces : List Bytes} (source : Source) (h : [] ∉ pieces) :
    Source.failure? (pieces.map .data ++ source) = Source.failure? source := by
  induction pieces with
  | nil => rfl
  | cons piece pieces ih =>
    rw [List.mem_cons, not_or] at h
    cases piece with
    | nil => exact absurd rfl h.1
    | cons b piece => exact ih h.2

/-- A buffer changes how an input is cut and nothing else. -/
theorem Source.buffered_same {capacity : Nat} (hc : capacity ≠ 0) (source : Source) :
    Source.bytes (Source.buffered capacity source) = Source.bytes source ∧
      Source.failure? (Source.buffered capacity source) = Source.failure? source := by
  have hflat : Source.buffered capacity source = source.flatMap (Read.buffered capacity) :=
    if_neg hc
  rw [hflat]
  clear hflat
  induction source with
  | nil => exact ⟨rfl, rfl⟩
  | cons read source ih =>
    rw [List.flatMap_cons]
    cases read with
    | interrupted => exact ih
    | failed cause => exact ⟨rfl, rfl⟩
    | data bytes =>
      cases bytes with
      | nil =>
        have hone : piecesAfter capacity [] [] = [[]] := by simp [piecesAfter]
        rw [Read.buffered, hone]
        exact ⟨rfl, rfl⟩
      | cons b bytes =>
        have hp : [] ∉ piecesAfter capacity [] (b :: bytes) :=
          piecesAfter_ne_nil hc List.not_mem_nil (List.cons_ne_nil b bytes)
        rw [Read.buffered, bytes_pieces _ hp, failure?_pieces _ hp, piecesAfter_flatten, ih.1, ih.2]
        exact ⟨rfl, rfl⟩

theorem Source.buffered_merged {capacity : Nat} (hc : capacity ≠ 0) (source : Source) :
    Source.merged (Source.buffered capacity source) = Source.merged source := by
  obtain ⟨hb, hf⟩ := buffered_same hc source
  rw [Source.merged, hb, hf, Source.merged]

theorem ScriptReader.opened_merged (access : Access) (source : Source) {settings : Settings}
    (hc : settings.capacity ≠ 0) :
    (ScriptReader.opened access source settings).merged =
      .unbuffered (Source.merged source) settings := by
  cases access with
  | direct => rfl
  | buffered =>
    rw [← Source.buffered_merged hc source]
    rfl

/-- What a request shows: the answer, and what may be asked of the reader after it. -/
structure Observation where
  answer : Pulled
  lineNumber : Nat
  delimiter : Bytes
  failure : Option Failure
  description : String
  log : Array LogEntry

def ScriptReader.observe (reader : ScriptReader) : List Pull → List Observation
  | [] => []
  | request :: requests =>
    let (answer, reader) := reader.pull request
    ⟨answer, reader.lineNumber, reader.delimiter, reader.failure, reader.describe, reader.log⟩ ::
      reader.observe requests

theorem ScriptReader.AnswerMapOn.observe {P : ScriptReader → Prop}
    {f : ScriptReader → ScriptReader} (h : AnswerMapOn P f)
    (shown : ∀ reader answer, Observation.mk answer (f reader).lineNumber (f reader).delimiter
        (f reader).failure (f reader).describe (f reader).log =
      .mk answer reader.lineNumber reader.delimiter reader.failure reader.describe reader.log)
    {reader : ScriptReader} (hp : P reader) (requests : List Pull) :
    (f reader).observe requests = reader.observe requests := by
  induction requests generalizing reader with
  | nil => rfl
  | cons request requests ih =>
    simp only [ScriptReader.observe, h.pull hp, shown, ih (h.kept.pull hp request)]

theorem ScriptReader.observe_merged (reader : ScriptReader) (requests : List Pull) :
    reader.merged.observe requests = reader.observe requests :=
  merged_answerMap.onAll.observe (fun _ _ => rfl) trivial requests

/-- Inputs with the same bytes before the same end are read alike, in whatever pieces and through
whatever buffer. -/
theorem observe_same_of_same_bytes {first second : Source}
    (bytes : Source.bytes first = Source.bytes second)
    (failure : Source.failure? first = Source.failure? second)
    (settings : Settings) {firstCapacity secondCapacity : Nat}
    (firstHolds : 1 ≤ firstCapacity) (secondHolds : 1 ≤ secondCapacity)
    (firstAccess secondAccess : Access) (requests : List Pull) :
    let reader := ScriptReader.opened firstAccess first
      { settings with capacity := firstCapacity }
    let other := ScriptReader.opened secondAccess second
      { settings with capacity := secondCapacity }
    reader.observe requests = other.observe requests ∧
      (reader.pulls requests).2.outcome = (other.pulls requests).2.outcome := by
  intro reader other
  have hsource : Source.merged first = Source.merged second := by
    rw [Source.merged, bytes, failure, Source.merged]
  have hreader : reader.merged = .unbuffered (Source.merged first) settings :=
    ScriptReader.opened_merged firstAccess first (Nat.ne_of_gt firstHolds)
  have hother : other.merged = .unbuffered (Source.merged second) settings :=
    ScriptReader.opened_merged secondAccess second (Nat.ne_of_gt secondHolds)
  have same : reader.merged = other.merged := by rw [hreader, hother, hsource]
  constructor
  · rw [← reader.observe_merged, same, other.observe_merged]
  · rw [← ScriptReader.outcome_merged, ← (other.pulls requests).2.outcome_merged]
    have hpulls := congrArg (fun one => (ScriptReader.pulls one requests).2) same
    simp only [ScriptReader.pulls_merged] at hpulls
    rw [hpulls]

/-- A line end cut in two between reads, with an interruption there, and more reads after the
failure. -/
theorem observe_same_lineEnd_cut :
    let first : Source := [.data (Bytes.ofText "a;b\r"), .interrupted, .data (Bytes.ofText "\nc"),
      .failed "gone", .data (Bytes.ofText "d;")]
    let second : Source := [.data (Bytes.ofText "a;b\r\nc"), .failed "gone"]
    let requests : List Pull := [.next, .advance, .advance, .take, .rest]
    let reader := ScriptReader.opened .direct first { (default : Settings) with capacity := 1 }
    let other := ScriptReader.opened .buffered second { (default : Settings) with capacity := 2 }
    Source.bytes first = Source.bytes second ∧ Source.failure? first = Source.failure? second ∧
      reader.observe requests = other.observe requests ∧
      (reader.pulls requests).2.outcome = (other.pulls requests).2.outcome := by
  intro first second requests reader other
  have bytes : Source.bytes first = Source.bytes second := by decide
  have failure : Source.failure? first = Source.failure? second := by decide
  exact ⟨bytes, failure, observe_same_of_same_bytes bytes failure default (by decide) (by decide)
    .direct .buffered requests⟩

end SqlScript

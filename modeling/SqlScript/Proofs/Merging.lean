import SqlScript.Proofs.InputMaps

namespace SqlScript

/-- The bytes of an input up to its end or its failure. -/
def Source.bytes : Source → Bytes
  | [] => []
  | .interrupted :: source => Source.bytes source
  | .failed _ :: _ => []
  | .data [] :: _ => []
  | .data (b :: bytes) :: source => b :: bytes ++ Source.bytes source

/-- The failure in place of the end of an input, if there is one. -/
def Source.failure? : Source → Option String
  | [] => none
  | .interrupted :: source => Source.failure? source
  | .failed cause :: _ => some cause
  | .data [] :: _ => none
  | .data (_ :: _) :: source => Source.failure? source

/-- An input that gives all its bytes in one read. -/
def Source.merged (source : Source) : Source :=
  giveBack (Source.bytes source) ((Source.failure? source).map Read.failed).toList

theorem Source.giveBack_merged (bytes : Bytes) (source : Source) :
    Source.merged (giveBack bytes source) =
      giveBack (bytes ++ Source.bytes source)
        ((Source.failure? source).map Read.failed).toList := by
  cases bytes with
  | nil => rfl
  | cons b bytes => rfl

theorem cutLine_append (gathered before after : Bytes) :
    cutLine gathered (before ++ after) =
      match cutLine gathered before with
      | (gathered', some rest) => (gathered', some (rest ++ after))
      | (gathered', none) => cutLine gathered' after := by
  fun_induction cutLine gathered before with
  | case1 => rfl
  | case2 => rfl
  | case3 gathered b rest hb ih =>
    rw [List.cons_append, cutLine, ih]
    exact hb

theorem gatherLine_giveBack_append (gathered before after : Bytes) (source : Source) :
    gatherLine gathered (Source.giveBack (before ++ after) source) =
      match cutLine gathered before with
      | (gathered', some rest) =>
        .found (lineOfGathered gathered') (Source.giveBack (rest ++ after) source)
      | (gathered', none) => gatherLine gathered' (Source.giveBack after source) := by
  cases before with
  | nil => rfl
  | cons b before =>
    have hleft : gatherLine gathered (Source.giveBack (b :: before ++ after) source) =
        match cutLine gathered (b :: before ++ after) with
        | (gathered', some rest) => .found (lineOfGathered gathered') (Source.giveBack rest source)
        | (gathered', none) => gatherLine gathered' source := rfl
    rw [hleft, cutLine_append]
    obtain ⟨gathered', rest?⟩ := cutLine gathered (b :: before)
    cases rest? with
    | some rest => rfl
    | none => cases after <;> rfl

def LineEnd.merged : LineEnd → LineEnd
  | .found line rest => .found line (Source.merged rest)
  | .inputEnded tail => .inputEnded tail
  | .inputFailed tail cause => .inputFailed tail cause

theorem gatherLine_merged (gathered : Bytes) (source : Source) :
    gatherLine gathered (Source.merged source) = (gatherLine gathered source).merged := by
  fun_induction gatherLine gathered source with
  | case1 => rfl
  | case2 gathered source ih => exact ih
  | case3 => rfl
  | case4 => rfl
  | case5 gathered b bytes source gathered' rest hcut =>
    rw [Source.merged, Source.bytes, Source.failure?, gatherLine_giveBack_append, hcut,
      LineEnd.merged, Source.giveBack_merged]
  | case6 gathered b bytes source gathered' hcut ih =>
    rw [Source.merged, Source.bytes, Source.failure?, gatherLine_giveBack_append, hcut]
    exact ih

def LinePhase.merged : LinePhase → LinePhase
  | .reading source => .reading (Source.merged source)
  | .failing cause => .failing cause
  | .ended => .ended

def LineReader.merged (reader : LineReader) : LineReader :=
  { reader with phase := reader.phase.merged }

theorem LineReader.next_merged (reader : LineReader) :
    reader.merged.next = { reader.next with reader := reader.next.reader.merged } := by
  obtain ⟨phase, count⟩ := reader
  cases phase with
  | ended => rfl
  | failing cause => rfl
  | reading source =>
    simp only [merged, LinePhase.merged, next, gatherLine_merged]
    cases gatherLine [] source with
    | found line rest => rfl
    | inputEnded tail => cases tail <;> rfl
    | inputFailed tail cause => cases tail <;> rfl

/-- A reader that finds what is left of its input in one read. -/
def ScriptReader.merged (reader : ScriptReader) : ScriptReader :=
  { reader with lines := reader.lines.merged }

theorem ScriptReader.pullLine_merged (reader : ScriptReader) :
    reader.merged.pullLine = reader.pullLine.merged := by
  have hnext := reader.lines.next_merged
  simp only [pullLine, merged, hnext]
  split <;> rfl

theorem ScriptReader.askFailure_merged (reader : ScriptReader) :
    reader.merged.askFailure = (reader.askFailure.1, reader.askFailure.2.merged) := by
  have hinput : reader.merged.input = reader.input := rfl
  simp only [askFailure, hinput]
  split <;> rfl

/-- How the input is cut shows in no answer. -/
theorem ScriptReader.merged_answerMap : AnswerMap ScriptReader.merged where
  escape _ := rfl
  draft _ := rfl
  ready _ := rfl
  withDraft _ _ := rfl
  taken _ := rfl
  hold _ _ := rfl
  holdDirective _ _ := rfl
  reading _ hi := hi
  ended _ failure _ hi := ⟨failure, hi⟩
  pullLine := pullLine_merged
  ask := askFailure_merged

theorem ScriptReader.pulls_merged (reader : ScriptReader) (requests : List Pull) :
    reader.merged.pulls requests =
      ((reader.pulls requests).1, (reader.pulls requests).2.merged) :=
  merged_answerMap.pulls reader requests

theorem ScriptReader.outcome_merged (reader : ScriptReader) :
    reader.merged.outcome = reader.outcome := by
  rw [outcome, merged_answerMap.drain]
  rfl

end SqlScript

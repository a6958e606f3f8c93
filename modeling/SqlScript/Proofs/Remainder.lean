import SqlScript.Proofs.Refinement

namespace SqlScript

/-- Whether only the end of input can have ended a statement: it is SQL, and no delimiter stands in
it in bare SQL. -/
def Statement.isUnended (escape : Option UInt8) (delimiter : Bytes) (statement : Statement) :
    Bool :=
  statement.kind == .sql && (cutText escape delimiter .code statement.bytes).isNone

theorem Statement.isUnended_of_cut {escape : Option UInt8} {delimiter text cut after : Bytes}
    (h : cutText escape delimiter .code text = some (cut, after)) (first last : Nat) :
    isUnended escape delimiter ⟨cut, first, last, .sql⟩ = false := by
  simp [isUnended, cutText_of_cut h]

/-- The statement that a reader has left over when its input ends, if there is one. -/
def ScriptReader.remainder? (reader : ScriptReader) : Option Statement :=
  reader.drain.1.getLast?.filter
    (Statement.isUnended (usableEscape reader.escape) (usableDelimiter reader.drain.2.delimiter))

/-- The statements of a reader that have an end of their own. -/
def ScriptReader.completed (reader : ScriptReader) : List Statement :=
  if reader.remainder?.isSome then reader.drain.1.dropLast else reader.drain.1

theorem ScriptReader.completed_append_remainder (reader : ScriptReader) :
    reader.completed ++ reader.remainder?.toList = reader.drain.1 := by
  unfold completed
  cases hr : reader.remainder? with
  | none => simp
  | some statement =>
    have hlast := (Option.filter_eq_some_iff.mp hr).1
    simpa using List.dropLast_append_getLast? statement hlast

/-- What a reader knows of a statement that has begun: scanned from its start it would come to the
same. -/
structure ScriptReader.Rescannable (reader : ScriptReader) : Prop where
  begun : reader.draft.scanned ≠ [] → ∀ text, AtLineEnd text →
    cutText (usableEscape reader.escape) (usableDelimiter reader.draft.delimiter) .code
        (reader.draft.bytes ++ text) =
      keep reader.draft.bytes
        (cutText (usableEscape reader.escape) (usableDelimiter reader.draft.delimiter)
          reader.draft.context.inText text)
  ended : reader.isExhausted = true → reader.draft.pending = none

theorem ScriptReader.isExhausted_of_pending {reader : ScriptReader} {line : Bytes}
    (h : reader.Rescannable) (hp : reader.draft.pending = some line) :
    reader.isExhausted = false := by
  cases he : reader.isExhausted with
  | false => rfl
  | true => simp [h.ended he] at hp

/-- The text of a statement and a line that goes on with it is cut where the scan of the line ends
the statement. -/
theorem ScriptReader.Rescannable.cutText_onLine {reader : ScriptReader} {line text : Bytes}
    (h : reader.Rescannable) (sound : reader.Sound) (hp : reader.draft.pending = some line)
    (ht : AtLineEnd text) :
    cutText (usableEscape reader.escape) (usableDelimiter reader.draft.delimiter) .code
        (reader.draft.onLine.scanned.reverse ++ (line ++ text)) =
      (scan reader.escape reader.draft.delimiter reader.draft.onLine.scanned reader.draft.context
        line).inText reader.escape reader.draft.delimiter text := by
  have hl := sound.draft.pending line hp
  rw [← cutText_eq_scan reader.escape reader.draft.delimiter _ _ hl ht]
  by_cases hs : reader.draft.scanned = []
  · rw [Draft.onLine_of_idle hs, sound.code hs (.inl (by simp [hp]))]
    simp [hs, Context.inText]
  · have hnext : AtLineEnd (lineFeed :: (line ++ text)) := .inr ⟨_, rfl⟩
    have hbegun := h.begun hs _ hnext
    rw [cutText_lineFeed, keep_keep] at hbegun
    rw [Draft.onLine_of_begun hs, List.reverse_cons, List.append_assoc]
    exact hbegun

theorem ScriptReader.Rescannable.of_idle {reader : ScriptReader}
    (hs : reader.draft.scanned = [])
    (ended : reader.isExhausted = true → reader.draft.pending = none) : reader.Rescannable :=
  ⟨fun hb => absurd hs hb, ended⟩

theorem ScriptReader.Rescannable.step {reader : ScriptReader} (h : reader.Rescannable)
    (sound : reader.Sound) : reader.step.reader.Rescannable := by
  have hs := reader.stepOf
  generalize reader.step = result at hs ⊢
  cases hs with
  | directive pending idle code parsed => exact .of_idle rfl fun _ => rfl
  | delimiter pending plain cut =>
    refine .of_idle rfl fun he => ?_
    have hended : reader.isExhausted = true := he
    simp [isExhausted_of_pending h pending] at hended
  | @lineEnd line scanned context pending plain cut =>
    refine ⟨fun _ text ht => ?_, fun _ => rfl⟩
    have hscan := h.cutText_onLine sound pending ht
    rw [cut, ScanEnd.inText, ← List.append_assoc] at hscan
    have hbytes : scanned.reverse = reader.draft.onLine.scanned.reverse ++ line := by
      simp [scan_lineEnd_scanned cut]
    rw [← hbytes] at hscan
    change cutText (usableEscape reader.escape) (usableDelimiter reader.draft.onLine.delimiter)
        .code (scanned.reverse ++ text) =
      keep scanned.reverse (cutText (usableEscape reader.escape)
        (usableDelimiter reader.draft.onLine.delimiter) context.inText text)
    rwa [reader.draft.onLine_delimiter]
  | line pending input read =>
    refine ⟨h.begun, fun he => ?_⟩
    simp [Step.reader, isExhausted, input] at he
  | inputEnd failure pending input read => exact ⟨h.begun, fun _ => pending⟩
  | remainder pending input begun => exact .of_idle rfl fun _ => pending
  | nothingLeft pending input idle => exact .of_idle idle fun _ => pending

/-- A statement is unended exactly where the end of input has made it. -/
theorem ScriptReader.Rescannable.isUnended_found {reader next : ScriptReader}
    {statement : Statement} (h : reader.Rescannable) (sound : reader.Sound)
    (hs : reader.step = .found next) (hr : next.ready = some statement) :
    statement.isUnended (usableEscape next.escape) (usableDelimiter next.delimiter) =
      next.isExhausted := by
  have hstep := reader.stepOf
  rw [hs] at hstep
  cases hstep with
  | directive pending idle code parsed =>
    cases hr
    exact (isExhausted_of_pending h pending).symm
  | @delimiter line scanned rest pending plain cut =>
    cases hr
    have hscan := h.cutText_onLine sound pending (.inl rfl)
    rw [cut, ScanEnd.inText] at hscan
    have hended := Statement.isUnended_of_cut hscan reader.draft.onLine.firstLine
      reader.draft.lineNumber
    change Statement.isUnended (usableEscape reader.escape)
      (usableDelimiter reader.draft.onLine.delimiter) _ = reader.isExhausted
    rw [reader.draft.onLine_delimiter, hended, isExhausted_of_pending h pending]
  | remainder pending input begun =>
    cases hr
    have hcut := h.begun begun [] (.inl rfl)
    rw [List.append_nil, cutText_nil, keep_none] at hcut
    have hended : reader.isExhausted = true := by simp [isExhausted, input]
    change Statement.isUnended (usableEscape reader.escape) (usableDelimiter reader.draft.delimiter)
      ⟨reader.draft.bytes, _, _, .sql⟩ = reader.isExhausted
    simp [Statement.isUnended, hcut, hended]

end SqlScript

import SqlScript.Proofs.AtRest
import SqlScript.Proofs.History

namespace SqlScript

/-- How many lines of an input a line feed ends. -/
def Source.linesEnded (source : Source) : Nat := (Source.bytes source).count lineFeed

/-- What tells of a statement: where it is a directive, the delimiter that it sets, and then that it
is ready. -/
def Statement.entries (statement : Statement) : List LogEntry :=
  (match statement.kind with
    | .sql => []
    | .directive =>
      [.delimiterChanged statement.lastLine ((newDelimiter? statement.bytes).getD [])]) ++
    [.statementReady statement.firstLine statement.lastLine statement.length]

namespace LineReader

/-- What tells of the failure that may have ended the reading, after so many ended lines. -/
def warnings (ended : Nat) (failure : Option String) (reader : LineReader) : List LogEntry :=
  if reader.isFinished then failure.toList.map (.readFailed ended) else []

/-- As long as it reads, a reader goes on to this failure or end, and has then read so many ended
lines. -/
def GoesTo (ended : Nat) (failure : Option String) (reader : LineReader) : Prop :=
  ∀ source, reader.phase = .reading source →
    reader.linesRead + Source.linesEnded source = ended ∧ Source.failure? source = failure

variable {ended : Nat} {failure : Option String} {reader : LineReader}

theorem GoesTo.of_finished (h : reader.isFinished = true) : reader.GoesTo ended failure := by
  intro source hp
  simp [isFinished, hp] at h

theorem warnings_of_finished (h : reader.isFinished = true) :
    reader.warnings ended failure = failure.toList.map (.readFailed ended) := if_pos h

theorem warnings_of_reading (h : reader.isFinished = false) :
    reader.warnings ended failure = [] := if_neg (by simp [h])

theorem next_of_finished (h : reader.isFinished = true) :
    reader.next.log = [] ∧ reader.next.reader.isFinished = true ∧
      ∀ line, reader.next.line ≠ .ok (some line) := by
  obtain ⟨phase, count⟩ := reader
  cases phase with
  | reading source => simp [isFinished] at h
  | failing cause => exact ⟨rfl, rfl, by simp [next]⟩
  | ended => exact ⟨rfl, rfl, by simp [next]⟩

/-- Where no line feed is left, the next line is the last one, if there is one, and the failure is
told of. -/
theorem next_of_notMem {source : Source} (count : Nat) (h : lineFeed ∉ Source.bytes source) :
    let read := (LineReader.mk (.reading source) count).next
    read.log = (Source.failure? source).toList.map (.readFailed count) ∧
      read.reader.isFinished = true ∧
      ∀ line, read.line = .ok (some line) → read.reader.linesRead = count + 1 := by
  have hg := gatherLine_of_notMem h
  cases hf : Source.failure? source <;> cases hb : Source.bytes source <;>
    simp [next, hg, hf, hb, isFinished]

/-- The failure is told of with the read that fails. A line that is got with it is the first that no
line feed ends. -/
theorem GoesTo.next (h : reader.GoesTo ended failure) :
    reader.next.reader.GoesTo ended failure ∧
      reader.warnings ended failure ++ reader.next.log = reader.next.reader.warnings ended failure ∧
      ∀ line, reader.next.line = .ok (some line) →
        (reader.next.reader.isFinished = true ↔ ended < reader.next.reader.linesRead) := by
  cases hfinished : reader.isFinished with
  | true =>
    obtain ⟨hlog, hnext, hline⟩ := next_of_finished hfinished
    rw [hlog, warnings_of_finished hfinished, warnings_of_finished hnext, List.append_nil]
    exact ⟨.of_finished hnext, rfl, fun line hl => absurd hl (hline line)⟩
  | false =>
    rw [warnings_of_reading hfinished, List.nil_append]
    obtain ⟨phase, count⟩ := reader
    cases phase with
    | failing cause => simp [isFinished] at hfinished
    | ended => simp [isFinished] at hfinished
    | reading source =>
      obtain ⟨hended, hfailure⟩ := h source rfl
      change count + (Source.bytes source).count lineFeed = ended at hended
      by_cases hl : lineFeed ∈ Source.bytes source
      · obtain ⟨piece, rest, hpiece, htext⟩ := exists_lines_of_mem hl
        obtain ⟨after, hnext, hbytes, hsame⟩ := next_of_lineFeed count hpiece htext
        rw [htext, List.count_append, List.count_eq_zero_of_not_mem hpiece, List.count_cons_self]
          at hended
        rw [hnext]
        refine ⟨?_, rfl, fun _ _ => ?_⟩
        · rintro other ⟨⟩
          refine ⟨?_, hsame.trans hfailure⟩
          change count + 1 + (Source.bytes after).count lineFeed = ended
          rw [hbytes]
          omega
        · simp only [isFinished, Bool.false_eq_true, false_iff]
          omega
      · rw [List.count_eq_zero_of_not_mem hl, Nat.add_zero] at hended
        subst hended
        obtain ⟨hlog, hnext, hline⟩ := next_of_notMem count hl
        rw [hfailure] at hlog
        refine ⟨.of_finished hnext, hlog.trans (warnings_of_finished hnext).symm, fun line h => ?_⟩
        rw [hnext, hline line h]
        exact iff_of_true rfl (Nat.lt_succ_self count)

end LineReader

namespace ScriptReader

/-- A reader that goes to this failure or end, finished where the last of its lines has been read.
-/
structure GoesTo (ended : Nat) (failure : Option String) (reader : ScriptReader) : Prop where
  lines : reader.lines.GoesTo ended failure
  finished : reader.lines.isFinished = true ↔
    reader.isExhausted = true ∨ ended < reader.lineNumber

variable {ended : Nat} {failure : Option String} {reader : ScriptReader}

theorem GoesTo.step (h : reader.GoesTo ended failure) :
    reader.step.reader.GoesTo ended failure := by
  obtain ⟨hlines, -, hline⟩ := h.lines.next
  have hs := reader.stepOf
  generalize reader.step = result at hs ⊢
  cases hs with
  | @line line pending input read =>
    refine ⟨hlines, (hline line read).trans ?_⟩
    simp [isExhausted, input, Step.reader, lineNumber]
  | inputEnd failure pending input read =>
    refine ⟨hlines, iff_of_true ?_ (.inl rfl)⟩
    have hnext := LineReader.next_of_noLine (LineReader.noLine_of_end read)
    change reader.lines.next.reader.isFinished = true
    rw [hnext]
    rfl
  | _ => exact ⟨h.lines, h.finished⟩

theorem kept_goesTo (ended : Nat) (failure : Option String) : Kept (GoesTo ended failure) where
  step _ _ h := h.step
  taken _ h := ⟨h.lines, h.finished⟩
  asked reader _ h := by
    unfold askFailure
    split
    next cause hi =>
      refine ⟨h.lines, ?_⟩
      have hfinished := h.finished
      simpa [isExhausted, hi] using hfinished
    next => exact h

theorem kept_finished : Kept fun reader => reader.lines.isFinished = true where
  step reader _ h := by
    have hs := reader.stepOf
    generalize reader.step = result at hs ⊢
    cases hs with
    | line pending input read => exact (LineReader.next_of_finished h).2.1
    | inputEnd failure pending input read => exact (LineReader.next_of_finished h).2.1
    | _ => exact h
  taken _ h := h
  asked reader _ h := by
    unfold askFailure
    split <;> exact h

/-- A step logs what there is to tell of the failure, and then of the statement that it makes. -/
theorem GoesTo.log_step (h : reader.GoesTo ended failure) (hr : reader.ready = none) :
    ∃ warned, reader.lines.warnings ended failure ++ warned =
        reader.step.reader.lines.warnings ended failure ∧
      reader.step.reader.log.toList = reader.log.toList ++ warned ++
        reader.step.reader.ready.toList.flatMap Statement.entries := by
  have hnext := h.lines.next.2.1
  have hs := reader.stepOf
  generalize reader.step = result at hs ⊢
  cases hs with
  | directive pending idle code parsed =>
    refine ⟨[], List.append_nil _, ?_⟩
    simp [Step.reader, holdDirective, hold, Statement.entries, parsed, Draft.cleared, delimiter]
  | delimiter pending plain cut =>
    refine ⟨[], List.append_nil _, ?_⟩
    simp [Step.reader, hold, Statement.entries]
  | line pending input read =>
    refine ⟨_, hnext, ?_⟩
    simp [Step.reader, hr]
  | inputEnd failure pending input read =>
    refine ⟨_, hnext, ?_⟩
    simp [Step.reader, hr]
  | remainder pending input begun =>
    refine ⟨[], List.append_nil _, ?_⟩
    simp [Step.reader, hold, Statement.entries]
  | _ =>
    refine ⟨[], List.append_nil _, ?_⟩
    simp [Step.reader, hr]

/-- So does the search for the next statement. -/
theorem GoesTo.log_advance (h : reader.GoesTo ended failure) (hr : reader.ready = none) :
    ∃ warned, reader.lines.warnings ended failure ++ warned =
        reader.advance.2.lines.warnings ended failure ∧
      reader.advance.2.log.toList = reader.log.toList ++ warned ++
        reader.advance.2.ready.toList.flatMap Statement.entries := by
  have hall : reader.advance.2.GoesTo ended failure ∧
      ∃ warned, reader.lines.warnings ended failure ++ warned =
          reader.advance.2.lines.warnings ended failure ∧
        reader.advance.2.log.toList = reader.log.toList ++ warned ++
          reader.advance.2.ready.toList.flatMap Statement.entries := by
    apply reader.advance_preserves (P := fun next => next.GoesTo ended failure ∧
      ∃ warned, reader.lines.warnings ended failure ++ warned =
          next.lines.warnings ended failure ∧
        next.log.toList = reader.log.toList ++ warned ++
          next.ready.toList.flatMap Statement.entries)
    · rintro next hn ⟨hnext, warned, hwarned, hlog⟩
      obtain ⟨more, hmore, hthen⟩ := hnext.log_step hn
      refine ⟨hnext.step, warned ++ more, ?_, ?_⟩
      · rw [← hmore, ← hwarned, List.append_assoc]
      · rw [hthen, hlog, hn]
        simp
    · exact ⟨h, [], List.append_nil _, by simp [hr]⟩
  exact hall.2

end ScriptReader

/-- The search for the next statement has not come to the end exactly where a statement that is
ready has an end of its own. -/
theorem Reaches.handed_lt_completed {escape : UInt8} {start reader : ScriptReader}
    {handed : List Statement} {statement : Statement} (h : Reaches start handed reader)
    (held : ScriptReader.Held escape start) (idle : start.draft.scanned = [])
    (hr : reader.ready = some statement) :
    handed.length < start.completed.length ↔ reader.isExhausted = false := by
  have hheld : ScriptReader.Held escape reader := h.kept (ScriptReader.kept_held escape) held
  have hdrain := ScriptReader.drain_of_ready hr
  generalize hlater : { reader with ready := none }.drain = later at hdrain
  have hlen := congrArg List.length start.completed_append_remainder
  rw [h.drain.1, hdrain, List.length_append, List.length_append, List.length_cons] at hlen
  cases hended : reader.isExhausted with
  | true =>
    have hremainder := (h.drain_suffix_remainder held idle hended).2 statement hr
    have hlast := (hheld.drain_of_exhausted (h.scanned_nil idle) hended).1
    rw [hdrain, hr] at hlast
    have hnone : later.1 = [] := (List.cons.inj hlast).2
    simp only [hremainder, hnone, Option.toList_some, List.length_singleton,
      List.length_nil] at hlen
    simp only [Bool.true_eq_false, iff_false]
    omega
  | false =>
    refine iff_of_true ?_ rfl
    cases hl : later.1 with
    | cons next others =>
      have hone : start.remainder?.toList.length ≤ 1 := by cases start.remainder? <;> simp
      rw [hl, List.length_cons] at hlen
      omega
    | nil =>
      have hsound := ScriptReader.kept_sound.taken reader hheld.sound
      have hdelimiter := hsound.delimiter_drain usableDelimiter_of_parsed rfl
      rw [hlater, hl] at hdelimiter
      have hended := (hheld.unended statement hr).trans hended
      have hnone : start.remainder? = none := by
        rw [ScriptReader.remainder?, h.drain.1, hdrain, hl,
          List.getLast?_append_of_ne_nil _ (List.cons_ne_nil _ _), List.getLast?_singleton,
          Option.filter_some, if_neg]
        rw [held.escape, ← hheld.escape, ← h.drain_delimiter, hdrain, hdelimiter]
        exact Bool.eq_false_iff.mp hended
      rw [hnone, hl] at hlen
      simp only [Option.toList_none, List.length_nil] at hlen
      omega

theorem getElem?_append_toList {α : Type} {before : List α} {last : Option α} {index : Nat} {x : α}
    (h : (before ++ last.toList)[index]? = some x) :
    before[index]? = some x ∨ index = before.length ∧ last = some x := by
  by_cases hlt : index < before.length
  · rw [List.getElem?_append_left hlt] at h
    exact .inl h
  · rw [List.getElem?_append_right (Nat.le_of_not_lt hlt)] at h
    cases last with
    | none => simp at h
    | some last =>
      obtain ⟨hzero, rfl⟩ := List.getElem?_eq_some_iff.mp h
      simp only [Option.toList_some, List.length_singleton] at hzero
      exact .inr ⟨by omega, by simp⟩

/-- Whether a log tells of these statements, and of a failing read between the earlier and the later
of them. -/
structure ScriptReader.Traced (source : Source) (start : ScriptReader)
    (earlier later : List Statement) (reader : ScriptReader) : Prop where
  log : reader.log.toList = earlier.flatMap Statement.entries ++
    reader.lines.warnings source.linesEnded (Source.failure? source) ++
      later.flatMap Statement.entries
  /-- No read is made any more once the input has ended or a line has been read that no line feed
  ends. -/
  finished : reader.lines.isFinished = true ↔
    reader.isExhausted = true ∨ source.linesEnded < reader.lineNumber
  unfinished : reader.lines.isFinished = false → later = []
  earlier : ∀ index statement, (earlier ++ later)[index]? = some statement →
    (index < earlier.length ↔
      statement.lastLine ≤ source.linesEnded ∧ index < start.completed.length)

section

variable {source : Source} {start reader after : ScriptReader}
  {handed earlier later : List Statement}

/-- What is logged of a statement comes after all there is, and after what tells of the failure by
then. -/
theorem ScriptReader.Traced.append {warned : List LogEntry}
    (h : Traced source start earlier later reader)
    (goes : after.GoesTo source.linesEnded (Source.failure? source))
    (stays : reader.lines.isFinished = true → after.lines.isFinished = true)
    (hwarned : reader.lines.warnings source.linesEnded (Source.failure? source) ++ warned =
      after.lines.warnings source.linesEnded (Source.failure? source))
    (hlog : after.log.toList = reader.log.toList ++ warned ++
      after.ready.toList.flatMap Statement.entries)
    (ready : ∀ statement, after.ready = some statement → (after.lines.isFinished = false ↔
      statement.lastLine ≤ source.linesEnded ∧
        (earlier ++ later).length < start.completed.length)) :
    ∃ earlier' later', earlier' ++ later' = earlier ++ later ++ after.ready.toList ∧
      Traced source start earlier' later' after := by
  cases hafter : after.lines.isFinished with
  | false =>
    have hreader : reader.lines.isFinished = false := by
      cases hr : reader.lines.isFinished with
      | false => rfl
      | true => simp [stays hr] at hafter
    obtain rfl := h.unfinished hreader
    rw [LineReader.warnings_of_reading hreader, LineReader.warnings_of_reading hafter,
      List.nil_append] at hwarned
    rw [List.append_nil] at ready
    refine ⟨earlier ++ after.ready.toList, [], by simp, ?_, goes.finished, fun _ => rfl, ?_⟩
    · rw [hlog, h.log, hwarned, LineReader.warnings_of_reading hreader,
        LineReader.warnings_of_reading hafter]
      simp
    · intro index statement hi
      have hlt : index < (earlier ++ after.ready.toList).length := by
        obtain ⟨hlt, -⟩ := List.getElem?_eq_some_iff.mp hi
        simpa using hlt
      rw [List.append_nil] at hi
      refine iff_of_true hlt ?_
      rcases getElem?_append_toList hi with hold | ⟨rfl, hnew⟩
      · have hmade := h.earlier index statement (by rwa [List.append_nil])
        exact hmade.mp (List.getElem?_eq_some_iff.mp hold).1
      · exact (ready statement hnew).mp hafter
  | true =>
    have hbetween : reader.lines.warnings source.linesEnded (Source.failure? source) ++
        later.flatMap Statement.entries ++ warned =
          after.lines.warnings source.linesEnded (Source.failure? source) ++
            later.flatMap Statement.entries := by
      cases hreader : reader.lines.isFinished with
      | false =>
        rw [← hwarned, h.unfinished hreader]
        simp
      | true =>
        rw [LineReader.warnings_of_finished hreader, LineReader.warnings_of_finished hafter]
          at hwarned ⊢
        rw [List.append_right_eq_self.mp hwarned, List.append_nil]
    refine ⟨earlier, later ++ after.ready.toList, by simp, ?_, goes.finished,
      fun hf => absurd hafter (by simp [hf]), ?_⟩
    · rw [hlog, h.log, List.append_assoc (earlier.flatMap _), List.append_assoc (earlier.flatMap _),
        hbetween]
      simp
    · intro index statement hi
      rw [← List.append_assoc] at hi
      rcases getElem?_append_toList hi with hold | ⟨rfl, hnew⟩
      · exact h.earlier index statement hold
      · refine iff_of_false (by simp) fun hmade => ?_
        have hfinished := (ready statement hnew).mpr hmade
        simp [hafter] at hfinished

end

section

variable {access : Access} {source : Source} {settings : Settings} {reader : ScriptReader}
  {handed : List Statement}

theorem ScriptReader.opened_goesTo (access : Access) (source : Source) {settings : Settings}
    (holds : 1 ≤ settings.capacity) :
    (opened access source settings).GoesTo source.linesEnded (Source.failure? source) := by
  obtain ⟨hbytes, hfailure⟩ := Source.through_same access (Nat.ne_of_gt holds) source
  rw [opened]
  refine ⟨?_, by simp [unbuffered, LineReader.ofSource, LineReader.isFinished, isExhausted,
    lineNumber]⟩
  rintro other ⟨⟩
  refine ⟨?_, hfailure⟩
  rw [Source.linesEnded, hbytes]
  exact Nat.zero_add _

/-- A statement is made ready before the reads are over where it has an end of its own on an ended
line. -/
theorem Reaches.ready_iff (holds : 1 ≤ settings.capacity)
    (h : Reaches (.opened access source settings) handed reader) {statement : Statement}
    (hr : reader.ready = some statement) :
    reader.lines.isFinished = false ↔ statement.lastLine ≤ source.linesEnded ∧
      handed.length < (ScriptReader.opened access source settings).completed.length := by
  have hplaced := h.kept (ScriptReader.kept_placed _)
    (ScriptReader.opened_placed access source settings)
  have hgoes := h.kept (ScriptReader.kept_goesTo _ _)
    (ScriptReader.opened_goesTo access source holds)
  have hcompleted := h.handed_lt_completed (ScriptReader.opened_held access source settings)
    rfl hr
  rw [hplaced.ready statement hr, hcompleted, ← Bool.not_eq_true, hgoes.finished, not_or,
    Bool.not_eq_true, Nat.not_lt, and_comm]

/-- Whatever a reader has been asked for, its log is the trace of the statements made so far. -/
theorem Reaches.traced (holds : 1 ≤ settings.capacity)
    (h : Reaches (.opened access source settings) handed reader) :
    ∃ earlier later, earlier ++ later = handed ++ reader.ready.toList ∧
      (ScriptReader.opened access source settings).Traced source earlier later reader := by
  induction h with
  | start =>
    have hgoes := ScriptReader.opened_goesTo access source holds
    have hreading : (ScriptReader.opened access source settings).lines.isFinished = false := rfl
    refine ⟨[], [], by simp, ?_, hgoes.finished, fun _ => rfl, by simp⟩
    rw [LineReader.warnings_of_reading hreading]
    rfl
  | @advance handed reader h ih =>
    obtain ⟨earlier, later, hmade, htraced⟩ := ih
    cases hr : reader.ready with
    | some statement =>
      rw [ScriptReader.advance_of_ready hr]
      exact ⟨earlier, later, hmade, htraced⟩
    | none =>
      have hgoes := h.kept (ScriptReader.kept_goesTo _ _)
        (ScriptReader.opened_goesTo access source holds)
      rw [hr, Option.toList_none, List.append_nil] at hmade
      obtain ⟨warned, hwarned, hlog⟩ := hgoes.log_advance hr
      rw [← hmade]
      apply htraced.append ((ScriptReader.kept_goesTo _ _).pull hgoes .advance) _ hwarned hlog
      · intro statement hready
        rw [hmade]
        exact h.advance.ready_iff holds hready
      · exact fun hf => ScriptReader.kept_finished.pull hf .advance
  | take h ih =>
    obtain ⟨earlier, later, hmade, log, finished, unfinished, completed⟩ := ih
    exact ⟨earlier, later, by simpa using hmade, log, finished, unfinished, completed⟩
  | @ask handed reader h hd ih =>
    obtain ⟨earlier, later, hmade, htraced⟩ := ih
    refine ⟨earlier, later, by rwa [reader.askFailure_ready], ?_⟩
    have hgoes := h.kept (ScriptReader.kept_goesTo _ _)
      (ScriptReader.opened_goesTo access source holds)
    have hasked := (ScriptReader.kept_goesTo _ _).asked reader hd hgoes
    have hlines : reader.askFailure.2.lines = reader.lines ∧
        reader.askFailure.2.log = reader.log := by
      unfold ScriptReader.askFailure
      split <;> exact ⟨rfl, rfl⟩
    refine ⟨?_, hasked.finished, ?_, htraced.earlier⟩
    · rw [hlines.1, hlines.2, htraced.log]
    · rw [hlines.1]
      exact htraced.unfinished

end

/-- The log tells of each statement made ready, in order, and of a failing read where it comes
between them. -/
theorem log_traces_statements (access : Access) (source : Source) {settings : Settings}
    (holds : 1 ≤ settings.capacity) (requests : List Pull) :
    let reader := ScriptReader.opened access source settings
    let after := (reader.pulls requests).2
    let made := handedOut (reader.pulls requests).1 ++ after.ready.toList
    let all := reader.outcome.statements
    made <+: all ∧
      (∀ statement ∈ all, statement.isDirective = true →
        (newDelimiter? statement.bytes).isSome = true) ∧
      (∃ earlier later, earlier ++ later = made ∧ reader.Traced source earlier later after) ∧
      (∃ earlier later, earlier ++ later = all ∧
        reader.Traced source earlier later after.drain.2) ∧
      after.take.2.log = after.log ∧
      (after.ready ≠ none → after.advance.2.log = after.log) := by
  intro reader after made all
  have fresh : reader.ready = none := ScriptReader.opened_ready access source settings
  have reached : Reaches reader (handedOut (reader.pulls requests).1) after :=
    Reaches.start.pulls fresh requests
  refine ⟨reached.made_isPrefix, ?_, reached.traced holds, ?_, rfl, ?_⟩
  · intro statement hm hd
    obtain ⟨index, hi⟩ := List.mem_iff_getElem?.mp hm
    exact (ScriptReader.opened_formed access source settings hi).2.1.parsed hd
  · obtain ⟨earlier, later, hmade, htraced⟩ := reached.drained.traced holds
    rw [after.drain_done.1, Option.toList_none, List.append_nil, ← reached.drain.1] at hmade
    exact ⟨earlier, later, hmade, htraced⟩
  · intro hr
    obtain ⟨statement, hr⟩ := Option.ne_none_iff_exists'.mp hr
    rw [ScriptReader.advance_of_ready hr]

/-- The failure comes in the middle of the third line and is told of before the statements there. -/
theorem log_traces_statements_of_partial_line :
    let source : Source := [.data (Bytes.ofText "a;\ndelimiter $$\nb$$c"), .failed "gone"]
    let reader := ScriptReader.opened .direct source default
    let answers := reader.pulls [.next, .advance, .advance, .rest]
    1 ≤ (default : Settings).capacity ∧
      answers.2.log.toList = [.statementReady 1 1 2, .delimiterChanged 2 (Bytes.ofText "$$"),
        .statementReady 2 2 12, .readFailed 2 "gone", .statementReady 3 3 3,
        .statementReady 3 3 1] ∧
      ∃ earlier later, earlier ++ later = handedOut answers.1 ++ answers.2.ready.toList ∧
        reader.Traced source earlier later answers.2 := by
  intro source reader answers
  have holds : 1 ≤ (default : Settings).capacity := by decide
  obtain ⟨-, -, htraced, -⟩ :=
    log_traces_statements .direct source holds [.next, .advance, .advance, .rest]
  exact ⟨holds, by decide +kernel, htraced⟩

end SqlScript

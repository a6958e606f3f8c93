import SqlScript.Proofs.TextLines

namespace SqlScript

/-- Whether more can be read after a read: not if it fails, and not if it gives no bytes. -/
def Read.goesOn : Read → Bool
  | .data bytes => !bytes.isEmpty
  | .interrupted => true
  | .failed _ => false

/-- An input that is at its end where the given one ends or fails. -/
def Source.unfailing (source : Source) : Source := source.takeWhile Read.goesOn

def LineEnd.unfailing : LineEnd → LineEnd
  | .found line rest => .found line (Source.unfailing rest)
  | .inputEnded tail => .inputEnded tail
  | .inputFailed tail _ => .inputEnded tail

theorem Source.unfailing_giveBack (bytes : Bytes) (source : Source) :
    Source.unfailing (giveBack bytes source) = giveBack bytes (Source.unfailing source) := by
  cases bytes <;> rfl

theorem gatherLine_unfailing (gathered : Bytes) (source : Source) :
    gatherLine gathered (Source.unfailing source) = (gatherLine gathered source).unfailing := by
  fun_induction gatherLine gathered source with
  | case1 => rfl
  | case2 gathered source ih => exact ih
  | case3 => rfl
  | case4 => rfl
  | case5 gathered b bytes source gathered' rest hcut =>
    have hcons : Source.unfailing (.data (b :: bytes) :: source) =
        .data (b :: bytes) :: Source.unfailing source := rfl
    rw [hcons, gatherLine, hcut, LineEnd.unfailing, Source.unfailing_giveBack]
  | case6 gathered b bytes source gathered' hcut ih =>
    have hcons : Source.unfailing (.data (b :: bytes) :: source) =
        .data (b :: bytes) :: Source.unfailing source := rfl
    rw [hcons, gatherLine, hcut, ← ih]

def LinePhase.unfailing : LinePhase → LinePhase
  | .reading source => .reading (Source.unfailing source)
  | .failing _ => .ended
  | .ended => .ended

def LineReader.unfailing (reader : LineReader) : LineReader :=
  { reader with phase := reader.phase.unfailing }

def LogEntry.isReadFailed : LogEntry → Bool
  | .readFailed .. => true
  | _ => false

def InputState.unfailing : InputState → InputState
  | .reading => .reading
  | .ended _ asked => .ended none asked

/-- A reader whose input ends where it fails, with a log that tells of no failure. -/
def ScriptReader.unfailing (reader : ScriptReader) : ScriptReader :=
  { reader with
    lines := reader.lines.unfailing
    input := reader.input.unfailing
    log := reader.log.filter fun entry => !entry.isReadFailed }

theorem LineReader.next_unfailing (reader : LineReader) :
    reader.unfailing.next.line = .ok (reader.next.line.toOption.join) ∧
      reader.unfailing.next.log = reader.next.log.filter (fun entry => !entry.isReadFailed) ∧
      reader.unfailing.next.reader = reader.next.reader.unfailing := by
  obtain ⟨phase, count⟩ := reader
  cases phase with
  | ended => exact ⟨rfl, rfl, rfl⟩
  | failing cause => exact ⟨rfl, rfl, rfl⟩
  | reading source =>
    simp only [unfailing, LinePhase.unfailing, next, gatherLine_unfailing]
    cases gatherLine [] source with
    | found line rest => exact ⟨rfl, rfl, rfl⟩
    | inputEnded tail => cases tail <;> exact ⟨rfl, rfl, rfl⟩
    | inputFailed tail cause => cases tail <;> exact ⟨rfl, rfl, rfl⟩

theorem filter_append_list (keeps : LogEntry → Bool) (log : Array LogEntry)
    (entries : List LogEntry) :
    (log ++ entries).filter keeps = log.filter keeps ++ entries.filter keeps := by
  apply Array.toList_inj.mp
  simp

theorem ScriptReader.pullLine_unfailing (reader : ScriptReader) :
    reader.unfailing.pullLine = reader.pullLine.unfailing := by
  obtain ⟨hline, hlog, hnext⟩ := reader.lines.next_unfailing
  have hread : reader.unfailing.lines = reader.lines.unfailing := rfl
  have hcount : reader.lines.next.reader.unfailing.linesRead =
      reader.lines.next.reader.linesRead := rfl
  unfold pullLine
  simp only [hread, hline, hlog, hnext, hcount]
  cases reader.lines.next.line with
  | error failure =>
    simp [unfailing, Except.toOption, InputState.unfailing, filter_append_list]
  | ok line? =>
    cases line? <;> simp [unfailing, Except.toOption, InputState.unfailing, filter_append_list]

/-- A failure changes nothing that is made of the lines read before it. -/
theorem ScriptReader.unfailing_inputMap : InputMap ScriptReader.unfailing where
  escape _ := rfl
  draft _ := rfl
  ready _ := rfl
  withDraft _ _ := rfl
  taken _ := rfl
  hold _ _ := by simp [unfailing, hold, LogEntry.isReadFailed]
  holdDirective _ _ := by simp [unfailing, holdDirective, hold, delimiter, LogEntry.isReadFailed]
  reading _ hi := by simp [unfailing, hi, InputState.unfailing]
  ended _ _ _ hi := ⟨none, by simp [unfailing, hi, InputState.unfailing]⟩
  pullLine := pullLine_unfailing

/-- The failure that is told of when no line is left. -/
def LineReader.failureDue (reader : LineReader) : Option Failure :=
  match reader.phase with
  | .reading source => (Source.failure? source).map .unread
  | .failing cause => some (.unread cause)
  | .ended => none

/-- The failure that ended the input of a reader or will end it. -/
def ScriptReader.failureDue (reader : ScriptReader) : Option Failure :=
  match reader.input with
  | .reading => reader.lines.failureDue
  | .ended failure _ => failure

theorem LineReader.failureDue_of_line {reader : LineReader} {line : Bytes}
    (h : reader.next.line = .ok (some line)) :
    reader.next.reader.failureDue = reader.failureDue := by
  obtain ⟨phase, count⟩ := reader
  cases phase with
  | ended => simp [next] at h
  | failing cause => simp [next] at h
  | reading source =>
    by_cases hl : lineFeed ∈ Source.bytes source
    · obtain ⟨piece, rest, hpiece, htext⟩ := exists_lines_of_mem hl
      obtain ⟨after, hnext, _, hfailure⟩ := next_of_lineFeed count hpiece htext
      rw [hnext]
      simp only [failureDue, hfailure]
    · by_cases hne : Source.bytes source = []
      · rw [(next_of_nothing count hne).1] at h
        cases hf : Source.failure? source <;> simp [hf, atInputEnd] at h
      · rw [(next_of_tail count hl hne).2]
        cases hf : Source.failure? source <;> simp [failureDue, hf, LinePhase.afterTail]

theorem LineReader.failureDue_of_end {reader : LineReader} {failure : Option Failure}
    (h : reader.next.line =
      match failure with
      | none => .ok none
      | some failure => .error failure) : reader.failureDue = failure := by
  obtain ⟨phase, count⟩ := reader
  cases phase with
  | ended => cases failure <;> simp_all [next, failureDue]
  | failing cause => cases failure <;> simp_all [next, failureDue]
  | reading source =>
    by_cases hl : lineFeed ∈ Source.bytes source
    · obtain ⟨piece, rest, hpiece, htext⟩ := exists_lines_of_mem hl
      obtain ⟨after, hnext, _, hfailure⟩ := next_of_lineFeed count hpiece htext
      rw [hnext] at h
      cases failure <;> simp at h
    · by_cases hne : Source.bytes source = []
      · rw [(next_of_nothing count hne).1] at h
        cases hf : Source.failure? source <;> cases failure <;>
          simp_all [atInputEnd, failureDue]
      · rw [(next_of_tail count hl hne).1] at h
        cases failure <;> simp at h

theorem ScriptReader.failureDue_step (reader : ScriptReader) :
    reader.step.reader.failureDue = reader.failureDue := by
  have hs := reader.stepOf
  generalize reader.step = result at hs ⊢
  cases hs with
  | line pending input read =>
    have hdue := LineReader.failureDue_of_line read
    simp only [Step.reader, failureDue, input, hdue]
  | inputEnd failure pending input read =>
    have hdue := LineReader.failureDue_of_end read
    simp only [Step.reader, failureDue, input, hdue]
  | _ => rfl

theorem ScriptReader.outcome_failure (reader : ScriptReader) :
    reader.outcome.failure = reader.failureDue := by
  have hdue : reader.drain.2.failureDue = reader.failureDue := by
    apply drain_preserves (P := fun r => r.failureDue = reader.failureDue)
    · exact fun r _ hr => (failureDue_step r).trans hr
    · exact fun _ hr => hr
    · rfl
  obtain ⟨_, _, _, _, failure, asked, hi⟩ := done_iff.mp reader.drain_done
  rw [← hdue]
  simp [outcome, ScriptReader.failure, failureDue, hi]

theorem Source.failure?_of_goesOn {reads : Source} (h : ∀ read ∈ reads, read.goesOn = true)
    (source : Source) : Source.failure? (reads ++ source) = Source.failure? source := by
  induction reads with
  | nil => rfl
  | cons read reads ih =>
    rw [List.forall_mem_cons] at h
    cases read with
    | interrupted => exact ih h.2
    | failed cause => simp [Read.goesOn] at h
    | data bytes =>
      cases bytes with
      | nil => simp [Read.goesOn] at h
      | cons b bytes => exact ih h.2

theorem Source.unfailing_failed {reads : Source} (h : ∀ read ∈ reads, read.goesOn = true)
    (cause : String) (later : Source) :
    Source.unfailing (reads ++ .failed cause :: later) = reads := by
  rw [unfailing, List.takeWhile_append_of_pos h]
  simp [Read.goesOn]

theorem Read.goesOn_buffered {capacity : Nat} (hc : capacity ≠ 0) {read part : Read}
    (h : read.goesOn = true) (hp : part ∈ read.buffered capacity) : part.goesOn = true := by
  cases read with
  | interrupted =>
    rw [List.mem_singleton.mp hp]
    rfl
  | failed cause => simp [goesOn] at h
  | data bytes =>
    have hne : [] ∉ piecesAfter capacity [] bytes :=
      piecesAfter_ne_nil hc List.not_mem_nil (by simpa [goesOn] using h)
    obtain ⟨piece, hpiece, rfl⟩ := List.mem_map.mp hp
    cases piece with
    | nil => exact absurd hpiece hne
    | cons b piece => rfl

theorem Source.unfailing_through (access : Access) {capacity : Nat} (hc : capacity ≠ 0)
    {reads : Source} (h : ∀ read ∈ reads, read.goesOn = true) (cause : String) (later : Source) :
    Source.unfailing (Source.through access capacity (reads ++ .failed cause :: later)) =
      Source.through access capacity reads := by
  cases access with
  | direct => exact unfailing_failed h cause later
  | buffered =>
    have hon : ∀ part ∈ reads.flatMap (Read.buffered capacity), part.goesOn = true := by
      intro part hp
      obtain ⟨read, hread, hp⟩ := List.mem_flatMap.mp hp
      exact Read.goesOn_buffered hc (h read hread) hp
    simp only [through, buffered, if_neg hc, List.flatMap_append, List.flatMap_cons]
    exact unfailing_failed hon cause _

theorem ScriptReader.opened_failure (access : Access) (source : Source) {settings : Settings}
    (hc : settings.capacity ≠ 0) :
    (ScriptReader.opened access source settings).outcome.failure =
      (Source.failure? source).map .unread := by
  rw [outcome_failure, opened, ← (Source.through_same access hc source).2]
  rfl

/-- A failure loses nothing that was read before it, and is all that differs from an input that ends
there. -/
theorem drain_of_failed {reads : Source} (goOn : ∀ read ∈ reads, read.goesOn = true)
    (access : Access) {settings : Settings} (holds : 1 ≤ settings.capacity) (cause : String)
    (later : Source) :
    let ending := ScriptReader.opened access reads settings
    let failing := ScriptReader.opened access (reads ++ .failed cause :: later) settings
    failing.outcome = ⟨ending.outcome.statements, some (.unread cause)⟩ ∧
      ending.outcome.failure = none ∧
      failing.drain.2.delimiter = ending.drain.2.delimiter ∧
      failing.drain.2.draft = ending.drain.2.draft ∧
      failing.drain.2.lineNumber = ending.drain.2.lineNumber := by
  intro ending failing
  have hc : settings.capacity ≠ 0 := Nat.ne_of_gt holds
  have hmap : failing.unfailing = ending := by
    simp only [failing, ending, ScriptReader.opened]
    rw [← Source.unfailing_through access hc goOn cause later]
    rfl
  have hdrain := ScriptReader.unfailing_inputMap.drain failing
  rw [hmap] at hdrain
  have hfailing : failing.outcome.failure = some (.unread cause) := by
    rw [ScriptReader.opened_failure access _ hc, Source.failure?_of_goesOn goOn]
    rfl
  have hending : ending.outcome.failure = none := by
    have hnone := Source.failure?_of_goesOn goOn []
    rw [List.append_nil] at hnone
    rw [ScriptReader.opened_failure access _ hc, hnone]
    rfl
  have hstatements : failing.outcome.statements = ending.outcome.statements :=
    (congrArg Prod.fst hdrain).symm
  have hlast : ending.drain.2 = failing.drain.2.unfailing := congrArg Prod.snd hdrain
  refine ⟨?_, hending, ?_, ?_, ?_⟩
  · rw [← hstatements, ← hfailing]
  all_goals
    rw [hlast]
    rfl

/-- A failure inside a quote, in the middle of a line that follows a directive. -/
theorem drain_of_failed_in_quote :
    let reads : Source := [.data (Bytes.ofText "delimiter $\na$'b;"), .interrupted,
      .data (Bytes.ofText "\nc\r")]
    let later : Source := [.data (Bytes.ofText "';$")]
    let ending := ScriptReader.opened .buffered reads default
    let failing := ScriptReader.opened .buffered (reads ++ .failed "gone" :: later) default
    (∀ read ∈ reads, read.goesOn = true) ∧ 1 ≤ (default : Settings).capacity ∧
      failing.outcome = ⟨ending.outcome.statements, some (.unread "gone")⟩ ∧
      ending.outcome.failure = none ∧
      failing.drain.2.delimiter = ending.drain.2.delimiter := by
  intro reads later ending failing
  have goOn : ∀ read ∈ reads, read.goesOn = true := by decide
  have holds : 1 ≤ (default : Settings).capacity := by decide
  obtain ⟨houtcome, hending, hdelimiter, _⟩ :=
    drain_of_failed goOn .buffered holds "gone" later
  exact ⟨goOn, holds, houtcome, hending, hdelimiter⟩

end SqlScript

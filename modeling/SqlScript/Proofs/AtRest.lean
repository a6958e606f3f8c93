import SqlScript.Proofs.Delivery

namespace SqlScript

/-- No statement has begun, and the line that is pending, if there is one, has bytes. -/
structure Draft.Idle (draft : Draft) : Prop where
  scanned : draft.scanned = []
  inProgress : draft.inProgress = false
  pending : draft.pending ≠ some []

/-- A step with which a search ends leaves no statement half made. A blank line that has been
scanned counts as progress until then. -/
theorem StepOf.idle {reader : ScriptReader} {result : Step} (h : StepOf reader result)
    (ends : ∀ next, result ≠ .more next) : result.reader.draft.Idle := by
  cases h with
  | directive pending idle code parsed => exact ⟨rfl, rfl, nofun⟩
  | @delimiter line scanned rest pending plain cut =>
    refine ⟨rfl, rfl, ?_⟩
    change (if rest.isEmpty then none else some rest) ≠ some []
    split
    next => simp
    next hr => simpa using hr
  | remainder pending input begun =>
    refine ⟨rfl, rfl, ?_⟩
    simp [Step.reader, ScriptReader.hold, pending]
  | nothingLeft pending input idle =>
    refine ⟨idle, rfl, ?_⟩
    simp [Step.reader, pending]
  | _ => exact absurd rfl (ends _)

theorem Reaches.idle {start reader : ScriptReader} {handed : List Statement}
    (fresh : start.draft.Idle) (h : Reaches start handed reader) : reader.draft.Idle := by
  induction h with
  | start => exact fresh
  | @advance handed reader h ih =>
    apply reader.advance_ends (P := fun reader => reader.draft.Idle) _ fun _ => ih
    intro reader ends
    exact reader.stepOf.idle ends
  | take h ih => exact ih
  | @ask handed reader h hd ih =>
    unfold ScriptReader.askFailure
    split <;> exact ih

theorem Draft.onLine_firstLine_le {draft : Draft} (h : draft.firstLine ≤ draft.lineNumber) :
    draft.onLine.firstLine ≤ draft.lineNumber := by
  unfold onLine
  split
  next => exact Nat.le_refl _
  next => exact h

/-- A reader on the last of the lines that it has read, with all that it keeps on this line or
before it. -/
structure ScriptReader.Placed (lines : List Bytes) (reader : ScriptReader) : Prop where
  sound : reader.Sound
  firstLine : reader.draft.firstLine ≤ reader.draft.lineNumber
  linesLeft : lines.drop reader.lineNumber = reader.lines.linesLeft
  pending : ∀ rest, reader.draft.pending = some rest →
    ∃ line, (lines.take reader.lineNumber).getLast? = some line ∧ rest <:+ line
  ready : ∀ statement, reader.ready = some statement → statement.lastLine = reader.lineNumber

namespace ScriptReader

variable {lines : List Bytes} {reader : ScriptReader}

theorem Placed.line {line : Bytes} (h : Placed lines reader)
    (read : reader.lines.next.line = .ok (some line)) :
    lines.drop (reader.lineNumber + 1) = reader.lines.next.reader.linesLeft ∧
      (lines.take (reader.lineNumber + 1)).getLast? = some line := by
  have hdrop := h.linesLeft
  rw [LineReader.linesLeft_of_line read] at hdrop
  have hline : lines[reader.lineNumber]? = some line := by
    rw [← List.head?_drop, hdrop, List.head?_cons]
  refine ⟨?_, ?_⟩
  · rw [← List.tail_drop, hdrop, List.tail_cons]
  · rw [List.take_add_one, hline, Option.toList_some, List.getLast?_concat]

theorem Placed.step (h : Placed lines reader) (hr : reader.ready = none) :
    Placed lines reader.step.reader := by
  have hsound := h.sound.step
  have hs := reader.stepOf
  generalize reader.step = result at hs hsound ⊢
  cases hs with
  | directive pending idle code parsed =>
    refine ⟨hsound, Nat.le_refl _, h.linesLeft, nofun, ?_⟩
    rintro statement ⟨⟩
    exact h.sound.lineNumber
  | @delimiter line scanned rest pending plain cut =>
    refine ⟨hsound, ?_, h.linesLeft, ?_, ?_⟩
    · have hfirst := Draft.onLine_firstLine_le h.firstLine
      rwa [← reader.draft.onLine_lineNumber] at hfirst
    · intro left hleft
      obtain ⟨before, hlast, hsuffix⟩ := h.pending line pending
      obtain ⟨cut, _, hline, _⟩ := scan_delimiter_cut (h.sound.draft.pending line pending) cut
      change (if rest.isEmpty then none else some rest) = some left at hleft
      split at hleft
      next => simp at hleft
      next =>
        cases hleft
        refine ⟨before, hlast, List.IsSuffix.trans ?_ hsuffix⟩
        exact ⟨cut, hline.symm⟩
    · rintro statement ⟨⟩
      exact h.sound.lineNumber
  | @lineEnd line scanned context pending plain cut =>
    refine ⟨hsound, ?_, h.linesLeft, nofun, h.ready⟩
    have hfirst := Draft.onLine_firstLine_le h.firstLine
    rwa [← reader.draft.onLine_lineNumber] at hfirst
  | @line line pending input read =>
    have hcount : reader.lines.next.reader.linesRead = reader.lineNumber + 1 :=
      LineReader.linesRead_of_line read
    obtain ⟨hdrop, hlast⟩ := h.line read
    rw [← hcount] at hdrop hlast
    refine ⟨hsound, ?_, hdrop, ?_, ?_⟩
    · change reader.draft.firstLine ≤ reader.lines.next.reader.linesRead
      have hfirst := h.firstLine
      have hnumber : reader.draft.lineNumber = reader.lineNumber := h.sound.lineNumber
      omega
    · rintro rest ⟨⟩
      exact ⟨line, hlast, List.suffix_refl _⟩
    · intro statement hstatement
      have hready : reader.ready = some statement := hstatement
      simp [hr] at hready
  | inputEnd failure pending input read =>
    have hno := LineReader.noLine_of_end read
    have hnext := LineReader.next_of_noLine hno
    refine ⟨hsound, h.firstLine, ?_, ?_, ?_⟩
    · have hdrop := h.linesLeft
      rw [LineReader.linesLeft_of_noLine hno] at hdrop
      change lines.drop reader.lines.next.reader.linesRead = reader.lines.next.reader.linesLeft
      rw [hnext, LineReader.linesLeft_ended]
      exact hdrop
    · intro rest hrest
      have hpending : reader.draft.pending = some rest := hrest
      simp [pending] at hpending
    · intro statement hstatement
      have hready : reader.ready = some statement := hstatement
      simp [hr] at hready
  | remainder pending input begun =>
    refine ⟨hsound, h.firstLine, h.linesLeft, h.pending, ?_⟩
    rintro statement ⟨⟩
    exact h.sound.lineNumber
  | nothingLeft pending input idle =>
    exact ⟨hsound, h.firstLine, h.linesLeft, h.pending, h.ready⟩

theorem kept_placed (lines : List Bytes) : Kept (Placed lines) where
  step _ hr h := h.step hr
  taken reader h := ⟨kept_sound.taken reader h.sound, h.firstLine, h.linesLeft, h.pending, nofun⟩
  asked reader hd h := by
    have hsound := kept_sound.asked reader hd h.sound
    unfold askFailure at hsound ⊢
    split
    next failure hi =>
      rw [hi] at hsound
      exact ⟨hsound, h.firstLine, h.linesLeft, h.pending, h.ready⟩
    next => exact h

theorem opened_placed (access : Access) (source : Source) (settings : Settings) :
    Placed (opened access source settings).lines.linesLeft (opened access source settings) := by
  exact ⟨opened_sound access source settings, Nat.le_refl _, rfl, nofun, nofun⟩

/-- The lines that have been read and those that are left are always as many together. -/
theorem kept_lineCount (count : Nat) :
    Kept fun reader => reader.lineNumber + reader.lines.linesLeft.length = count where
  step reader _ h := by
    have hs := reader.stepOf
    generalize reader.step = result at hs ⊢
    cases hs with
    | @line line pending input read =>
      have hnumber : reader.lines.next.reader.linesRead = reader.lineNumber + 1 :=
        LineReader.linesRead_of_line read
      rw [LineReader.linesLeft_of_line read, List.length_cons] at h
      change reader.lines.next.reader.linesRead + reader.lines.next.reader.linesLeft.length = count
      omega
    | inputEnd failure pending input read =>
      have hno := LineReader.noLine_of_end read
      rw [LineReader.linesLeft_of_noLine hno] at h
      change reader.lines.next.reader.linesRead + reader.lines.next.reader.linesLeft.length = count
      rw [LineReader.next_of_noLine hno, LineReader.linesLeft_ended]
      exact h
    | _ => exact h
  taken _ h := h
  asked reader _ h := by
    unfold askFailure
    split <;> exact h

/-- What holds of a reader between requests, where these are all its lines. -/
structure AtRest (lines : List Bytes) (reader : ScriptReader) : Prop where
  bytes : reader.draft.bytes = []
  inProgress : reader.draft.inProgress = false
  lineNumber : reader.draft.lineNumber = reader.lineNumber
  firstLine : reader.draft.firstLine ≤ reader.draft.lineNumber
  pending : ∀ rest, reader.draft.pending = some rest → rest ≠ [] ∧ lineFeed ∉ rest ∧
    ∃ line, (lines.take reader.lineNumber).getLast? = some line ∧ rest <:+ line
  oneContext : ¬(reader.draft.context.quote?.isSome ∧ reader.draft.context.isComment)
  escaped : reader.draft.context.isEscaped → reader.draft.context.quote?.isSome
  /-- A quote or a comment is left open only by the end of input. -/
  opened : reader.draft.context.quote?.isSome ∨ reader.draft.context.isComment ∨
    reader.draft.context.isEscaped → reader.isExhausted ∧ reader.draft.pending = none
  exhausted : reader.isExhausted → reader.draft.pending = none
  failure : reader.failure.isSome → reader.isExhausted
  ready : ∀ statement, reader.ready = some statement →
    statement.bytes ≠ [] ∧ statement.lastLine = reader.lineNumber

end ScriptReader

theorem Context.quote?_of_isEscaped {context : Context} (h : context.isEscaped = true) :
    context.quote?.isSome = true := by
  cases context with
  | quoted quote escaped => rfl
  | _ => simp [isEscaped] at h

theorem Context.not_quote?_and_isComment (context : Context) :
    ¬(context.quote?.isSome = true ∧ context.isComment = true) := by
  cases context <;> simp [quote?, isComment]

/-- After any requests no statement is half made, and only the end of input leaves a quote or a
comment open. -/
theorem pulls_at_rest (access : Access) (source : Source) (settings : Settings)
    (requests : List Pull) :
    let reader := ScriptReader.opened access source settings
    ScriptReader.AtRest reader.lines.linesLeft (reader.pulls requests).2 := by
  intro reader
  have fresh : reader.ready = none := ScriptReader.opened_ready access source settings
  have hstart : reader.draft.Idle := ⟨rfl, rfl, nofun⟩
  have reached : Reaches reader _ (reader.pulls requests).2 := Reaches.start.pulls fresh requests
  generalize (reader.pulls requests).2 = after at reached ⊢
  have hidle := reached.idle hstart
  have hplaced : ScriptReader.Placed reader.lines.linesLeft after :=
    reached.kept (ScriptReader.kept_placed _) (ScriptReader.opened_placed access source settings)
  have hheld : ScriptReader.Held settings.escape after :=
    reached.kept (ScriptReader.kept_held _) (ScriptReader.opened_held access source settings)
  have hsound := hplaced.sound
  have hcode : after.draft.context = .code ∨ after.isExhausted = true := by
    cases hi : after.input with
    | reading => exact .inl (hsound.code hidle.scanned (.inr hi))
    | ended failure asked => exact .inr (ScriptReader.isExhausted_iff.mpr ⟨failure, asked, hi⟩)
  refine
    { bytes := ?_
      inProgress := hidle.inProgress
      lineNumber := hsound.lineNumber
      firstLine := hplaced.firstLine
      pending := ?_
      oneContext := Context.not_quote?_and_isComment _
      escaped := Context.quote?_of_isEscaped
      opened := ?_
      exhausted := hheld.rescannable.ended
      failure := ?_
      ready := ?_ }
  · rw [Draft.bytes, hidle.scanned, List.reverse_nil]
  · intro rest hp
    refine ⟨?_, hsound.draft.pending rest hp, hplaced.pending rest hp⟩
    rintro rfl
    exact hidle.pending hp
  · intro hopen
    rcases hcode with hcode | hended
    · simp [hcode, Context.quote?, Context.isComment, Context.isEscaped] at hopen
    · exact ⟨hended, hheld.rescannable.ended hended⟩
  · intro hf
    exact ScriptReader.isExhausted_of_failure (Option.isSome_iff_ne_none.mp hf)
  · intro statement hr
    exact ⟨reached.ready_ne_nil fresh hr, hplaced.ready statement hr⟩

/-- The rest of a line is pending until the next request, and a comment that is never closed stays
open. -/
example :
    let reader := ScriptReader.opened .direct [.data (Bytes.ofText "a; b\n/* c\n\n")] default
    let first := (reader.pulls [.next]).2
    let second := (reader.pulls [.next, .next]).2
    first.draft.pending = some (Bytes.ofText " b") ∧ first.draft.context = .code ∧
      second.draft.pending = none ∧ second.draft.context = .comment ∧
        second.isExhausted = true := by
  decide +kernel

end SqlScript

import SqlScript.Proofs.Requests

namespace SqlScript

/-- A draft with no line feed pending, and with one in its statement between each two of its lines.
-/
structure Draft.Sound (draft : Draft) : Prop where
  pending : ∀ line, draft.pending = some line → lineFeed ∉ line
  lines : draft.scanned ≠ [] →
    draft.firstLine + draft.scanned.count lineFeed + (if draft.pending.isSome then 1 else 0) =
      draft.lineNumber

/-- A sound draft on the line last read, where a statement starts in bare SQL and no line follows
the end. -/
structure ScriptReader.Sound (reader : ScriptReader) : Prop where
  draft : reader.draft.Sound
  code : reader.draft.scanned = [] →
    reader.draft.pending.isSome ∨ reader.input = .reading → reader.draft.context = .code
  lineNumber : reader.draft.lineNumber = reader.lines.linesRead
  ended : ∀ failure asked, reader.input = .ended failure asked → reader.lines.linesLeft = []

theorem Draft.onLine_of_idle {draft : Draft} (h : draft.scanned = []) :
    draft.onLine = { draft with firstLine := draft.lineNumber } := by
  simp [onLine, h]

theorem Draft.onLine_of_begun {draft : Draft} (h : draft.scanned ≠ []) :
    draft.onLine = { draft with scanned := lineFeed :: draft.scanned } := by
  simp [onLine, h]

theorem Draft.Sound.onLine_lines {draft : Draft} {line : Bytes} (h : draft.Sound)
    (hp : draft.pending = some line) :
    draft.onLine.firstLine + draft.onLine.scanned.count lineFeed = draft.lineNumber := by
  by_cases hs : draft.scanned = []
  · simp [onLine_of_idle hs, hs]
  · have hl := h.lines hs
    simp only [hp, Option.isSome_some, ↓reduceIte] at hl
    simp only [onLine_of_begun hs, List.count_cons_self]
    omega

/-- A scan that meets the delimiter cuts the line in two. -/
theorem scan_delimiter_split {escape : UInt8} {delimiter scanned line scanned' rest : Bytes}
    {context : Context}
    (h : scan escape delimiter scanned context line = .delimiter scanned' rest) :
    ∃ cut, cut ≠ [] ∧ line = cut ++ rest ∧ scanned' = cut.reverse ++ scanned := by
  obtain ⟨hb, hl⟩ := scan_delimiter h
  rcases List.append_eq_append_iff.mp hb with ⟨more, hm, hr⟩ | ⟨cut, hc, hr⟩
  · have hlen := congrArg List.length hr
    simp only [List.length_append] at hlen
    omega
  · refine ⟨cut, ?_, hr, ?_⟩
    · rintro rfl
      simp [hr] at hl
    · have := congrArg List.reverse hc
      simpa using this

theorem scan_delimiter_cut {escape : UInt8} {delimiter scanned line scanned' rest : Bytes}
    {context : Context}
    (hno : lineFeed ∉ line)
    (h : scan escape delimiter scanned context line = .delimiter scanned' rest) :
    ∃ cut, cut ≠ [] ∧ line = cut ++ rest ∧ scanned' = cut.reverse ++ scanned ∧
      lineFeed ∉ cut ∧ lineFeed ∉ rest := by
  obtain ⟨cut, hne, hline, hscanned⟩ := scan_delimiter_split h
  rw [hline, List.mem_append, not_or] at hno
  exact ⟨cut, hne, hline, hscanned, hno⟩

theorem scan_lineEnd_scanned {escape : UInt8} {delimiter scanned line scanned' : Bytes}
    {context context' : Context}
    (h : scan escape delimiter scanned context line = .lineEnd scanned' context') :
    scanned' = line.reverse ++ scanned := by
  have := congrArg List.reverse (scan_lineEnd h)
  simpa using this

theorem count_lineFeed_reverse_append {cut scanned : Bytes} (h : lineFeed ∉ cut) :
    (cut.reverse ++ scanned).count lineFeed = scanned.count lineFeed := by
  rw [List.count_append, List.count_reverse, List.count_eq_zero_of_not_mem h, Nat.zero_add]

theorem Draft.Sound.cleared {draft : Draft} {pending : Option Bytes}
    (h : ∀ line, pending = some line → lineFeed ∉ line) : (draft.cleared pending).Sound :=
  ⟨h, fun hs => absurd rfl hs⟩

theorem Draft.Sound.lineEnd {draft : Draft} {escape : UInt8} {line scanned : Bytes}
    {context : Context} (h : draft.Sound) (hp : draft.pending = some line)
    (cut : scan escape draft.delimiter draft.onLine.scanned draft.context line =
      .lineEnd scanned context) :
    { draft.onLine with scanned, context, pending := none, inProgress := true : Draft }.Sound := by
  refine ⟨fun _ he => (nomatch he), ?_⟩
  intro _
  have hcount := h.onLine_lines hp
  change draft.onLine.firstLine + scanned.count lineFeed + 0 = draft.onLine.lineNumber
  rw [scan_lineEnd_scanned cut, count_lineFeed_reverse_append (h.pending line hp),
    draft.onLine_lineNumber]
  omega

theorem scan_lineEnd_nil {draft : Draft} {escape : UInt8} {line : Bytes} {context : Context}
    (cut : scan escape draft.delimiter draft.onLine.scanned draft.context line =
      .lineEnd [] context) : line = [] ∧ draft.scanned = [] ∧ context = draft.context := by
  obtain ⟨hl, ho⟩ := List.append_eq_nil_iff.mp (scan_lineEnd_scanned cut).symm
  have hline : line = [] := by simpa using hl
  have hidle : draft.scanned = [] := by
    by_cases hb : draft.scanned = []
    · exact hb
    · simp [Draft.onLine_of_begun hb] at ho
  refine ⟨hline, hidle, ?_⟩
  simp only [hline, scan, ScanEnd.lineEnd.injEq] at cut
  exact cut.2.symm

theorem Draft.Sound.loadLine {draft : Draft} {line : Bytes} (h : draft.Sound)
    (hp : draft.pending = none) (hl : lineFeed ∉ line) :
    (draft.loadLine line (draft.lineNumber + 1)).Sound := by
  refine ⟨?_, ?_⟩
  · intro line' he
    cases he
    exact hl
  · intro hs
    have hlines := h.lines hs
    simp only [hp, Option.isSome_none, Bool.false_eq_true, ↓reduceIte] at hlines
    change draft.firstLine + draft.scanned.count lineFeed + 1 = draft.lineNumber + 1
    omega

theorem ScriptReader.Sound.step {reader : ScriptReader} (h : reader.Sound) :
    reader.step.reader.Sound := by
  have hs := reader.stepOf
  generalize reader.step = result at hs ⊢
  cases hs with
  | directive pending idle code parsed =>
    exact ⟨Draft.Sound.cleared (by simp), fun _ _ => rfl, h.lineNumber, h.ended⟩
  | @delimiter line scanned rest pending plain cut =>
    refine ⟨Draft.Sound.cleared ?_, fun _ _ => rfl, ?_, h.ended⟩
    · intro line' he
      obtain ⟨_, _, _, _, _, hrest⟩ := scan_delimiter_cut (h.draft.pending line pending) cut
      split at he
      next => simp at he
      next =>
        cases he
        exact hrest
    · change reader.draft.onLine.lineNumber = _
      rw [reader.draft.onLine_lineNumber]
      exact h.lineNumber
  | @lineEnd line scanned context pending plain cut =>
    refine ⟨h.draft.lineEnd pending cut, ?_, ?_, h.ended⟩
    · intro hn _
      change scanned = [] at hn
      rw [hn] at cut
      obtain ⟨_, hidle, hc⟩ := scan_lineEnd_nil cut
      exact hc.trans (h.code hidle (.inl (by simp [pending])))
    · change reader.draft.onLine.lineNumber = _
      rw [reader.draft.onLine_lineNumber]
      exact h.lineNumber
  | @line line pending input read =>
    have hcount := LineReader.linesRead_of_line read
    refine ⟨?_, fun hn _ => h.code hn (.inr input), rfl, ?_⟩
    · rw [Step.reader, hcount, ← h.lineNumber]
      exact h.draft.loadLine pending (LineReader.lineFeed_notMem_next read)
    · intro failure asked he
      rw [Step.reader, input] at he
      simp at he
  | inputEnd failure pending input read =>
    have hnone : reader.lines.next.reader = ⟨.ended, reader.lines.linesRead⟩ :=
      LineReader.next_of_noLine (LineReader.noLine_of_end read)
    refine ⟨h.draft, fun hn _ => h.code hn (.inr input), ?_, ?_⟩
    · change reader.draft.lineNumber = reader.lines.next.reader.linesRead
      rw [hnone]
      exact h.lineNumber
    · intro _ _ _
      change reader.lines.next.reader.linesLeft = []
      rw [hnone, LineReader.linesLeft_ended]
  | remainder pending input begun =>
    refine ⟨⟨h.draft.pending, fun hs => absurd rfl hs⟩, ?_, h.lineNumber, h.ended⟩
    intro _ hopen
    simp [Step.reader, ScriptReader.hold, pending, input] at hopen
  | nothingLeft pending input idle =>
    exact ⟨⟨h.draft.pending, h.draft.lines⟩, h.code, h.lineNumber, h.ended⟩

theorem ScriptReader.opened_sound (access : Access) (source : Source) (settings : Settings) :
    (ScriptReader.opened access source settings).Sound := by
  have hd : (Draft.withDelimiter settings.delimiter).Sound :=
    ⟨fun _ he => (nomatch he), fun hs => absurd rfl hs⟩
  exact ⟨hd, fun _ _ => rfl, rfl, fun _ _ he => nomatch he⟩

theorem ScriptReader.kept_sound : Kept Sound where
  step _ _ h := h.step
  taken _ h := ⟨h.draft, h.code, h.lineNumber, h.ended⟩
  asked reader _ h := by
    unfold askFailure
    split
    next failure hi =>
      refine ⟨h.draft, ?_, h.lineNumber, fun _ _ _ => h.ended failure false hi⟩
      intro hn hopen
      rcases hopen with hp | hi
      · exact h.code hn (.inl hp)
      · simp at hi
    next => exact h

theorem Reaches.sound {start reader : ScriptReader} {handed : List Statement}
    (sound : start.Sound) (h : Reaches start handed reader) : reader.Sound :=
  h.kept ScriptReader.kept_sound sound

/-- What the step with which a search ends brings about holds when it has ended. -/
theorem ScriptReader.advance_ends {P : ScriptReader → Prop}
    (ended : ∀ reader : ScriptReader, (∀ next, reader.step ≠ .more next) → P reader.step.reader)
    {reader : ScriptReader} (h : reader.ready.isSome = true → P reader) : P reader.advance.2 := by
  fun_induction advance reader with
  | case1 reader hr => exact h hr
  | case2 reader hr next hs =>
    have hp := ended reader (by simp [hs])
    rwa [hs] at hp
  | case3 reader hr next hs =>
    have hp := ended reader (by simp [hs])
    rwa [hs] at hp
  | case4 reader hr next hs ih =>
    apply ih
    intro hn
    rw [step_more_ready hs] at hn
    exact absurd hn hr

/-- Between requests no statement is half made. -/
theorem Reaches.scanned_nil {start reader : ScriptReader} {handed : List Statement}
    (fresh : start.draft.scanned = []) (h : Reaches start handed reader) :
    reader.draft.scanned = [] := by
  induction h with
  | start => exact fresh
  | @advance handed reader h ih =>
    apply reader.advance_ends (P := fun reader => reader.draft.scanned = []) _ fun _ => ih
    intro reader ends
    have hs := reader.stepOf
    generalize reader.step = result at hs ends ⊢
    cases hs with
    | nothingLeft pending input idle => exact idle
    | lineEnd => exact absurd rfl (ends _)
    | line => exact absurd rfl (ends _)
    | inputEnd => exact absurd rfl (ends _)
    | _ => rfl
  | take h ih => exact ih
  | @ask handed reader h hd ih =>
    unfold ScriptReader.askFailure
    split <;> exact ih

end SqlScript

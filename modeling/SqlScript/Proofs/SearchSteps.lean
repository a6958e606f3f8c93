import SqlScript.Proofs.AtRest

namespace SqlScript

/-- What is open as separate marks, which could also contradict one another. -/
structure Marks where
  quote? : Option Quote
  escaped : Bool
  comment : Bool
  deriving DecidableEq, Repr

def Context.marks (context : Context) : Marks :=
  ⟨context.quote?, context.isEscaped, context.isComment⟩

@[simp] theorem Context.marks_code : Context.code.marks = ⟨none, false, false⟩ := rfl

@[simp] theorem Context.marks_comment : Context.comment.marks = ⟨none, false, true⟩ := rfl

/-- Where a scan that keeps marks stopped; something might be open after a delimiter. -/
inductive MarkedEnd
  | delimiter (scanned rest : Bytes) (marks : Marks)
  | lineEnd (scanned : Bytes) (marks : Marks)

def ScanEnd.marked : ScanEnd → MarkedEnd
  | .delimiter scanned rest => .delimiter scanned rest ⟨none, false, false⟩
  | .lineEnd scanned context => .lineEnd scanned context.marks

/-- What a byte inside a quote does to the marks. -/
def Marks.inQuote (marks : Marks) (escape : UInt8) (quote : Quote) (b : UInt8) : Marks :=
  if marks.escaped then { marks with escaped := false }
  else if b = escape then { marks with escaped := true }
  else if b = quote.byte then { marks with quote? := none }
  else marks

/-- Scans a line as `scan` does, changing one mark at a time. -/
def scanMarked (escape : UInt8) (delimiter scanned : Bytes) : Marks → Bytes → MarkedEnd
  | marks, [] => .lineEnd scanned marks
  | ⟨some quote, escaped, comment⟩, b :: rest =>
    scanMarked escape delimiter (b :: scanned)
      (Marks.inQuote ⟨some quote, escaped, comment⟩ escape quote b) rest
  | ⟨none, escaped, true⟩, star :: slash :: rest =>
    scanMarked escape delimiter (slash :: star :: scanned) ⟨none, escaped, false⟩ rest
  | ⟨none, escaped, true⟩, b :: rest =>
    scanMarked escape delimiter (b :: scanned) ⟨none, escaped, true⟩ rest
  | ⟨none, escaped, false⟩, slash :: star :: rest =>
    scanMarked escape delimiter (star :: slash :: scanned) ⟨none, escaped, true⟩ rest
  | ⟨none, escaped, false⟩, dash :: dash :: rest =>
    .lineEnd (rest.reverseAux (dash :: dash :: scanned)) ⟨none, escaped, false⟩
  | ⟨none, escaped, false⟩, hash :: rest =>
    .lineEnd (rest.reverseAux (hash :: scanned)) ⟨none, escaped, false⟩
  | ⟨none, escaped, false⟩, b :: rest =>
    match Quote.ofByte? b with
    | some quote => scanMarked escape delimiter (b :: scanned) ⟨some quote, escaped, false⟩ rest
    | none =>
      match afterDelimiter? delimiter (b :: rest) with
      | some after => .delimiter (delimiter.reverseAux scanned) after ⟨none, escaped, false⟩
      | none => scanMarked escape delimiter (b :: scanned) ⟨none, escaped, false⟩ rest

theorem quotedNext_marks (escape : UInt8) (quote : Quote) (escaped : Bool) (b : UInt8) :
    (quotedNext escape quote escaped b).marks =
      Marks.inQuote ⟨some quote, escaped, false⟩ escape quote b := by
  unfold quotedNext Marks.inQuote
  cases escaped with
  | true => rfl
  | false =>
    simp only [Bool.false_eq_true, ↓reduceIte]
    split
    · rfl
    · split <;> rfl

/-- Marks kept apart never contradict one another, and none is set where the delimiter is found. -/
theorem scanMarked_marks (escape : UInt8) (delimiter scanned : Bytes) (context : Context)
    (line : Bytes) :
    scanMarked escape delimiter scanned context.marks line =
      (scan escape delimiter scanned context line).marked := by
  fun_induction scan escape delimiter scanned context line with
  | case1 => rw [scanMarked]; rfl
  | case2 scanned quote escaped b rest ih =>
    rw [quotedNext_marks] at ih
    exact ih
  | case3 scanned rest ih => exact ih
  | case4 scanned b rest hne ih =>
    simp only [Context.marks_comment, scanMarked]
    exact ih
  | case5 scanned rest ih => exact ih
  | case6 scanned rest => rfl
  | case7 scanned rest => rfl
  | case8 scanned b rest hcomment hdashes hhash quote hquote ih =>
    simp only [Context.marks_code, scanMarked, hquote]
    exact ih
  | case9 scanned b rest hcomment hdashes hhash hquote after hafter =>
    simp only [Context.marks_code, scanMarked, hquote, hafter]
    rfl
  | case10 scanned b rest hcomment hdashes hhash hquote hafter ih =>
    simp only [Context.marks_code, scanMarked, hquote, hafter]
    exact ih

/-- What scanning its pending line makes of a draft, with all that is open before and after it as
marks. -/
inductive Draft.Fed (draft : Draft) (escape : UInt8) (line : Bytes) :
    Option Statement × Draft → Prop
  | incomplete {next : Draft} (delimiter : next.delimiter = draft.delimiter)
      (lineNumber : next.lineNumber = draft.lineNumber)
      (marks : scanMarked escape draft.delimiter draft.onLine.scanned draft.context.marks line =
        .lineEnd next.scanned next.context.marks)
      (pending : next.pending = none)
      (bytes : next.bytes = draft.bytes ++ (draft.joint ++ line)) :
      Fed draft escape line (none, next)
  | complete {statement : Statement} {next : Draft} {cut : Bytes}
      (delimiter : next.delimiter = draft.delimiter)
      (lineNumber : next.lineNumber = draft.lineNumber)
      (marks : scanMarked escape draft.delimiter draft.onLine.scanned draft.context.marks line =
        .delimiter statement.bytes.reverse (next.pending.getD []) next.context.marks)
      (closed : next.context.marks = ⟨none, false, false⟩)
      (bytes : next.bytes = [])
      (made : statement.bytes = draft.bytes ++ (draft.joint ++ cut))
      (left : cut ++ next.pending.getD [] = line) :
      Fed draft escape line (some statement, next)

theorem Draft.scanLine_fed (draft : Draft) (escape : UInt8) (line : Bytes) :
    draft.Fed escape line (draft.scanLine escape line) := by
  have hmarks := scanMarked_marks escape draft.delimiter draft.onLine.scanned draft.context line
  have honLine : draft.onLine.scanned.reverse = draft.bytes ++ draft.joint := draft.onLine_bytes
  unfold scanLine
  dsimp only
  split
  next scanned rest h =>
    obtain ⟨cut, -, hline, hscanned⟩ := scan_delimiter_split h
    rw [h] at hmarks
    have hmade : scanned.reverse = draft.bytes ++ (draft.joint ++ cut) := by
      rw [hscanned, List.reverse_append, List.reverse_reverse, honLine, List.append_assoc]
    have hleft : (if rest.isEmpty then none else some rest).getD [] = rest := by cases rest <;> rfl
    generalize (if rest.isEmpty then none else some rest) = pending at hleft ⊢
    refine .complete draft.onLine_delimiter draft.onLine_lineNumber ?_ rfl rfl hmade ?_
    · change _ = MarkedEnd.delimiter scanned.reverse.reverse (pending.getD []) _
      rw [hmarks, List.reverse_reverse, hleft]
      rfl
    · change cut ++ pending.getD [] = line
      rw [hleft, hline]
  next scanned context h =>
    rw [h] at hmarks
    refine .incomplete draft.onLine_delimiter draft.onLine_lineNumber hmarks rfl ?_
    change scanned.reverse = _
    rw [scan_lineEnd h, honLine, List.append_assoc]

/-- What holds of a draft between the steps of a search; a blank line is progress without bytes. -/
structure Draft.Steady (draft : Draft) : Prop where
  escaped : draft.context.isEscaped → draft.context.quote?.isSome
  oneContext : ¬(draft.context.quote?.isSome ∧ draft.context.isComment)
  opened : draft.context.quote?.isSome ∨ draft.context.isComment → draft.bytes ≠ []
  begun : draft.bytes ≠ [] → draft.inProgress = true

theorem Context.eq_code_iff {context : Context} :
    context = .code ↔ ¬(context.quote?.isSome = true ∨ context.isComment = true) := by
  cases context <;> simp [quote?, isComment]

theorem Draft.steady_iff {draft : Draft} :
    draft.Steady ↔ (draft.scanned = [] → draft.context = .code) ∧
      (draft.scanned ≠ [] → draft.inProgress = true) := by
  constructor
  · intro h
    refine ⟨fun hs => ?_, fun hs => h.begun (mt bytes_eq_nil_iff.mp hs)⟩
    exact Context.eq_code_iff.mpr fun ho => h.opened ho (bytes_eq_nil_iff.mpr hs)
  · rintro ⟨hcode, hbegun⟩
    refine ⟨Context.quote?_of_isEscaped, Context.not_quote?_and_isComment _, ?_, ?_⟩
    · intro ho hb
      exact Context.eq_code_iff.mp (hcode (bytes_eq_nil_iff.mp hb)) ho
    · exact fun hb => hbegun (mt bytes_eq_nil_iff.mpr hb)

/-- A step keeps a draft steady unless it takes what the end of input has left. -/
theorem ScriptReader.step_steady {reader : ScriptReader} (h : reader.draft.Steady)
    (undrained : reader.draft.pending.isSome ∨ reader.isExhausted = false) :
    reader.step.reader.draft.Steady := by
  rw [Draft.steady_iff] at h ⊢
  obtain ⟨hcode, hbegun⟩ := h
  have hs := reader.stepOf
  generalize reader.step = result at hs ⊢
  cases hs with
  | directive pending idle code parsed => exact ⟨fun _ => rfl, fun hne => absurd rfl hne⟩
  | delimiter pending plain cut => exact ⟨fun _ => rfl, fun hne => absurd rfl hne⟩
  | @lineEnd line scanned context pending plain cut =>
    refine ⟨?_, fun _ => rfl⟩
    intro hn
    change scanned = [] at hn
    rw [hn] at cut
    obtain ⟨-, hidle, hcontext⟩ := scan_lineEnd_nil cut
    exact hcontext.trans (hcode hidle)
  | line pending input read => exact ⟨hcode, hbegun⟩
  | inputEnd failure pending input read => exact ⟨hcode, hbegun⟩
  | remainder pending input begun | nothingLeft pending input idle =>
    simp [pending, ScriptReader.isExhausted, input] at undrained

/-- The readers between the steps of searches, until what the end of input leaves is taken. -/
inductive ScriptReader.Visits (start : ScriptReader) : ScriptReader → Prop
  | answered (requests : List Pull)
      (unfinished : (start.pulls requests).2.isExhausted = false) :
      Visits start (start.pulls requests).2
  | step {here : ScriptReader} (visited : Visits start here) (searching : here.ready = none)
      (undrained : here.draft.pending.isSome ∨ here.isExhausted = false) :
      Visits start here.step.reader

theorem ScriptReader.Visits.steady {access : Access} {source : Source} {settings : Settings}
    {here : ScriptReader} (h : Visits (opened access source settings) here) :
    here.draft.Steady := by
  induction h with
  | answered requests unfinished =>
    have fresh := opened_ready access source settings
    have reached := Reaches.start.pulls fresh requests
    have hs := reached.scanned_nil rfl
    have hsound := reached.sound (opened_sound access source settings)
    have hcode := hsound.code hs (.inr (isExhausted_eq_false_iff.mp unfinished))
    exact Draft.steady_iff.mpr ⟨fun _ => hcode, fun hne => absurd hs hne⟩
  | step visited searching undrained ih => exact step_steady ih undrained

/-- Between the steps of a search a quote or a comment is open only in a statement that has bytes.
-/
theorem draft_between_steps (access : Access) (source : Source) (settings : Settings)
    {here : ScriptReader}
    (visited : ScriptReader.Visits (ScriptReader.opened access source settings) here) :
    here.draft.Steady ∧
      (let line := here.draft.pending.getD []
       here.draft.Fed here.escape line (here.draft.scanLine here.escape line)) ∧
      ∀ line, here.draft.takeDirective? line =
        if here.draft.bytes = [] then
          (newDelimiter? line).map fun delimiter =>
            { here.draft with
              delimiter, pending := none, firstLine := here.draft.lineNumber,
              scanned := line.reverse }.finish .directive
        else none := by
  have hsteady := visited.steady
  refine ⟨hsteady, here.draft.scanLine_fed here.escape _, ?_⟩
  intro line
  have hcode := (Draft.steady_iff.mp hsteady).1
  unfold Draft.takeDirective?
  simp only [Draft.bytes_eq_nil_iff, List.isEmpty_iff]
  by_cases hs : here.draft.scanned = []
  · rw [if_pos ⟨hs, hcode hs⟩, if_pos hs]
  · rw [if_neg fun h => hs h.1, if_neg hs]

/-- A blank line, then a quote that is open where a line ends with an escape, and the delimiter
after it. -/
theorem draft_between_steps_escaped :
    let start := ScriptReader.opened .direct [.data (Bytes.ofText "\nselect 'x\\\n'';b")] default
    let blank := start.step.reader.step.reader
    let here := blank.step.reader.step.reader.step.reader
    blank.draft.bytes = [] ∧ blank.draft.inProgress = true ∧
      here.draft.context = .quoted .single true ∧ here.draft.bytes = Bytes.ofText "select 'x\\" ∧
      here.draft.pending = some (Bytes.ofText "'';b") ∧ here.draft.Steady ∧
      here.draft.Fed here.escape (Bytes.ofText "'';b")
        (here.draft.scanLine here.escape (Bytes.ofText "'';b")) ∧
      here.step.reader.draft.pending = some (Bytes.ofText "b") := by
  intro start blank here
  have visited : ScriptReader.Visits start here := by
    have fresh : ScriptReader.Visits start start := .answered [] (by decide +kernel)
    have first := fresh.step (by decide +kernel) (by decide +kernel)
    have second := first.step (by decide +kernel) (by decide +kernel)
    have third := second.step (by decide +kernel) (by decide +kernel)
    have fourth := third.step (by decide +kernel) (by decide +kernel)
    exact fourth.step (by decide +kernel) (by decide +kernel)
  have hpending : here.draft.pending = some (Bytes.ofText "'';b") := by decide +kernel
  obtain ⟨hsteady, hfed, -⟩ := draft_between_steps .direct _ default visited
  rw [hpending] at hfed
  exact ⟨by decide +kernel, by decide +kernel, by decide +kernel, by decide +kernel, hpending,
    hsteady, hfed, by decide +kernel⟩

end SqlScript

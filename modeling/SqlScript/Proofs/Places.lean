import SqlScript.Proofs.Delivery
import SqlScript.Proofs.Continuation

namespace SqlScript

/-- One step of the scan of a line: what the bytes after it stand in, and these bytes, if there are
any. -/
def scanNext (escape : UInt8) (delimiter : Bytes) :
    TextContext → Bytes → Option (TextContext × Bytes)
  | _, [] => none
  | .quoted quote escaped, b :: rest => some ((quotedNext escape quote escaped b).inText, rest)
  | .blockComment, star :: slash :: rest => some (.code, rest)
  | .blockComment, _ :: rest => some (.blockComment, rest)
  | .lineComment, _ :: rest => some (.lineComment, rest)
  | .code, slash :: star :: rest => some (.blockComment, rest)
  | .code, dash :: dash :: rest => some (.lineComment, rest)
  | .code, hash :: rest => some (.lineComment, rest)
  | .code, b :: rest =>
    match Quote.ofByte? b with
    | some quote => some (.quoted quote false, rest)
    | none =>
      match afterDelimiter? delimiter (b :: rest) with
      | some _ => none
      | none => some (.code, rest)

/-- What the steps of the scan of a line lead to. -/
inductive Scans (escape : UInt8) (delimiter : Bytes) (place : TextContext) (line : Bytes) :
    TextContext → Bytes → Prop
  | start : Scans escape delimiter place line place line
  | step {place' next : TextContext} {rest after : Bytes} :
      Scans escape delimiter place line place' rest →
      scanNext escape delimiter place' rest = some (next, after) →
      Scans escape delimiter place line next after

/-- The scan of a line from any place on. A comment up to the end of the line takes all of it. -/
def scanFrom (escape : UInt8) (delimiter scanned : Bytes) : TextContext → Bytes → ScanEnd
  | .code, line => scan escape delimiter scanned .code line
  | .quoted quote escaped, line => scan escape delimiter scanned (.quoted quote escaped) line
  | .blockComment, line => scan escape delimiter scanned .comment line
  | .lineComment, line => .lineEnd (line.reverse ++ scanned) .code

section

variable {escape : UInt8} {delimiter scanned line rest : Bytes} {place next : TextContext}

@[simp] theorem scanFrom_inText (context : Context) :
    scanFrom escape delimiter scanned context.inText line =
      scan escape delimiter scanned context line := by
  cases context <;> rfl

theorem scanFrom_nil (escape : UInt8) (delimiter scanned : Bytes) (place : TextContext) :
    ∃ context, scanFrom escape delimiter scanned place [] = .lineEnd scanned context := by
  cases place <;> exact ⟨_, rfl⟩

theorem scanNext_comment {b : UInt8}
    (hclose : ∀ after, b = star → rest = slash :: after → False) :
    scanNext escape delimiter .blockComment (b :: rest) = some (.blockComment, rest) := by
  rw [scanNext]
  exact hclose

theorem scanNext_code {b : UInt8}
    (hblock : ∀ after, b = slash → rest = star :: after → False)
    (hline : ∀ after, b = dash → rest = dash :: after → False) (hhash : b = hash → False) :
    scanNext escape delimiter .code (b :: rest) =
      match Quote.ofByte? b with
      | some quote => some (.quoted quote false, rest)
      | none =>
        match afterDelimiter? delimiter (b :: rest) with
        | some _ => none
        | none => some (.code, rest) := by
  rw [scanNext]
  all_goals first | rfl | assumption

theorem scan_comment {b : UInt8} {rest : Bytes}
    (hclose : ∀ after, b = star → rest = slash :: after → False) :
    scan escape delimiter scanned .comment (b :: rest) =
      scan escape delimiter (b :: scanned) .comment rest := by
  rw [scan]
  exact hclose

theorem scan_code {b : UInt8} {rest : Bytes}
    (hblock : ∀ after, b = slash → rest = star :: after → False)
    (hline : ∀ after, b = dash → rest = dash :: after → False) (hhash : b = hash → False) :
    scan escape delimiter scanned .code (b :: rest) =
      match Quote.ofByte? b with
      | some quote => scan escape delimiter (b :: scanned) (.quoted quote false) rest
      | none =>
        match afterDelimiter? delimiter (b :: rest) with
        | some after => .delimiter (delimiter.reverseAux scanned) after
        | none => scan escape delimiter (b :: scanned) .code rest := by
  rw [scan]
  all_goals first | rfl | assumption

/-- A step reads bytes, and the scan goes on from what it leads to, whatever of the line is there
after it. -/
theorem scanFrom_of_scanNext (h : scanNext escape delimiter place line = some (next, rest)) :
    ∃ front, front ≠ [] ∧ line = front ++ rest ∧ ∀ text, text <+: rest → ∀ scanned,
      scanFrom escape delimiter scanned place (front ++ text) =
        scanFrom escape delimiter (front.reverse ++ scanned) next text := by
  revert h
  fun_cases scanNext escape delimiter place line with
  | case1 => simp
  | case2 quote escaped b rest' =>
    rintro ⟨⟩
    refine ⟨[b], by simp, rfl, fun text ht scanned => ?_⟩
    rw [scanFrom_inText]
    rfl
  | case3 rest' =>
    rintro ⟨⟩
    exact ⟨[star, slash], by simp, rfl, fun text ht scanned => rfl⟩
  | case4 b rest' hclose =>
    rintro ⟨⟩
    refine ⟨[b], by simp, rfl, fun text ht scanned => ?_⟩
    exact scan_comment ((BeginsAs.of_isPrefix ht).notFollowed (by decide) hclose)
  | case5 b rest' =>
    rintro ⟨⟩
    exact ⟨[b], by simp, rfl, fun text ht scanned => by simp [scanFrom]⟩
  | case6 rest' =>
    rintro ⟨⟩
    exact ⟨[slash, star], by simp, rfl, fun text ht scanned => rfl⟩
  | case7 rest' =>
    rintro ⟨⟩
    exact ⟨[dash, dash], by simp, rfl, fun text ht scanned =>
      congrArg (ScanEnd.lineEnd · .code) List.reverseAux_eq⟩
  | case8 rest' =>
    rintro ⟨⟩
    exact ⟨[hash], by simp, rfl, fun text ht scanned =>
      congrArg (ScanEnd.lineEnd · .code) List.reverseAux_eq⟩
  | case9 b rest' hblock hline hhash quote hquote =>
    rintro ⟨⟩
    refine ⟨[b], by simp, rfl, fun text ht scanned => ?_⟩
    have hb := BeginsAs.of_isPrefix ht
    refine (scan_code (hb.notFollowed (by decide) hblock) (hb.notFollowed (by decide) hline)
      hhash).trans ?_
    rw [hquote]
    rfl
  | case10 => simp
  | case11 b rest' hblock hline hhash hquote hafter =>
    rintro ⟨⟩
    refine ⟨[b], by simp, rfl, fun text ht scanned => ?_⟩
    have hb := BeginsAs.of_isPrefix ht
    have hnone : afterDelimiter? delimiter (b :: text) = none :=
      afterDelimiter?_of_isPrefix hafter (List.cons_prefix_cons.mpr ⟨rfl, ht⟩)
    refine (scan_code (hb.notFollowed (by decide) hblock) (hb.notFollowed (by decide) hline)
      hhash).trans ?_
    simp only [hquote, hnone]
    rfl

theorem Scans.cons (h : scanNext escape delimiter place line = some (next, rest))
    (later : Scans escape delimiter next rest last after) :
    Scans escape delimiter place line last after := by
  induction later with
  | start => exact .step .start h
  | step _ hn ih => exact ih.step hn

theorem scanFrom_of_scans (h : Scans escape delimiter place line next rest) :
    ∃ front, line = front ++ rest ∧ (front = [] → next = place) ∧ ∀ text, text <+: rest →
      ∀ scanned, scanFrom escape delimiter scanned place (front ++ text) =
        scanFrom escape delimiter (front.reverse ++ scanned) next text := by
  induction h with
  | start => exact ⟨[], rfl, fun _ => rfl, fun text ht scanned => rfl⟩
  | @step place' next rest after h hn ih =>
    obtain ⟨front, rfl, -, hfront⟩ := ih
    obtain ⟨read, hne, rfl, hread⟩ := scanFrom_of_scanNext hn
    refine ⟨front ++ read, by simp, fun hnil => ?_, fun text ht scanned => ?_⟩
    · exact absurd (List.append_eq_nil_iff.mp hnil).2 hne
    · have hprefix : read ++ text <+: read ++ after := (List.prefix_append_right_inj read).mpr ht
      rw [List.append_assoc, hfront _ hprefix, hread text ht]
      simp

/-- The scan of a line from any place is that of the text up to the end of the line. -/
theorem cutText_eq_scanFrom (escape : UInt8) (delimiter scanned : Bytes) (place : TextContext)
    {line text : Bytes} (hl : lineFeed ∉ line) (ht : AtLineEnd text) :
    keep scanned.reverse
        (cutText (usableEscape escape) (usableDelimiter delimiter) place (line ++ text)) =
      (scanFrom escape delimiter scanned place line).inText escape delimiter text := by
  cases place with
  | code => exact cutText_eq_scan escape delimiter scanned .code hl ht
  | quoted quote escaped =>
    exact cutText_eq_scan escape delimiter scanned (.quoted quote escaped) hl ht
  | blockComment => exact cutText_eq_scan escape delimiter scanned .comment hl ht
  | lineComment =>
    rw [cutText_lineComment hl ht]
    simp [scanFrom, ScanEnd.inText, Context.inText]

/-- What the scan of a line comes past holds no delimiter, and from there on the text is cut as it
stands there. -/
theorem cutText_of_scans {text : Bytes} (h : Scans escape delimiter place line next rest)
    (hl : lineFeed ∉ line) (ht : AtLineEnd text) :
    ∃ front, line = front ++ rest ∧ (front = [] → next = place) ∧
      cutText (usableEscape escape) (usableDelimiter delimiter) place front = none ∧
      cutText (usableEscape escape) (usableDelimiter delimiter) place (line ++ text) =
        keep front (cutText (usableEscape escape) (usableDelimiter delimiter) next
          (rest ++ text)) := by
  obtain ⟨front, rfl, hnil, hscan⟩ := scanFrom_of_scans h
  rw [List.mem_append, not_or] at hl
  refine ⟨front, rfl, hnil, ?_, ?_⟩
  · have hfront := cutText_eq_scanFrom escape delimiter [] place hl.1 (.inl rfl)
    obtain ⟨context, hend⟩ := scanFrom_nil escape delimiter (front.reverse ++ []) next
    have hread := hscan [] List.nil_prefix []
    rw [List.append_nil front] at hread
    rw [List.append_nil, hread, hend, ScanEnd.inText, cutText_nil, keep_none, List.reverse_nil,
      keep_nil] at hfront
    exact hfront
  · have hboth : lineFeed ∉ front ++ rest := by simp [hl]
    have hwhole := cutText_eq_scanFrom escape delimiter [] place hboth ht
    have hrest := cutText_eq_scanFrom escape delimiter (front.reverse ++ []) next hl.2 ht
    rw [hscan rest (List.prefix_refl _), ← hrest] at hwhole
    simpa using hwhole

end

/-- The reader after a step, with the statement that the step makes, if it makes one, taken. -/
def ScriptReader.stepTaken (reader : ScriptReader) : ScriptReader :=
  { reader.step.reader with ready := none }

/-- What the steps of a reader lead to, with the statements made on the way. -/
inductive Passes (start : ScriptReader) : List Statement → ScriptReader → Prop
  | start : start.ready = none → Passes start [] start
  | step {made : List Statement} {reader : ScriptReader} : Passes start made reader →
      Passes start (made ++ reader.step.statements) reader.stepTaken

namespace Passes

variable {start reader : ScriptReader} {made : List Statement}

theorem ready (h : Passes start made reader) : reader.ready = none := by
  cases h with
  | start fresh => exact fresh
  | step => rfl

theorem kept {P : ScriptReader → Prop} (kept : ScriptReader.Kept P) (hs : P start)
    (h : Passes start made reader) : P reader := by
  induction h with
  | start => exact hs
  | @step made reader h ih => exact kept.taken _ (kept.step reader h.ready ih)

theorem cons (fresh : start.ready = none) (h : Passes start.stepTaken made reader) :
    Passes start (start.step.statements ++ made) reader := by
  induction h with
  | start =>
    rw [List.append_nil, ← List.nil_append start.step.statements]
    exact (Passes.start fresh).step
  | step h ih =>
    rw [← List.append_assoc]
    exact ih.step

/-- What has been made on the way and what is still to come make up what there was at the start. -/
theorem drain (h : Passes start made reader) :
    start.drain = (made ++ reader.drain.1, reader.drain.2) := by
  induction h with
  | start => rfl
  | @step made reader h ih =>
    rw [ih, List.append_assoc]
    cases hs : reader.step with
    | found next =>
      obtain ⟨statement, hn, _⟩ := ScriptReader.step_found_ready hs
      rw [ScriptReader.drain_of_found h.ready hs, ScriptReader.drain_of_ready hn]
      simp [ScriptReader.stepTaken, hs, Step.statements, Step.reader, hn]
    | nothingLeft next =>
      have hd := ScriptReader.step_nothingLeft_done h.ready hs
      have hnext : reader.stepTaken = next := by
        simp only [ScriptReader.stepTaken, hs, Step.reader, ← hd.1]
      rw [ScriptReader.drain_of_nothingLeft h.ready hs, hnext, hd.drain]
      rfl
    | more next =>
      have hready := (ScriptReader.step_more_ready hs).trans h.ready
      have hnext : reader.stepTaken = next := by
        simp only [ScriptReader.stepTaken, hs, Step.reader, ← hready]
      rw [ScriptReader.drain_of_more h.ready hs, hnext]
      rfl

theorem delimiter {f : Bytes → Bytes}
    (parsed : ∀ line delimiter, lineFeed ∉ line → newDelimiter? line = some delimiter →
      f delimiter = delimiter)
    (sound : start.Sound) (h : Passes start made reader) :
    f reader.delimiter = delimiterAfter (f start.delimiter) made := by
  induction h with
  | start => rfl
  | @step made reader h ih =>
    have hsound : reader.Sound := h.kept ScriptReader.kept_sound sound
    rw [delimiterAfter_append, ← ih, ← hsound.delimiter_step parsed]
    rfl

theorem reads (sound : start.Sound) (h : Passes start made reader) :
    ∃ front, start.Reads front made reader := by
  induction h with
  | start => exact ⟨[], .refl start⟩
  | @step made reader h ih =>
    have hsound : reader.Sound := h.kept ScriptReader.kept_sound sound
    obtain ⟨front, hfront⟩ := ih
    obtain ⟨read, hread⟩ := hsound.reads_step
    have hboth := hfront.trans hread
    -- Taking the statement that is ready changes nothing that is left.
    exact ⟨front ++ read, hboth.left, hboth.begun, hboth.pass⟩

end Passes

theorem ScriptReader.Done.stepTaken {reader : ScriptReader} (done : reader.Done) :
    reader.stepTaken = reader := by
  rw [ScriptReader.stepTaken, done.2, Step.reader, ← done.1]

theorem ScriptReader.Done.passes {start reader : ScriptReader} {made : List Statement}
    (done : start.Done) (h : Passes start made reader) : reader = start := by
  induction h with
  | start => rfl
  | step h ih => rw [ih, done.stepTaken]

/-- Whether a reader comes to a place where this text is left, in scanning a line that is no
directive. -/
inductive ScriptReader.Meets (start : ScriptReader) (place : TextContext) (left : Bytes) : Prop
  | scanning {made : List Statement} {reader : ScriptReader} {line rest : Bytes}
      (passes : Passes start made reader) (pending : reader.draft.pending = some line)
      (plain : reader.draft.takeDirective? line = none)
      (scans : Scans reader.escape reader.draft.delimiter reader.draft.context.inText line
        place rest)
      (text : rest ++ following reader.lines.linesLeft = left) :
      Meets start place left

theorem ScriptReader.Meets.of_lineStart {start reader : ScriptReader} {made : List Statement}
    {place : TextContext} {line left : Bytes} (passes : Passes start made reader)
    (pending : reader.draft.pending = some line)
    (plain : reader.draft.takeDirective? line = none)
    (context : reader.draft.context.inText = place)
    (text : line ++ following reader.lines.linesLeft = left) : start.Meets place left :=
  .scanning passes pending plain (context ▸ .start) text

/-- At a place out of bare SQL a statement has begun, which the text before it determines and the
text from there on continues. -/
theorem ScriptReader.Meets.begun {escape : UInt8} {start : ScriptReader} {place : TextContext}
    {left : Bytes} (held : Held escape start) (fresh : start.draft.scanned = [])
    (h : start.Meets place left) (outside : place ≠ .code) :
    ∃ before made bytes first, start.leftText = before ++ left ∧ bytes <:+ before ∧
      start.onePassOf before = made ++ [⟨bytes, first, first + bytes.count lineFeed, .sql⟩] ∧
      start.onePassLeft = made ++
        statementsOfCut (usableEscape escape)
          (delimiterAfter (usableDelimiter start.delimiter) made) first (bytes ++ left)
          (keep bytes (cutText (usableEscape escape)
            (delimiterAfter (usableDelimiter start.delimiter) made) place left)) := by
  cases h with
  | @scanning made reader line rest passes pending plain scans text =>
    subst text
    have hheld : Held escape reader := passes.kept (kept_held escape) held
    have hl := hheld.sound.draft.pending line pending
    have ht := following_atLineEnd reader.lines.linesLeft
    obtain ⟨front, hleft, hbegun, hpass⟩ := passes.reads held.sound
    rw [Draft.bytes_eq_nil_iff.mpr fresh, List.nil_append] at hbegun
    obtain ⟨read, rfl, hnil, hbefore, hcut⟩ := cutText_of_scans scans hl ht
    rw [leftText_of_some pending] at hleft hpass
    have hdelimiter : usableDelimiter reader.draft.delimiter = _ :=
      passes.delimiter usableDelimiter_of_parsed held.sound
    have hidle : reader.draft.scanned = [] → read ≠ [] := by
      rintro hs rfl
      have hc := hheld.sound.code hs (.inl (by simp [pending]))
      rw [hc] at hnil
      exact outside (hnil rfl)
    have hsome : reader.draft.scanned = [] → read ++ rest ≠ [] :=
      fun hs => List.append_ne_nil_of_left_ne_nil (hidle hs) rest
    have hread : read <+: read ++ rest ++ following reader.lines.linesLeft := by
      rw [List.append_assoc]
      exact List.prefix_append _ _
    have hfront := hheld.sound.onePassOf_of_plain pending plain
      (fun hs => ⟨hsome hs, hidle hs⟩) hread
    have hwhole := hheld.sound.onePassOf_of_plain pending plain
      (fun hs => ⟨hsome hs, List.append_ne_nil_of_left_ne_nil (hsome hs) _⟩) (List.prefix_refl _)
    rw [hbefore, keep_none, statementsOfCut] at hfront
    rw [hcut, keep_keep, hdelimiter, hheld.escape] at hwhole
    refine ⟨front ++ (reader.draft.joint ++ read), made, reader.draft.onLine.bytes ++ read,
      reader.draft.onLine.firstLine, ?_, ?_, ?_, ?_⟩
    · simp [hleft]
    · obtain ⟨earlier, rfl⟩ := hbegun
      exact ⟨earlier, by simp [Draft.onLine_bytes]⟩
    · rw [hpass _ ((List.prefix_append_right_inj _).mpr hread), hfront]
      rfl
    · rw [ScriptReader.onePassLeft, hleft, hpass _ (List.prefix_refl _), hwhole]
      simp [Draft.bytes]

end SqlScript

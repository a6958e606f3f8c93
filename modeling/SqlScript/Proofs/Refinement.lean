import SqlScript.Proofs.Invariant
import SqlScript.Proofs.TextScan

namespace SqlScript

/-- The statements of a text whose first one ends where the text is cut. -/
def statementsOfCut (escape : Option UInt8) (delimiter : Bytes) (first : Nat) (text : Bytes) :
    Option (Bytes × Bytes) → List Statement
  | none => [⟨text, first, first + text.count lineFeed, .sql⟩]
  | some (cut, after) =>
    ⟨cut, first, first + cut.count lineFeed, .sql⟩ ::
      onePass escape (first + cut.count lineFeed) delimiter after

theorem onePass_lineFeed (escape : Option UInt8) (number : Nat) (delimiter text : Bytes) :
    onePass escape number delimiter (lineFeed :: text) =
      onePass escape (number + 1) delimiter text := by
  rw [onePass, if_pos rfl]

theorem onePass_cons_directive {escape : Option UInt8} {number : Nat}
    {delimiter rest next : Bytes} {b : UInt8} (hb : b ≠ lineFeed)
    (hn : newDelimiter? (b :: rest.takeWhile (· ≠ lineFeed)) = some next) :
    onePass escape number delimiter (b :: rest) =
      ⟨b :: rest.takeWhile (· ≠ lineFeed), number, number, .directive⟩ ::
        onePass escape number next (rest.dropWhile (· ≠ lineFeed)) := by
  rw [onePass, if_neg hb]
  simp only [hn]

theorem onePass_cons_plain {escape : Option UInt8} {number : Nat} {delimiter rest : Bytes}
    {b : UInt8} (hb : b ≠ lineFeed)
    (hn : newDelimiter? (b :: rest.takeWhile (· ≠ lineFeed)) = none) :
    onePass escape number delimiter (b :: rest) =
      statementsOfCut escape delimiter number (b :: rest)
        (cutText escape delimiter .code (b :: rest)) := by
  rw [onePass, if_neg hb]
  simp only [hn]
  split
  next hc => rw [hc]; rfl
  next cut after hc => rw [hc]; rfl

theorem onePass_following (escape : Option UInt8) (delimiter : Bytes) (lines : List Bytes) :
    onePass escape 0 delimiter (following lines) =
      onePass escape 1 delimiter (joinLines lines) := by
  cases lines with
  | nil => simp [following, joinLines, onePass]
  | cons line lines => rw [following_cons, onePass_lineFeed, joinLines_cons]

theorem AtLineEnd.takeWhile {line text : Bytes} (ht : AtLineEnd text) (hl : lineFeed ∉ line) :
    (line ++ text).takeWhile (· ≠ lineFeed) = line := by
  have hall : ∀ b ∈ line, decide (b ≠ lineFeed) = true := by
    intro b hb
    simpa using fun he : b = lineFeed => hl (he ▸ hb)
  rw [List.takeWhile_append_of_pos hall]
  rcases ht with rfl | ⟨after, rfl⟩ <;> simp

theorem AtLineEnd.dropWhile {line text : Bytes} (ht : AtLineEnd text) (hl : lineFeed ∉ line) :
    (line ++ text).dropWhile (· ≠ lineFeed) = text := by
  have hwhole : (line ++ text).takeWhile (· ≠ lineFeed) ++
      (line ++ text).dropWhile (· ≠ lineFeed) = line ++ text := List.takeWhile_append_dropWhile
  rw [ht.takeWhile hl] at hwhole
  exact List.append_cancel_left hwhole

theorem onePass_directive {escape : Option UInt8} {number : Nat} {delimiter line text next : Bytes}
    (hl : lineFeed ∉ line) (ht : AtLineEnd text) (hn : newDelimiter? line = some next) :
    onePass escape number delimiter (line ++ text) =
      ⟨line, number, number, .directive⟩ :: onePass escape number next text := by
  cases line with
  | nil => simp [newDelimiter?_nil] at hn
  | cons b line =>
    rw [List.mem_cons, not_or] at hl
    rw [List.cons_append, onePass_cons_directive (Ne.symm hl.1), ht.takeWhile hl.2,
      ht.dropWhile hl.2]
    rwa [ht.takeWhile hl.2]

theorem onePass_plain {escape : Option UInt8} {number : Nat} {delimiter line text : Bytes}
    (hne : line ≠ []) (hl : lineFeed ∉ line) (ht : AtLineEnd text)
    (hn : newDelimiter? line = none) :
    onePass escape number delimiter (line ++ text) =
      statementsOfCut escape delimiter number (line ++ text)
        (cutText escape delimiter .code (line ++ text)) := by
  cases line with
  | nil => exact absurd rfl hne
  | cons b line =>
    rw [List.mem_cons, not_or] at hl
    rw [List.cons_append]
    apply onePass_cons_plain (Ne.symm hl.1)
    rwa [ht.takeWhile hl.2]

theorem AtLineEnd.of_isPrefix {text whole : Bytes} (ht : AtLineEnd whole) (hp : text <+: whole) :
    AtLineEnd text := by
  cases text with
  | nil => exact .inl rfl
  | cons b text =>
    obtain ⟨more, hmore⟩ := hp
    rcases ht with rfl | ⟨after, rfl⟩
    · simp at hmore
    · exact .inr ⟨text, by rw [(List.cons.inj hmore).1]⟩

/-- The first line of a cut is cut off the first line of the text. -/
theorem firstLine_prefix_append (cut after : Bytes) :
    cut.takeWhile (· ≠ lineFeed) <+: (cut ++ after).takeWhile (· ≠ lineFeed) := by
  rw [List.takeWhile_append]
  split
  next => exact (List.takeWhile_prefix _).trans (List.prefix_append _ _)
  next => exact List.prefix_refl _

theorem usableDelimiter_of_parsed (line delimiter : Bytes) (hl : lineFeed ∉ line)
    (h : newDelimiter? line = some delimiter) : usableDelimiter delimiter = delimiter :=
  usableDelimiter_of_notMem fun hm => hl ((newDelimiter?_suffix h).subset hm)

/-- What goes on with a statement that has begun goes on after a line feed. -/
def Draft.joint (draft : Draft) : Bytes := if draft.scanned = [] then [] else [lineFeed]

theorem Draft.onLine_bytes (draft : Draft) : draft.onLine.bytes = draft.bytes ++ draft.joint := by
  unfold joint
  split
  next hs => simp [onLine_of_idle hs, bytes]
  next hs => simp [onLine_of_begun hs, bytes]

namespace ScriptReader

/-- The text from which a reader is still to make statements. -/
def leftText (reader : ScriptReader) : Bytes :=
  match reader.draft.pending with
  | none => following reader.lines.linesLeft
  | some line => reader.draft.joint ++ (line ++ following reader.lines.linesLeft)

/-- What one pass makes of a text after all that a reader has already read. -/
def onePassOf (reader : ScriptReader) (text : Bytes) : List Statement :=
  let escape := usableEscape reader.escape
  let delimiter := usableDelimiter reader.draft.delimiter
  if reader.draft.scanned = [] then onePass escape reader.draft.lineNumber delimiter text
  else
    statementsOfCut escape delimiter reader.draft.firstLine (reader.draft.bytes ++ text)
      (keep reader.draft.bytes (cutText escape delimiter reader.draft.context.inText text))

/-- What one pass makes of all that a reader has not yet made into statements. -/
def onePassLeft (reader : ScriptReader) : List Statement := reader.onePassOf reader.leftText

variable {reader : ScriptReader}

theorem leftText_of_none (h : reader.draft.pending = none) :
    reader.leftText = following reader.lines.linesLeft := by
  simp [leftText, h]

theorem leftText_of_some {line : Bytes} (h : reader.draft.pending = some line) :
    reader.leftText = reader.draft.joint ++ (line ++ following reader.lines.linesLeft) := by
  simp [leftText, h]

theorem onePassOf_of_idle (h : reader.draft.scanned = []) (text : Bytes) :
    reader.onePassOf text = onePass (usableEscape reader.escape) reader.draft.lineNumber
      (usableDelimiter reader.draft.delimiter) text :=
  if_pos h

theorem onePassOf_of_begun (h : reader.draft.scanned ≠ []) (text : Bytes) :
    reader.onePassOf text =
      statementsOfCut (usableEscape reader.escape) (usableDelimiter reader.draft.delimiter)
        reader.draft.firstLine (reader.draft.bytes ++ text)
        (keep reader.draft.bytes
          (cutText (usableEscape reader.escape) (usableDelimiter reader.draft.delimiter)
            reader.draft.context.inText text)) :=
  if_neg h

/-- A line that is no directive is cut as it stands after the bytes of the statement so far. -/
theorem Sound.onePassOf_of_plain {line text : Bytes} (h : reader.Sound)
    (hp : reader.draft.pending = some line) (plain : reader.draft.takeDirective? line = none)
    (hne : reader.draft.scanned = [] → line ≠ [] ∧ text ≠ [])
    (ht : text <+: line ++ following reader.lines.linesLeft) :
    reader.onePassOf (reader.draft.joint ++ text) =
      statementsOfCut (usableEscape reader.escape) (usableDelimiter reader.draft.delimiter)
        reader.draft.onLine.firstLine (reader.draft.onLine.scanned.reverse ++ text)
        (keep reader.draft.onLine.scanned.reverse
          (cutText (usableEscape reader.escape) (usableDelimiter reader.draft.delimiter)
            reader.draft.context.inText text)) := by
  have hl := h.draft.pending line hp
  by_cases hs : reader.draft.scanned = []
  · have hc := h.code hs (.inl (by simp [hp]))
    have hn : newDelimiter? line = none := by
      simpa [Draft.takeDirective?, hs, hc] using plain
    obtain ⟨hline, htext⟩ := hne hs
    obtain ⟨b, line, rfl⟩ := List.exists_cons_of_ne_nil hline
    obtain ⟨c, text, rfl⟩ := List.exists_cons_of_ne_nil htext
    obtain ⟨rfl, -⟩ := List.cons_prefix_cons.mp ht
    have hb : c ≠ lineFeed := fun he => hl (he ▸ List.mem_cons_self)
    have hfirst : c :: text.takeWhile (· ≠ lineFeed) <+: c :: line := by
      obtain ⟨more, hmore⟩ := ht
      have hprefix := firstLine_prefix_append (c :: text) more
      rw [hmore, (following_atLineEnd _).takeWhile hl] at hprefix
      rwa [List.takeWhile_cons_of_pos (by simpa using hb)] at hprefix
    rw [onePassOf_of_idle hs, Draft.joint, if_pos hs, Draft.onLine_of_idle hs, hs, hc,
      List.reverse_nil, List.nil_append, keep_nil]
    exact onePass_cons_plain hb (newDelimiter?_of_isPrefix hn hfirst)
  · rw [onePassOf_of_begun hs, Draft.joint, if_neg hs, Draft.onLine_of_begun hs,
      List.singleton_append, cutText_lineFeed, keep_keep]
    simp [Draft.bytes]

/-- Where the scan of a line meets the delimiter, the text is cut, whatever of it is read. -/
theorem Sound.cutText_of_found {line scanned rest : Bytes} (h : reader.Sound)
    (hp : reader.draft.pending = some line)
    (cut : scan reader.escape reader.draft.delimiter reader.draft.onLine.scanned
      reader.draft.context line = .delimiter scanned rest) :
    ∃ found, found ≠ [] ∧ line = found ++ rest ∧
      scanned.reverse = reader.draft.onLine.scanned.reverse ++ found ∧ lineFeed ∉ found ∧
      ∀ text, text <+: rest ++ following reader.lines.linesLeft →
        cutText (usableEscape reader.escape) (usableDelimiter reader.draft.delimiter)
          reader.draft.context.inText (found ++ text) = some (found, text) := by
  have hl := h.draft.pending line hp
  obtain ⟨found, hf, hline, hscanned, hfound, -⟩ := scan_delimiter_cut hl cut
  have hbytes : scanned.reverse = reader.draft.onLine.scanned.reverse ++ found := by
    simp [hscanned]
  refine ⟨found, hf, hline, hbytes, hfound, fun text ht => ?_⟩
  have hscan := cutText_eq_scan reader.escape reader.draft.delimiter reader.draft.onLine.scanned
    reader.draft.context hl (following_atLineEnd reader.lines.linesLeft)
  rw [cut, ScanEnd.inText, hbytes] at hscan
  obtain ⟨before, hcut, hbefore⟩ := keep_eq_some hscan
  rw [← List.append_cancel_left hbefore] at hcut
  exact cutText_cut_append hcut (.of_isPrefix ht)

/-- From one reader to the next this is read and these statements are made, whatever is left after
it. -/
structure Reads (reader : ScriptReader) (front : Bytes) (made : List Statement)
    (next : ScriptReader) : Prop where
  left : reader.leftText = front ++ next.leftText
  begun : next.draft.bytes <:+ reader.draft.bytes ++ front
  pass : ∀ text, text <+: next.leftText →
    reader.onePassOf (front ++ text) = made ++ next.onePassOf text

theorem Reads.of_nothingRead {next : ScriptReader} (left : reader.leftText = next.leftText)
    (begun : reader.draft.bytes = next.draft.bytes)
    (pass : ∀ text, reader.onePassOf text = next.onePassOf text) : reader.Reads [] [] next where
  left := left
  begun := ⟨[], by rw [begun, List.append_nil, List.nil_append]⟩
  pass text _ := pass text

theorem Reads.refl (reader : ScriptReader) : reader.Reads [] [] reader :=
  .of_nothingRead rfl rfl fun _ => rfl

theorem Reads.trans {next last : ScriptReader} {front back : Bytes}
    {made more : List Statement} (h : reader.Reads front made next)
    (ho : next.Reads back more last) : reader.Reads (front ++ back) (made ++ more) last where
  left := by rw [h.left, ho.left, List.append_assoc]
  begun := by
    obtain ⟨earlier, hbegun⟩ := h.begun
    rw [← List.append_assoc, ← hbegun, List.append_assoc]
    exact List.suffix_append_of_suffix ho.begun
  pass text ht := by
    have hprefix : back ++ text <+: next.leftText := by
      rw [ho.left]
      exact (List.prefix_append_right_inj back).mpr ht
    rw [List.append_assoc, h.pass _ hprefix, ho.pass text ht, List.append_assoc]

theorem Reads.onePassLeft {next : ScriptReader} {front : Bytes} {made : List Statement}
    (h : reader.Reads front made next) : reader.onePassLeft = made ++ next.onePassLeft := by
  rw [ScriptReader.onePassLeft, h.left, h.pass _ (List.prefix_refl _), ScriptReader.onePassLeft]

theorem Sound.reads_directive {line delimiter : Bytes} (h : reader.Sound)
    (pending : reader.draft.pending = some line) (idle : reader.draft.scanned = [])
    (parsed : newDelimiter? line = some delimiter) :
    let statement : Statement :=
      ⟨line, reader.draft.lineNumber, reader.draft.lineNumber, .directive⟩
    reader.Reads line [statement]
      ({ reader with
        draft := { reader.draft with
          delimiter, firstLine := reader.draft.lineNumber }.cleared none }.holdDirective
        statement) := by
  intro statement
  have hl := h.draft.pending line pending
  have hleft := leftText_of_some pending
  rw [Draft.joint, if_pos idle, List.nil_append] at hleft
  refine ⟨hleft, List.nil_suffix, fun text ht => ?_⟩
  have hend : AtLineEnd text := (following_atLineEnd _).of_isPrefix ht
  rw [onePassOf_of_idle idle, onePass_directive hl hend parsed, onePassOf_of_idle rfl]
  change _ = _ :: onePass _ _ (usableDelimiter delimiter) text
  rw [usableDelimiter_of_parsed line delimiter hl parsed]
  rfl

theorem Sound.reads_delimiter {line scanned rest : Bytes} (h : reader.Sound)
    (pending : reader.draft.pending = some line)
    (plain : reader.draft.takeDirective? line = none)
    (cut : scan reader.escape reader.draft.delimiter reader.draft.onLine.scanned
      reader.draft.context line = .delimiter scanned rest) :
    let statement : Statement :=
      ⟨scanned.reverse, reader.draft.onLine.firstLine, reader.draft.lineNumber, .sql⟩
    ∃ front, reader.Reads front [statement]
      ({ reader with
        draft := reader.draft.onLine.cleared
          (if rest.isEmpty then none else some rest) }.hold statement) := by
  intro statement
  obtain ⟨found, hf, rfl, hscanned, hfound, hcut⟩ := h.cutText_of_found pending cut
  have hlast : reader.draft.onLine.firstLine + scanned.reverse.count lineFeed =
      reader.draft.lineNumber := by
    rw [hscanned, List.count_append, List.count_eq_zero_of_not_mem hfound, List.count_reverse]
    exact h.draft.onLine_lines pending
  have hnext : ({ reader with
      draft := reader.draft.onLine.cleared
        (if rest.isEmpty then none else some rest) }.hold statement).leftText =
      rest ++ following reader.lines.linesLeft := by
    cases rest <;> rfl
  refine ⟨reader.draft.joint ++ found, ?_, List.nil_suffix, fun text ht => ?_⟩
  · rw [leftText_of_some pending, hnext]
    simp
  · rw [hnext] at ht
    have hprefix : found ++ text <+: (found ++ rest) ++ following reader.lines.linesLeft := by
      rw [List.append_assoc]
      exact (List.prefix_append_right_inj found).mpr ht
    rw [List.append_assoc, h.onePassOf_of_plain pending plain (by simp [hf]) hprefix, hcut text ht,
      keep_some, ← hscanned, statementsOfCut, hlast, onePassOf_of_idle rfl]
    change _ = _ :: onePass _ reader.draft.onLine.lineNumber
      (usableDelimiter reader.draft.onLine.delimiter) text
    rw [reader.draft.onLine_lineNumber, reader.draft.onLine_delimiter]
    rfl

theorem Sound.reads_lineEnd {line scanned : Bytes} {context : Context} (h : reader.Sound)
    (pending : reader.draft.pending = some line)
    (plain : reader.draft.takeDirective? line = none)
    (cut : scan reader.escape reader.draft.delimiter reader.draft.onLine.scanned
      reader.draft.context line = .lineEnd scanned context) :
    reader.Reads (reader.draft.joint ++ line) []
      { reader with
        draft := { reader.draft.onLine with
          scanned, context, pending := none, inProgress := true } } := by
  have hl := h.draft.pending line pending
  have hbytes : reader.draft.onLine.scanned.reverse ++ line = scanned.reverse := by
    simp [scan_lineEnd_scanned cut]
  refine ⟨?_, ?_, fun text ht => ?_⟩
  · rw [leftText_of_some pending, List.append_assoc]
    rfl
  · change scanned.reverse <:+ _
    rw [← hbytes, ← List.append_assoc, ← reader.draft.onLine_bytes]
    exact List.suffix_refl _
  · have hend : AtLineEnd text := (following_atLineEnd _).of_isPrefix ht
    by_cases hnil : scanned = []
    -- A blank line where no statement has begun is passed over.
    · rw [hnil] at cut
      obtain ⟨rfl, hidle, rfl⟩ := scan_lineEnd_nil cut
      rw [Draft.joint, if_pos hidle, List.append_nil, List.nil_append, onePassOf_of_idle hidle,
        onePassOf_of_idle hnil]
      change _ = onePass _ reader.draft.onLine.lineNumber
        (usableDelimiter reader.draft.onLine.delimiter) _
      rw [reader.draft.onLine_lineNumber, reader.draft.onLine_delimiter]
    · have hline : reader.draft.scanned = [] → line ≠ [] := by
        rintro hidle rfl
        simp [scan_lineEnd_scanned cut, Draft.onLine_of_idle hidle, hidle] at hnil
      have hprefix : line ++ text <+: line ++ following reader.lines.linesLeft :=
        (List.prefix_append_right_inj line).mpr ht
      rw [List.append_assoc, h.onePassOf_of_plain pending plain
        (fun hidle => ⟨hline hidle, by simp [hline hidle]⟩) hprefix,
        cutText_eq_scan reader.escape reader.draft.delimiter _ _ hl hend, cut, ← List.append_assoc,
        hbytes, onePassOf_of_begun hnil]
      change _ = statementsOfCut _ (usableDelimiter reader.draft.onLine.delimiter) _ _
        (keep _ (cutText _ (usableDelimiter reader.draft.onLine.delimiter) _ _))
      rw [reader.draft.onLine_delimiter]
      rfl

theorem Sound.reads_line {line : Bytes} (h : reader.Sound)
    (pending : reader.draft.pending = none)
    (read : reader.lines.next.line = .ok (some line)) :
    ∃ front, reader.Reads front []
      { reader with
        lines := reader.lines.next.reader
        log := reader.log ++ reader.lines.next.log
        draft := reader.draft.loadLine line reader.lines.next.reader.linesRead } := by
  have hleft := LineReader.linesLeft_of_line read
  by_cases hidle : reader.draft.scanned = []
  · refine ⟨[lineFeed], ?_, ?_, fun text ht => ?_⟩
    · rw [leftText_of_none pending, hleft, following_cons, leftText_of_some rfl]
      simp [Draft.joint, Draft.loadLine, hidle]
    · rw [← Draft.bytes_eq_nil_iff] at hidle
      exact hidle ▸ List.nil_suffix
    · rw [onePassOf_of_idle hidle, List.singleton_append, onePass_lineFeed, h.lineNumber,
        ← LineReader.linesRead_of_line read, onePassOf_of_idle]
      · rfl
      · exact hidle
  -- In a statement that has begun the line feed is read with the line, of which it is the joint.
  · refine ⟨[], .of_nothingRead ?_ rfl fun text => ?_⟩
    · rw [leftText_of_none pending, hleft, following_cons, leftText_of_some rfl]
      simp [Draft.joint, Draft.loadLine, hidle]
    · rw [onePassOf_of_begun hidle, onePassOf_of_begun]
      · rfl
      · exact hidle

theorem reads_inputEnd {failure : Option Failure} (pending : reader.draft.pending = none)
    (noLine : ∀ line, reader.lines.next.line ≠ .ok (some line)) :
    reader.Reads [] []
      { reader with
        lines := reader.lines.next.reader
        log := reader.log ++ reader.lines.next.log
        input := .ended failure false } := by
  refine .of_nothingRead ?_ rfl fun text => rfl
  have hleft : reader.lines.next.reader.linesLeft = reader.lines.linesLeft := by
    rw [LineReader.linesLeft_of_noLine noLine, LineReader.next_of_noLine noLine,
      LineReader.linesLeft_ended]
  rw [leftText_of_none pending, ← hleft]
  symm
  exact leftText_of_none pending

theorem Sound.reads_remainder {failure : Option Failure} {asked : Bool} (h : reader.Sound)
    (pending : reader.draft.pending = none) (input : reader.input = .ended failure asked)
    (begun : reader.draft.scanned ≠ []) :
    let statement : Statement :=
      ⟨reader.draft.bytes, reader.draft.firstLine, reader.draft.lineNumber, .sql⟩
    reader.Reads [] [statement]
      ({ reader with
        draft := { reader.draft with scanned := [], inProgress := false } }.hold statement) := by
  intro statement
  have hlast : reader.draft.firstLine + reader.draft.bytes.count lineFeed =
      reader.draft.lineNumber := by
    have hlines := h.draft.lines begun
    rw [pending] at hlines
    rw [Draft.bytes, List.count_reverse]
    exact hlines
  have hleft : reader.leftText = [] := by
    rw [leftText_of_none pending, h.ended failure asked input]
    rfl
  have hnext : ({ reader with
      draft := { reader.draft with scanned := [], inProgress := false } }.hold
        statement).leftText = [] := by
    rw [← hleft, leftText_of_none pending]
    exact leftText_of_none pending
  refine ⟨by rw [hleft, hnext]; rfl, List.nil_suffix, fun text ht => ?_⟩
  rw [hnext] at ht
  rw [List.prefix_nil.mp ht, List.append_nil, onePassOf_of_begun begun, cutText_nil, keep_none,
    statementsOfCut, List.append_nil, hlast, onePassOf_of_idle rfl, onePass]
  rfl

end ScriptReader

def Step.statements : Step → List Statement
  | .found reader => reader.ready.toList
  | .nothingLeft _ => []
  | .more _ => []

theorem ScriptReader.Sound.reads_step {reader : ScriptReader} (h : reader.Sound) :
    ∃ front, reader.Reads front reader.step.statements reader.step.reader := by
  have hs := reader.stepOf
  generalize reader.step = result at hs ⊢
  cases hs with
  | directive pending idle code parsed => exact ⟨_, h.reads_directive pending idle parsed⟩
  | delimiter pending plain cut => exact h.reads_delimiter pending plain cut
  | lineEnd pending plain cut => exact ⟨_, h.reads_lineEnd pending plain cut⟩
  | line pending input read => exact h.reads_line pending read
  | inputEnd failure pending input read =>
    exact ⟨_, reads_inputEnd pending (LineReader.noLine_of_end read)⟩
  | remainder pending input begun => exact ⟨_, h.reads_remainder pending input begun⟩
  | nothingLeft pending input idle => exact ⟨[], .of_nothingRead rfl rfl fun text => rfl⟩

/-- A step makes one statement of what is left, or leaves it as it is. -/
theorem ScriptReader.Sound.onePassLeft_step {reader : ScriptReader} (h : reader.Sound) :
    reader.onePassLeft = reader.step.statements ++ reader.step.reader.onePassLeft := by
  obtain ⟨front, hreads⟩ := h.reads_step
  exact hreads.onePassLeft

theorem ScriptReader.Sound.drain_eq_onePassLeft {reader : ScriptReader} (h : reader.Sound)
    (hr : reader.ready = none) : reader.drain.1 = reader.onePassLeft := by
  refine drain_induction (Q := fun reader drained => reader.Sound → drained.1 = reader.onePassLeft)
    ?_ ?_ ?_ hr h
  · intro reader next statement drained hs hn ih h
    have hstep := h.onePassLeft_step
    have hnext := h.step
    rw [hs] at hstep hnext
    rw [ih (kept_sound.taken next hnext), hstep, Step.statements, hn]
    rfl
  · intro reader next hs hd h
    have hstep := h.onePassLeft_step
    have hnext := h.step
    rw [hs] at hstep hnext
    obtain ⟨_, pending, idle, _, failure, asked, input⟩ := done_iff.mp hd
    have hleft : next.lines.linesLeft = [] := hnext.ended failure asked input
    rw [hstep, Step.statements, Step.reader, onePassLeft, leftText_of_none pending,
      onePassOf_of_idle idle, hleft]
    simp [following, onePass]
  · intro reader next drained hs ih h
    have hstep := h.onePassLeft_step
    have hnext := h.step
    rw [hs] at hstep hnext
    rw [ih hnext, hstep]
    rfl

theorem ScriptReader.opened_onePassLeft_following (access : Access) (source : Source)
    (settings : Settings) :
    let reader := ScriptReader.opened access source settings
    reader.onePassLeft = onePass (usableEscape settings.escape) 0
      (usableDelimiter settings.delimiter) (following reader.lines.linesLeft) := by
  intro reader
  rw [onePassLeft, leftText_of_none rfl, onePassOf_of_idle rfl]
  rfl

theorem ScriptReader.opened_drain (access : Access) (source : Source) (settings : Settings) :
    let reader := ScriptReader.opened access source settings
    reader.drain.1 = onePass (usableEscape settings.escape) 0
      (usableDelimiter settings.delimiter) (following reader.lines.linesLeft) := by
  intro reader
  have hdrain : reader.drain.1 = reader.onePassLeft :=
    (opened_sound access source settings).drain_eq_onePassLeft (opened_ready ..)
  exact hdrain.trans (opened_onePassLeft_following access source settings)

theorem ScriptReader.opened_onePassLeft (access : Access) (source : Source) (settings : Settings) :
    let reader := ScriptReader.opened access source settings
    reader.onePassLeft = onePass (usableEscape settings.escape) 1
      (usableDelimiter settings.delimiter) (joinLines reader.lines.linesLeft) := by
  intro reader
  exact (opened_onePassLeft_following access source settings).trans (onePass_following _ _ _)

/-- Splitting a script line by line comes to the same statements as one pass over the whole of it.
-/
theorem outcome_refines_onePass (access : Access) (source : Source) (settings : Settings) :
    let reader := ScriptReader.opened access source settings
    reader.outcome.statements = onePass (usableEscape settings.escape) 1
      (usableDelimiter settings.delimiter) (joinLines reader.lines.linesLeft) := by
  intro reader
  have sound : reader.Sound := ScriptReader.opened_sound access source settings
  have fresh : reader.ready = none := ScriptReader.opened_ready access source settings
  have hdrain : reader.drain.1 = reader.onePassLeft := sound.drain_eq_onePassLeft fresh
  exact hdrain.trans (ScriptReader.opened_onePassLeft access source settings)

/-- A pass that lets a line feed escape, or be in a delimiter, does not split as the reader does. -/
theorem onePass_lineFeed_differs :
    (let settings := Settings.withEscape default lineFeed
      let reader := ScriptReader.opened .buffered [.data (Bytes.ofText "'a\n';x")] settings
      reader.outcome.statements ≠
        onePass (some lineFeed) 1 settings.delimiter (joinLines reader.lines.linesLeft)) ∧
    (let settings := Settings.withDelimiter default (Bytes.ofText "x\ny")
      let reader := ScriptReader.opened .buffered [.data (Bytes.ofText "ax\nyb")] settings
      reader.outcome.statements ≠
        onePass (some settings.escape) 1 settings.delimiter
          (joinLines reader.lines.linesLeft)) := by
  decide +kernel

end SqlScript

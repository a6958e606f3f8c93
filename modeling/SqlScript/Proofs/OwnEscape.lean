import SqlScript.Proofs.AtRest
import SqlScript.Proofs.Places
import SqlScript.Proofs.Restart

namespace SqlScript

theorem usableEscape_quote (quote : Quote) : usableEscape quote.byte = some quote.byte :=
  if_neg quote.byte_ne_lineFeed

/-- In a quote whose own byte escapes no byte closes: the one that could is an escape first. -/
theorem quotedNext_ownEscape (quote : Quote) (escaped : Bool) (b : UInt8) :
    ∃ escaped', quotedNext quote.byte quote escaped b = .quoted quote escaped' := by
  unfold quotedNext
  split
  next => exact ⟨false, rfl⟩
  next =>
    split
    next => exact ⟨true, rfl⟩
    next => exact ⟨false, rfl⟩

/-- From a quote whose own byte escapes, the scan of a line comes to the end of the line, with the
quote open. -/
theorem scan_ownEscape (delimiter scanned : Bytes) (quote : Quote) (escaped : Bool) (line : Bytes) :
    ∃ escaped', scan quote.byte delimiter scanned (.quoted quote escaped) line =
      .lineEnd (line.reverse ++ scanned) (.quoted quote escaped') := by
  induction line generalizing scanned escaped with
  | nil => exact ⟨escaped, rfl⟩
  | cons b line ih =>
    obtain ⟨next, hnext⟩ := quotedNext_ownEscape quote escaped b
    obtain ⟨last, hlast⟩ := ih (b :: scanned) next
    refine ⟨last, ?_⟩
    rw [scan, hnext, hlast, List.reverse_cons, List.append_assoc, List.singleton_append]

/-- A byte of a quote in bare SQL opens the quote. -/
theorem Scans.opened {escape : UInt8} {delimiter line rest : Bytes} {place : TextContext}
    {quote : Quote} (h : Scans escape delimiter place line .code (quote.byte :: rest)) :
    Scans escape delimiter place line (.quoted quote false) rest := by
  refine h.step ?_
  cases quote <;> rfl

theorem afterQuoted_ownEscape (quote : Quote) (escaped : Bool) (b : UInt8) :
    ∃ escaped', afterQuoted (some quote.byte) quote escaped b = .quoted quote escaped' := by
  unfold afterQuoted
  split
  next => exact ⟨b == lineFeed, rfl⟩
  next =>
    split
    next => exact ⟨true, rfl⟩
    next hb =>
      rw [if_neg fun he => hb (congrArg some he.symm)]
      exact ⟨false, rfl⟩

/-- A text is not cut any more after a quote whose own byte escapes has been opened. -/
theorem cutText_ownEscape (delimiter : Bytes) (quote : Quote) (escaped : Bool) (text : Bytes) :
    cutText (some quote.byte) delimiter (.quoted quote escaped) text = none := by
  induction text generalizing escaped with
  | nil => exact cutText_nil _ _ _
  | cons b text ih =>
    obtain ⟨next, hnext⟩ := afterQuoted_ownEscape quote escaped b
    rw [cutText, hnext, ih next, keep_none]

namespace ScriptReader

/-- Nothing closes a quote whose own byte escapes, and no directive is looked for in it. -/
theorem kept_ownQuote (quote : Quote) (delimiter : Bytes) :
    Kept fun reader => reader.escape = quote.byte ∧
      reader.draft.context.quote? = some quote ∧ reader.delimiter = delimiter where
  step reader _ h := by
    obtain ⟨hescape, hquote, hdelimiter⟩ := h
    obtain ⟨escaped, hcontext⟩ : ∃ escaped, reader.draft.context = .quoted quote escaped := by
      cases hc : reader.draft.context <;> simp_all [Context.quote?]
    have hs := reader.stepOf
    generalize reader.step = result at hs ⊢
    cases hs with
    | directive pending idle code parsed => simp [hcontext] at code
    | @delimiter line scanned rest pending plain cut =>
      obtain ⟨last, hlast⟩ := scan_ownEscape reader.draft.delimiter reader.draft.onLine.scanned
        quote escaped line
      rw [hescape, hcontext, hlast] at cut
      cases cut
    | @lineEnd line scanned context pending plain cut =>
      obtain ⟨last, hlast⟩ := scan_ownEscape reader.draft.delimiter reader.draft.onLine.scanned
        quote escaped line
      rw [hescape, hcontext, hlast] at cut
      cases cut
      exact ⟨hescape, rfl, reader.draft.onLine_delimiter.trans hdelimiter⟩
    | _ => exact ⟨hescape, hquote, hdelimiter⟩
  taken _ h := h
  asked reader _ h := by
    unfold askFailure
    split <;> exact h

variable {reader : ScriptReader} {quote : Quote} {line rest : Bytes}

/-- The step that scans a line in which a quote is opened whose own byte escapes. -/
theorem step_opensOwnQuote (own : reader.escape = quote.byte)
    (pending : reader.draft.pending = some line)
    (plain : reader.draft.takeDirective? line = none)
    (scans : Scans reader.escape reader.draft.delimiter reader.draft.context.inText line .code
      (quote.byte :: rest)) :
    ∃ next, reader.step = .more next ∧ next.escape = quote.byte ∧
      next.draft.context.quote? = some quote ∧ next.delimiter = reader.delimiter := by
  obtain ⟨front, rfl, -, hscan⟩ := scanFrom_of_scans scans.opened
  have hline := hscan rest (List.prefix_refl rest) reader.draft.onLine.scanned
  rw [scanFrom_inText] at hline
  obtain ⟨escaped, hend⟩ := scan_ownEscape reader.draft.delimiter
    (front.reverse ++ reader.draft.onLine.scanned) quote false rest
  rw [scanFrom, own, hend] at hline
  obtain ⟨found, draft, hs⟩ : ∃ found draft,
      reader.draft.scanLine reader.escape (front ++ rest) = (found, draft) := ⟨_, _, rfl⟩
  have hlast := hs
  simp only [Draft.scanLine, own, hline] at hlast
  obtain ⟨rfl, rfl⟩ := Prod.mk.inj hlast
  exact ⟨_, step_of_lineEnd pending plain hs, own, rfl, reader.draft.onLine_delimiter⟩

/-- From a quote whose own byte escapes on, all the lines that are left are one statement. -/
theorem Sound.drain_opensOwnQuote (sound : reader.Sound) (fresh : reader.ready = none)
    (own : reader.escape = quote.byte) (pending : reader.draft.pending = some line)
    (plain : reader.draft.takeDirective? line = none)
    (scans : Scans reader.escape reader.draft.delimiter reader.draft.context.inText line .code
      (quote.byte :: rest)) :
    reader.drain.1 = [⟨reader.draft.onLine.bytes ++ joinLines (line :: reader.lines.linesLeft),
      reader.draft.onLine.firstLine, reader.lineNumber + reader.lines.linesLeft.length, .sql⟩] := by
  have hl := sound.draft.pending line pending
  have ht := following_atLineEnd reader.lines.linesLeft
  obtain ⟨front, hline, -, -, hcut⟩ := cutText_of_scans scans.opened hl ht
  have hnone : line ≠ [] := by
    obtain ⟨front, rfl, -⟩ := scanFrom_of_scans scans
    simp
  have hpass := sound.onePassOf_of_plain pending plain
    (fun _ => ⟨hnone, List.append_ne_nil_of_left_ne_nil hnone _⟩) (List.prefix_refl _)
  have hlast : reader.draft.onLine.firstLine +
      (reader.draft.onLine.bytes ++ (line ++ following reader.lines.linesLeft)).count lineFeed =
        reader.lineNumber + reader.lines.linesLeft.length := by
    have hfirst := sound.draft.onLine_lines pending
    have hrest : (following reader.lines.linesLeft).count lineFeed =
        reader.lines.linesLeft.length :=
      count_lineFeed_following (LineReader.lineFeed_notMem_linesLeft _)
    rw [Draft.bytes, List.count_append, List.count_append, List.count_reverse, hrest,
      List.count_eq_zero_of_not_mem hl, Nat.zero_add, ← Nat.add_assoc, hfirst, sound.lineNumber]
    rfl
  rw [own, usableEscape_quote, cutText_ownEscape, keep_none] at hcut
  rw [own, usableEscape_quote, hcut, keep_none, statementsOfCut] at hpass
  rw [sound.drain_eq_onePassLeft fresh, onePassLeft, leftText_of_some pending, hpass,
    joinLines_cons, ← hlast]
  simp [Draft.bytes]

end ScriptReader

/-- Where the byte of a quote escapes, the statement that opens such a quote is the last and takes
all lines. -/
theorem own_escape_never_closes (access : Access) (source : Source) {settings : Settings}
    {quote : Quote} (own : settings.escape = quote.byte) {made : List Statement}
    {here : ScriptReader} {line rest : Bytes}
    (passes : Passes (.opened access source settings) made here)
    (pending : here.draft.pending = some line)
    (plain : here.draft.takeDirective? line = none)
    (scans : Scans here.escape here.draft.delimiter here.draft.context.inText line .code
      (quote.byte :: rest)) :
    let reader := ScriptReader.opened access source settings
    let lines := reader.lines.linesLeft
    let last := reader.drain.2
    (∃ whole, (lines.take here.lineNumber).getLast? = some whole ∧ line <:+ whole) ∧
      reader.outcome.statements = made ++
        [⟨here.draft.onLine.bytes ++ joinLines (line :: lines.drop here.lineNumber),
          here.draft.onLine.firstLine, lines.length, .sql⟩] ∧
      last.draft.context.quote? = some quote ∧ last.delimiter = here.delimiter := by
  intro reader lines last
  have hplaced : ScriptReader.Placed lines here :=
    passes.kept (ScriptReader.kept_placed _) (ScriptReader.opened_placed access source settings)
  have hheld : ScriptReader.Held settings.escape here :=
    passes.kept (ScriptReader.kept_held _) (ScriptReader.opened_held access source settings)
  have hown : here.escape = quote.byte := hheld.escape.trans own
  have hwhole := hplaced.pending line pending
  have hleft : lines.drop here.lineNumber = here.lines.linesLeft := hplaced.linesLeft
  have hstart : reader.lineNumber + reader.lines.linesLeft.length = lines.length := by
    exact Nat.zero_add _
  have hcount : here.lineNumber + here.lines.linesLeft.length = lines.length :=
    passes.kept (ScriptReader.kept_lineCount lines.length) hstart
  obtain ⟨next, hstep, hopen⟩ := ScriptReader.step_opensOwnQuote hown pending plain scans
  have hdrain : reader.drain = (made ++ here.drain.1, here.drain.2) := passes.drain
  have hlast : last = next.drain.2 := by
    rw [← ScriptReader.drain_of_more passes.ready hstep]
    change reader.drain.2 = here.drain.2
    rw [hdrain]
  have hend := (ScriptReader.kept_ownQuote quote here.delimiter).drain hopen
  refine ⟨hwhole, ?_, hlast ▸ hend.2.1, hlast ▸ hend.2.2⟩
  rw [hleft, ← hcount, ← hplaced.sound.drain_opensOwnQuote passes.ready hown pending plain scans]
  exact congrArg Prod.fst hdrain

/-- The second byte of a doubled quote, a delimiter, a directive and a mark of a comment come too
late. -/
theorem own_escape_never_closes_doubled :
    let settings := (default : Settings).withEscape Quote.single.byte
    let reader := ScriptReader.opened .direct
      [.data (Bytes.ofText "a;\nb 'c'';\n\ndelimiter $$\n--x")] settings
    let here := reader.stepTaken.stepTaken.stepTaken
    here.draft.pending = some (Bytes.ofText "b 'c'';") ∧
      reader.outcome.statements = [⟨Bytes.ofText "a;", 1, 1, .sql⟩,
        ⟨Bytes.ofText "b 'c'';\n\ndelimiter $$\n--x", 2, 5, .sql⟩] ∧
      reader.drain.2.draft.context.quote? = some .single ∧
        reader.drain.2.delimiter = Bytes.ofText ";" := by
  intro settings reader here
  have passes : Passes reader [⟨Bytes.ofText "a;", 1, 1, .sql⟩] here :=
    (Passes.start rfl).step.step.step
  have pending : here.draft.pending = some (Bytes.ofText "b 'c'';") := by decide +kernel
  have plain : here.draft.takeDirective? (Bytes.ofText "b 'c'';") = none := by decide +kernel
  have space : Scans here.escape here.draft.delimiter here.draft.context.inText
      (Bytes.ofText "b 'c'';") .code (Bytes.ofText " 'c'';") :=
    Scans.start.step (by decide +kernel)
  have opens : Scans here.escape here.draft.delimiter here.draft.context.inText
      (Bytes.ofText "b 'c'';") .code (Quote.single.byte :: Bytes.ofText "c'';") :=
    space.step (by decide +kernel)
  obtain ⟨-, hstatements, hquote, hdelimiter⟩ :=
    own_escape_never_closes .direct _ rfl passes pending plain opens
  refine ⟨pending, ?_, hquote, ?_⟩
  · exact hstatements.trans (by decide +kernel)
  · exact hdelimiter.trans (by decide +kernel)

end SqlScript

import Mathlib.Data.List.Basic
import SqlScript.Proofs.Arrival

namespace SqlScript

/-- The line that a line feed ends, less a carriage return right before the line feed. -/
def lineOfPiece (piece : Bytes) : Bytes :=
  if piece.getLast? = some carriageReturn then piece.dropLast else piece

/-- The lines of a text: the pieces that line feeds end, and the tail after them, if it has bytes.
-/
def textLines (text : Bytes) : List Bytes :=
  let pieces := text.splitOn lineFeed
  pieces.dropLast.map lineOfPiece ++ (pieces.getLast?.filter (· ≠ [])).toList

theorem textLines_append_lineFeed (before after : Bytes) :
    textLines (before ++ lineFeed :: after) =
      (before.splitOn lineFeed).map lineOfPiece ++ textLines after := by
  have hne : after.splitOn lineFeed ≠ [] := List.splitOn_ne_nil _ _
  simp only [textLines, List.splitOn_append_cons_self, List.dropLast_append_of_ne_nil hne,
    List.getLast?_append_of_ne_nil _ hne, List.map_append, List.append_assoc]

theorem textLines_of_notMem {text : Bytes} (h : lineFeed ∉ text) :
    textLines text = if text = [] then [] else [text] := by
  simp only [textLines, List.splitOn_eq_singleton h, List.dropLast_singleton, List.map_nil,
    List.nil_append, List.getLast?_singleton, Option.filter_some]
  split <;> simp_all

theorem textLines_cons {piece rest : Bytes} (h : lineFeed ∉ piece) :
    textLines (piece ++ lineFeed :: rest) = lineOfPiece piece :: textLines rest := by
  rw [textLines_append_lineFeed, List.splitOn_eq_singleton h, List.map_singleton,
    List.singleton_append]

@[simp] theorem textLines_nil : textLines [] = [] := rfl

theorem lineOfGathered_reverse (piece : Bytes) :
    lineOfGathered piece.reverse = lineOfPiece piece := by
  rcases List.eq_nil_or_concat piece with rfl | ⟨front, b, rfl⟩
  · rfl
  · rw [List.concat_eq_append, List.reverse_append, List.reverse_singleton, List.singleton_append]
    unfold lineOfGathered lineOfPiece
    split
    next rest h =>
      obtain ⟨rfl, rfl⟩ := List.cons.inj h
      simp
    next hb =>
      have hne : b ≠ carriageReturn := fun he => hb front.reverse (congrArg (· :: front.reverse) he)
      simp [hne]

theorem Source.bytes_giveBack (bytes : Bytes) (failure : Option String) :
    Source.bytes (giveBack bytes (failure.map Read.failed).toList) = bytes := by
  have hend : Source.bytes (failure.map Read.failed).toList = [] := by cases failure <;> rfl
  cases bytes with
  | nil => exact hend
  | cons b bytes =>
    change b :: bytes ++ Source.bytes (failure.map Read.failed).toList = b :: bytes
    rw [hend, List.append_nil]

theorem Source.failure?_giveBack (bytes : Bytes) (failure : Option String) :
    Source.failure? (giveBack bytes (failure.map Read.failed).toList) = failure := by
  have hend : Source.failure? (failure.map Read.failed).toList = failure := by
    cases failure <;> rfl
  cases bytes <;> exact hend

theorem cutLine_of_notMem {gathered piece : Bytes} (h : lineFeed ∉ piece) :
    cutLine gathered piece = (piece.reverse ++ gathered, none) := by
  induction piece generalizing gathered with
  | nil => rfl
  | cons b piece ih =>
    rw [List.mem_cons, not_or] at h
    rw [cutLine, ih h.2]
    · simp
    · exact fun hb => h.1 hb.symm

/-- Up to the first line feed all is one line, and after it the input goes on as it would. -/
theorem gatherLine_of_lineFeed {source : Source} {piece rest : Bytes} (h : lineFeed ∉ piece)
    (hb : Source.bytes source = piece ++ lineFeed :: rest) :
    ∃ after, gatherLine [] source = .found (lineOfPiece piece) after ∧
      Source.bytes after = rest ∧ Source.failure? after = Source.failure? source := by
  have hmerged := gatherLine_merged [] source
  rw [Source.merged, hb, gatherLine_giveBack_append, cutLine_of_notMem h] at hmerged
  change LineEnd.found (lineOfGathered (piece.reverse ++ []))
    (Source.giveBack rest ((Source.failure? source).map Read.failed).toList) = _ at hmerged
  rw [List.append_nil, lineOfGathered_reverse] at hmerged
  cases hg : gatherLine [] source with
  | found line after =>
    rw [hg, LineEnd.merged] at hmerged
    obtain ⟨rfl, hafter⟩ := LineEnd.found.inj hmerged
    have hbytes := congrArg Source.bytes hafter
    have hfailure := congrArg Source.failure? hafter
    rw [Source.merged, Source.bytes_giveBack, Source.bytes_giveBack] at hbytes
    rw [Source.merged, Source.failure?_giveBack, Source.failure?_giveBack] at hfailure
    exact ⟨after, rfl, hbytes.symm, hfailure.symm⟩
  | inputEnded tail => simp [hg, LineEnd.merged] at hmerged
  | inputFailed tail cause => simp [hg, LineEnd.merged] at hmerged

/-- Without a line feed all there is is the tail. -/
theorem gatherLine_of_notMem {source : Source} (h : lineFeed ∉ Source.bytes source) :
    gatherLine [] source =
      match Source.failure? source with
      | none => .inputEnded (Source.bytes source)
      | some cause => .inputFailed (Source.bytes source) cause := by
  have hmerged := gatherLine_merged [] source
  have hcut := gatherLine_giveBack_append [] (Source.bytes source) []
    ((Source.failure? source).map Read.failed).toList
  rw [List.append_nil, cutLine_of_notMem h] at hcut
  rw [Source.merged, hcut] at hmerged
  cases hf : Source.failure? source <;> cases hg : gatherLine [] source <;>
    simp_all [gatherLine, Source.giveBack, LineEnd.merged]

/-- The phase of a line reader that has given the tail of an input with this failure. -/
def LinePhase.afterTail : Option String → LinePhase
  | none => .ended
  | some cause => .failing cause

/-- What a line reader says when no line is left of an input with this failure. -/
def atInputEnd : Option String → Except Failure (Option Bytes)
  | none => .ok none
  | some cause => .error (.unread cause)

theorem LineReader.next_of_lineFeed {source : Source} {piece rest : Bytes} (count : Nat)
    (h : lineFeed ∉ piece) (hb : Source.bytes source = piece ++ lineFeed :: rest) :
    ∃ after, (LineReader.mk (.reading source) count).next =
        ⟨.ok (some (lineOfPiece piece)), [], ⟨.reading after, count + 1⟩⟩ ∧
      Source.bytes after = rest ∧ Source.failure? after = Source.failure? source := by
  obtain ⟨after, hg, hbytes, hfailure⟩ := gatherLine_of_lineFeed h hb
  exact ⟨after, by simp [next, hg], hbytes, hfailure⟩

theorem LineReader.next_of_tail {source : Source} (count : Nat)
    (h : lineFeed ∉ Source.bytes source) (hne : Source.bytes source ≠ []) :
    (LineReader.mk (.reading source) count).next.line = .ok (some (Source.bytes source)) ∧
      (LineReader.mk (.reading source) count).next.reader =
        ⟨.afterTail (Source.failure? source), count + 1⟩ := by
  have hg := gatherLine_of_notMem h
  cases hf : Source.failure? source <;> simp [next, hg, hf, LinePhase.afterTail]

theorem LineReader.next_of_nothing {source : Source} (count : Nat)
    (h : Source.bytes source = []) :
    (LineReader.mk (.reading source) count).next.line = atInputEnd (Source.failure? source) ∧
      (LineReader.mk (.reading source) count).next.reader = ⟨.ended, count⟩ := by
  have hno : lineFeed ∉ Source.bytes source := by simp [h]
  have hg := gatherLine_of_notMem hno
  rw [h] at hg
  cases hf : Source.failure? source <;> simp [next, hg, hf, atInputEnd]

theorem LineReader.next_afterTail (failure : Option String) (count : Nat) :
    (LineReader.mk (.afterTail failure) count).next.line = atInputEnd failure ∧
      (LineReader.mk (.afterTail failure) count).next.reader = ⟨.ended, count⟩ := by
  cases failure <;> exact ⟨rfl, rfl⟩

theorem exists_lines_of_mem {text : Bytes} (h : lineFeed ∈ text) :
    ∃ piece rest, lineFeed ∉ piece ∧ text = piece ++ lineFeed :: rest := by
  obtain ⟨piece, rest, htext, hl⟩ := List.eq_append_cons_of_mem h
  exact ⟨piece, rest, hl, htext⟩

theorem lineOfPiece_isPrefix (piece : Bytes) : lineOfPiece piece <+: piece := by
  unfold lineOfPiece
  split
  next => exact List.dropLast_prefix piece
  next => exact List.prefix_refl piece

theorem subset_of_mem_textLines {text line : Bytes} (h : line ∈ textLines text) : line ⊆ text := by
  induction hn : text.length using Nat.strongRecOn generalizing text with
  | ind n ih =>
    by_cases hl : lineFeed ∈ text
    · obtain ⟨piece, rest, hpiece, rfl⟩ := exists_lines_of_mem hl
      rw [textLines_cons hpiece, List.mem_cons] at h
      rcases h with rfl | h
      · exact List.Subset.trans (lineOfPiece_isPrefix piece).subset (List.subset_append_left _ _)
      · have hlt : rest.length < n := by
          rw [← hn, List.length_append, List.length_cons]
          omega
        have hrest : rest ⊆ piece ++ lineFeed :: rest :=
          List.subset_append_of_subset_right piece (List.subset_cons_self lineFeed rest)
        exact List.Subset.trans (ih _ hlt h rfl) hrest
    · rw [textLines_of_notMem hl] at h
      split at h
      next => simp at h
      next => rw [List.mem_singleton.mp h]; exact List.Subset.refl _

/-- The lines that a reader gives are those of the text that its input holds. -/
theorem LineReader.linesLeft_reading (source : Source) (count : Nat) :
    (LineReader.mk (.reading source) count).linesLeft = textLines (Source.bytes source) := by
  induction hn : (Source.bytes source).length using Nat.strongRecOn
    generalizing source count with
  | ind n ih =>
    by_cases hl : lineFeed ∈ Source.bytes source
    · obtain ⟨piece, rest, hpiece, htext⟩ := exists_lines_of_mem hl
      obtain ⟨after, hnext, hbytes, _⟩ := next_of_lineFeed count hpiece htext
      have hline : (LineReader.mk (.reading source) count).next.line =
          .ok (some (lineOfPiece piece)) := by rw [hnext]
      have hlt : (Source.bytes after).length < n := by
        rw [← hn, htext, hbytes, List.length_append, List.length_cons]
        omega
      rw [linesLeft_of_line hline, hnext, ih _ hlt after (count + 1) rfl, hbytes, htext,
        textLines_cons hpiece]
    · rw [textLines_of_notMem hl]
      by_cases hne : Source.bytes source = []
      · obtain ⟨hline, _⟩ := next_of_nothing count hne
        rw [if_pos hne]
        apply linesLeft_of_noLine
        intro line
        rw [hline]
        cases Source.failure? source <;> simp [atInputEnd]
      · obtain ⟨hline, hreader⟩ := next_of_tail count hl hne
        rw [if_neg hne, linesLeft_of_line hline, hreader]
        congr 1
        apply linesLeft_of_noLine
        intro line
        rw [(next_afterTail _ _).1]
        cases Source.failure? source <;> simp [atInputEnd]

/-- The reader after so many calls for a line. -/
def LineReader.after (reader : LineReader) : Nat → LineReader
  | 0 => reader
  | calls + 1 => reader.next.reader.after calls

theorem LineReader.after_ended (count calls : Nat) :
    (LineReader.mk .ended count).after calls = ⟨.ended, count⟩ := by
  induction calls with
  | zero => rfl
  | succ calls ih => exact ih

/-- What a call for a line comes to after so many others: a line, then the failure, then nothing. -/
def answerAfter (lines : List Bytes) (failure : Option String) (calls : Nat) :
    Except Failure (Option Bytes) :=
  match lines[calls]? with
  | some line => .ok (some line)
  | none => if calls = lines.length then atInputEnd failure else .ok none

theorem answerAfter_cons (line : Bytes) (lines : List Bytes) (failure : Option String)
    (calls : Nat) :
    answerAfter (line :: lines) failure (calls + 1) = answerAfter lines failure calls := by
  simp [answerAfter]

theorem LineReader.after_afterTail (failure : Option String) (count calls : Nat) :
    let reader := (LineReader.mk (.afterTail failure) count).after calls
    reader.next.line = (if calls = 0 then atInputEnd failure else .ok none) ∧
      reader.linesRead = count ∧ reader.isFinished = true := by
  cases calls with
  | zero => cases failure <;> exact ⟨rfl, rfl, rfl⟩
  | succ calls =>
    dsimp only [after]
    rw [(next_afterTail failure count).2, after_ended]
    exact ⟨rfl, rfl, rfl⟩

theorem LineReader.first_of_reading (source : Source) (count : Nat) :
    (LineReader.mk (.reading source) count).next.line =
      answerAfter (textLines (Source.bytes source)) (Source.failure? source) 0 := by
  by_cases hl : lineFeed ∈ Source.bytes source
  · obtain ⟨piece, rest, hpiece, htext⟩ := exists_lines_of_mem hl
    obtain ⟨after, hnext, _, _⟩ := next_of_lineFeed count hpiece htext
    rw [hnext, htext, textLines_cons hpiece]
    rfl
  · rw [textLines_of_notMem hl]
    by_cases hne : Source.bytes source = []
    · rw [(next_of_nothing count hne).1, if_pos hne]
      rfl
    · rw [(next_of_tail count hl hne).1, if_neg hne]
      rfl

theorem LineReader.after_reading (source : Source) (count calls : Nat) :
    let reader := (LineReader.mk (.reading source) count).after calls
    let text := Source.bytes source
    reader.next.line = answerAfter (textLines text) (Source.failure? source) calls ∧
      reader.linesRead = count + min calls (textLines text).length ∧
      (reader.isFinished = true ↔ text.count lineFeed < calls) := by
  induction calls generalizing source count with
  | zero =>
    refine ⟨first_of_reading source count, by simp [after], ?_⟩
    simp [after, isFinished]
  | succ calls ih =>
    dsimp only [after]
    by_cases hl : lineFeed ∈ Source.bytes source
    · obtain ⟨piece, rest, hpiece, htext⟩ := exists_lines_of_mem hl
      obtain ⟨after, hnext, hbytes, hfailure⟩ := next_of_lineFeed count hpiece htext
      obtain ⟨hline, hread, hfinished⟩ := ih after (count + 1)
      rw [hbytes] at hline hread hfinished
      rw [hnext, htext, textLines_cons hpiece, answerAfter_cons, ← hfailure]
      refine ⟨hline, ?_, ?_⟩
      · rw [hread, List.length_cons]
        omega
      · rw [hfinished, List.count_append, List.count_cons_self,
          List.count_eq_zero_of_not_mem hpiece]
        omega
    · rw [textLines_of_notMem hl, List.count_eq_zero_of_not_mem hl]
      by_cases hne : Source.bytes source = []
      · obtain ⟨hline, hread, hfinished⟩ := after_afterTail none count calls
        rw [(next_of_nothing count hne).2, if_pos hne]
        refine ⟨?_, hread, iff_of_true hfinished (Nat.succ_pos calls)⟩
        refine hline.trans ?_
        simp [answerAfter, atInputEnd]
      · obtain ⟨hline, hread, hfinished⟩ :=
          after_afterTail (Source.failure? source) (count + 1) calls
        rw [(next_of_tail count hl hne).2, if_neg hne]
        refine ⟨?_, ?_, iff_of_true hfinished (Nat.succ_pos calls)⟩
        · rw [hline]
          simp [answerAfter]
        · rw [hread, List.length_singleton]
          omega

theorem Source.through_same (access : Access) {capacity : Nat} (hc : capacity ≠ 0)
    (source : Source) :
    Source.bytes (Source.through access capacity source) = Source.bytes source ∧
      Source.failure? (Source.through access capacity source) = Source.failure? source := by
  cases access with
  | direct => exact ⟨rfl, rfl⟩
  | buffered => exact Source.buffered_same hc source

/-- A line reader gives the lines of its input up to the end or failure, in whatever pieces they
come. -/
theorem next_after_eq_textLines (access : Access) {capacity : Nat} (holds : 1 ≤ capacity)
    (source : Source) (calls : Nat) :
    let reader := (LineReader.ofSource (Source.through access capacity source)).after calls
    let text := Source.bytes source
    reader.next.line = answerAfter (textLines text) (Source.failure? source) calls ∧
      reader.linesRead = min calls (textLines text).length ∧
      (reader.isFinished = true ↔ text.count lineFeed < calls) := by
  obtain ⟨hbytes, hfailure⟩ := Source.through_same access (Nat.ne_of_gt holds) source
  obtain ⟨hline, hread, hfinished⟩ :=
    LineReader.after_reading (Source.through access capacity source) 0 calls
  rw [hbytes, hfailure] at hline
  rw [hbytes, Nat.zero_add] at hread
  rw [hbytes] at hfinished
  exact ⟨hline, hread, hfinished⟩

/-- A line end cut in two, a failure in the middle of a line, and more to read after it. -/
theorem next_after_failing_tail :
    let source : Source := [.data (Bytes.ofText "a\r"), .interrupted, .data (Bytes.ofText "\nb\r"),
      .failed "gone", .data (Bytes.ofText "c\n")]
    let reader := (LineReader.ofSource (Source.through .buffered 2 source)).after 2
    1 ≤ 2 ∧ textLines (Source.bytes source) = [Bytes.ofText "a", Bytes.ofText "b\r"] ∧
      reader.next.line = .error (.unread "gone") ∧ reader.linesRead = 2 ∧
      reader.isFinished = true := by
  intro source reader
  obtain ⟨hline, hread, hfinished⟩ :=
    next_after_eq_textLines .buffered (by decide : 1 ≤ 2) source 2
  exact ⟨by decide, by decide, hline.trans (by rfl), hread.trans (by decide),
    hfinished.mpr (by decide)⟩

end SqlScript

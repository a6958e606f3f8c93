import SqlScript.Proofs.Invariant

namespace SqlScript

/-- Bytes with the number of the line on which they stand. -/
structure Piece where
  line : Nat
  bytes : Bytes
  deriving DecidableEq, Repr

/-- Bytes cut at their line feeds, each piece on the line after that of the piece before it. -/
def piecesFrom (first : Nat) (bytes : Bytes) : List Piece :=
  (bytes.splitOn lineFeed).mapIdx fun index piece => ⟨first + index, piece⟩

/-- A statement cut into pieces, of which the first stands on its first line. -/
def Statement.pieces (statement : Statement) : List Piece :=
  piecesFrom statement.firstLine statement.bytes

/-- All the bytes on a line, in their order. -/
def textOn (line : Nat) (pieces : List Piece) : Bytes :=
  (pieces.filter fun piece => piece.line = line).flatMap Piece.bytes

/-- Every piece stands on one of the lines, and on each line the pieces make up the line. -/
def Covers (lines : List Bytes) (pieces : List Piece) : Prop :=
  (∀ piece ∈ pieces, 1 ≤ piece.line ∧ piece.line ≤ lines.length) ∧
    ∀ number, 1 ≤ number → number ≤ lines.length →
      lines[number - 1]? = some (textOn number pieces)

theorem length_splitOn (bytes : Bytes) :
    (bytes.splitOn lineFeed).length = bytes.count lineFeed + 1 := by
  induction bytes with
  | nil => rfl
  | cons b bytes ih =>
    rw [List.splitOn_cons_eq_if_modifyHead, List.count_cons]
    split <;> simp [ih]

theorem piecesFrom_of_notMem {bytes : Bytes} (first : Nat) (h : lineFeed ∉ bytes) :
    piecesFrom first bytes = [⟨first, bytes⟩] := by
  simp [piecesFrom, List.splitOn_eq_singleton h]

theorem piecesFrom_append_lineFeed (first : Nat) (before after : Bytes) :
    piecesFrom first (before ++ lineFeed :: after) =
      piecesFrom first before ++ piecesFrom (first + before.count lineFeed + 1) after := by
  simp only [piecesFrom, List.splitOn_append_cons_self, List.mapIdx_append, length_splitOn]
  congr 2
  funext index piece
  rw [Piece.mk.injEq]
  exact ⟨by omega, rfl⟩

@[simp] theorem textOn_append (line : Nat) (before after : List Piece) :
    textOn line (before ++ after) = textOn line before ++ textOn line after := by
  simp [textOn]

theorem textOn_eq_nil {line : Nat} {pieces : List Piece} (h : ∀ piece ∈ pieces, piece.line ≠ line) :
    textOn line pieces = [] := by
  have hf : pieces.filter (fun piece => piece.line = line) = [] := by
    apply List.filter_eq_nil_iff.mpr
    intro piece hp
    simpa using h piece hp
  simp [textOn, hf]

theorem Covers.of_textOn_eq {lines : List Bytes} {pieces pieces' : List Piece}
    (h : Covers lines pieces)
    (hmem : ∀ piece' ∈ pieces', ∃ piece ∈ pieces, piece.line = piece'.line)
    (htext : ∀ number, textOn number pieces' = textOn number pieces) : Covers lines pieces' := by
  refine ⟨?_, ?_⟩
  · intro piece' hp
    obtain ⟨piece, hp, he⟩ := hmem piece' hp
    rw [← he]
    exact h.1 piece hp
  · intro number hl hu
    rw [htext]
    exact h.2 number hl hu

theorem Covers.cut {lines : List Bytes} {pieces : List Piece} {line : Nat} {cut rest : Bytes}
    (h : Covers lines (pieces ++ [⟨line, cut ++ rest⟩])) :
    Covers lines (pieces ++ [⟨line, cut⟩, ⟨line, rest⟩]) := by
  apply h.of_textOn_eq
  · intro piece hp
    rcases List.mem_append.mp hp with hp | hp
    · exact ⟨piece, List.mem_append_left _ hp, rfl⟩
    · refine ⟨⟨line, cut ++ rest⟩, List.mem_append_right _ (List.mem_singleton_self _), ?_⟩
      simp only [List.mem_cons, List.not_mem_nil, or_false] at hp
      rcases hp with rfl | rfl <;> rfl
  · intro number
    rw [textOn_append, textOn_append]
    by_cases hn : line = number <;> simp [textOn, hn]

theorem Covers.drop_nil {lines : List Bytes} {pieces : List Piece} {line : Nat}
    (h : Covers lines (pieces ++ [⟨line, []⟩])) : Covers lines pieces := by
  apply h.of_textOn_eq
  · exact fun piece hp => ⟨piece, List.mem_append_left _ hp, rfl⟩
  · intro number
    rw [textOn_append]
    by_cases hn : line = number <;> simp [textOn, hn]

theorem Covers.concat {lines : List Bytes} {pieces : List Piece} (h : Covers lines pieces)
    (line : Bytes) : Covers (lines ++ [line]) (pieces ++ [⟨lines.length + 1, line⟩]) := by
  obtain ⟨hrange, htext⟩ := h
  refine ⟨?_, ?_⟩
  · intro piece hp
    rw [List.length_append, List.length_singleton]
    rcases List.mem_append.mp hp with hp | hp
    · have := hrange piece hp
      omega
    · rw [List.mem_singleton.mp hp]
      exact ⟨Nat.le_add_left _ _, Nat.le_refl _⟩
  · intro number hl hu
    rw [List.length_append, List.length_singleton] at hu
    rw [textOn_append]
    by_cases hn : number = lines.length + 1
    · have hold : textOn number pieces = [] := by
        apply textOn_eq_nil
        intro piece hp
        have := hrange piece hp
        omega
      rw [hold, hn]
      simp [textOn]
    · have hnew : textOn number [⟨lines.length + 1, line⟩] = [] := by
        apply textOn_eq_nil
        simp only [List.mem_singleton, forall_eq]
        omega
      rw [hnew, List.append_nil, List.getElem?_append_left (by omega)]
      exact htext number hl (by omega)

/-- The pieces of the statement that has begun, if one has, and of the pending line. -/
def Draft.pieces (draft : Draft) : List Piece :=
  (if draft.scanned = [] then [] else piecesFrom draft.firstLine draft.bytes) ++
    (draft.pending.map (Piece.mk draft.lineNumber)).toList

/-- Where all the bytes stand that have been read: in statements taken, in the one that is ready, or
in the draft. -/
def ScriptReader.pieces (reader : ScriptReader) (handed : List Statement) : List Piece :=
  (handed ++ reader.ready.toList).flatMap Statement.pieces ++ reader.draft.pieces

/-- A cut of the pending line goes on the statement that has begun, on the line that it comes
from. -/
theorem Draft.Sound.pieces_onLine {draft : Draft} {line cut : Bytes} (h : draft.Sound)
    (hp : draft.pending = some line) (hc : lineFeed ∉ cut) :
    piecesFrom draft.onLine.firstLine (draft.onLine.scanned.reverse ++ cut) =
      (if draft.scanned = [] then [] else piecesFrom draft.firstLine draft.bytes) ++
        [⟨draft.lineNumber, cut⟩] := by
  by_cases hs : draft.scanned = []
  · simp [onLine_of_idle hs, hs, piecesFrom_of_notMem _ hc]
  · have hl := h.lines hs
    simp only [hp, Option.isSome_some, ↓reduceIte] at hl
    have hb : (lineFeed :: draft.scanned).reverse ++ cut = draft.bytes ++ lineFeed :: cut := by
      simp [Draft.bytes]
    have hcount : draft.bytes.count lineFeed = draft.scanned.count lineFeed := List.count_reverse
    rw [onLine_of_begun hs, if_neg hs, hb, piecesFrom_append_lineFeed,
      piecesFrom_of_notMem _ hc, hcount, hl]

/-- The lines read so far are covered by what has been made of them. -/
def Conserved (lines : List Bytes) (handed : List Statement) (reader : ScriptReader) : Prop :=
  ∃ read, lines = read ++ reader.lines.linesLeft ∧ read.length = reader.lines.linesRead ∧
    Covers read (reader.pieces handed)

theorem Conserved.step {lines : List Bytes} {handed : List Statement} {reader : ScriptReader}
    (sound : reader.Sound) (hr : reader.ready = none) (h : Conserved lines handed reader) :
    Conserved lines handed reader.step.reader := by
  obtain ⟨read, hlines, hcount, hcovers⟩ := h
  have hpieces : reader.pieces handed = handed.flatMap Statement.pieces ++ reader.draft.pieces := by
    simp [ScriptReader.pieces, hr]
  rw [hpieces] at hcovers
  have hs := reader.stepOf
  generalize reader.step = result at hs ⊢
  cases hs with
  | @directive line delimiter pending idle code parsed =>
    refine ⟨read, hlines, hcount, ?_⟩
    have hno := sound.draft.pending line pending
    simpa [Step.reader, ScriptReader.pieces, ScriptReader.holdDirective, ScriptReader.hold,
      Draft.pieces, Draft.cleared, Statement.pieces, piecesFrom_of_notMem _ hno, pending, idle]
      using hcovers
  | @delimiter line scanned rest pending plain cut =>
    refine ⟨read, hlines, hcount, ?_⟩
    obtain ⟨cut, _, hline, hscanned, hno, _⟩ :=
      scan_delimiter_cut (sound.draft.pending line pending) cut
    have hfound := sound.draft.pieces_onLine pending hno
    have hcut : Covers read (handed.flatMap Statement.pieces ++
        (piecesFrom reader.draft.onLine.firstLine scanned.reverse ++
          [⟨reader.draft.lineNumber, rest⟩])) := by
      rw [hscanned, List.reverse_append, List.reverse_reverse, hfound]
      simp only [Draft.pieces, pending, hline, Option.map_some, Option.toList_some,
        ← List.append_assoc] at hcovers
      simpa using hcovers.cut
    by_cases hrest : rest = []
    · rw [hrest, ← List.append_assoc] at hcut
      simpa [Step.reader, ScriptReader.pieces, ScriptReader.hold, Draft.pieces, Draft.cleared,
        Statement.pieces, hrest] using hcut.drop_nil
    · simpa [Step.reader, ScriptReader.pieces, ScriptReader.hold, Draft.pieces, Draft.cleared,
        Statement.pieces, hrest] using hcut
  | @lineEnd line scanned context pending plain cut =>
    refine ⟨read, hlines, hcount, ?_⟩
    have hscanned := scan_lineEnd_scanned cut
    have hfound := sound.draft.pieces_onLine pending (sound.draft.pending line pending)
    by_cases hn : scanned = []
    · rw [hn] at cut
      obtain ⟨hnil, hidle, _⟩ := scan_lineEnd_nil cut
      simp only [Draft.pieces, pending, hidle, hnil, Option.map_some, Option.toList_some,
        ↓reduceIte, List.nil_append] at hcovers
      simpa [Step.reader, ScriptReader.pieces, Draft.pieces, hr, hn] using hcovers.drop_nil
    · have hbytes : scanned.reverse = reader.draft.onLine.scanned.reverse ++ line := by
        simp [hscanned]
      simp only [Draft.pieces, pending, Option.map_some, Option.toList_some, ← hfound] at hcovers
      simpa [Step.reader, ScriptReader.pieces, Draft.pieces, Draft.bytes, hr, hn, hbytes]
        using hcovers
  | @line line pending input next =>
    have hleft := LineReader.linesLeft_of_line next
    have hnext := LineReader.linesRead_of_line next
    refine ⟨read ++ [line], by simp [Step.reader, hlines, hleft], ?_, ?_⟩
    · simp [Step.reader, hnext, hcount]
    · have hnew := hcovers.concat line
      simp only [Draft.pieces, pending, Option.map_none, Option.toList_none, List.append_nil]
        at hnew
      simpa [Step.reader, ScriptReader.pieces, Draft.pieces, Draft.loadLine, Draft.bytes, hr, hnext,
        hcount] using hnew
  | inputEnd failure pending input next =>
    have hno := LineReader.noLine_of_end next
    have hleft := LineReader.linesLeft_of_noLine hno
    refine ⟨read, ?_, ?_, ?_⟩
    · simp [Step.reader, hlines, hleft, LineReader.next_of_noLine hno, LineReader.linesLeft_ended]
    · simp [Step.reader, LineReader.next_of_noLine hno, hcount]
    · simpa [Step.reader, ScriptReader.pieces, hr] using hcovers
  | remainder pending input begun =>
    refine ⟨read, hlines, hcount, ?_⟩
    simpa [Step.reader, ScriptReader.pieces, ScriptReader.hold, Draft.pieces, Statement.pieces,
      pending, begun] using hcovers
  | nothingLeft pending input idle =>
    refine ⟨read, hlines, hcount, ?_⟩
    simpa [Step.reader, ScriptReader.pieces, Draft.pieces, hr, idle] using hcovers

theorem Reaches.conserved {start reader : ScriptReader} {lines : List Bytes}
    {handed : List Statement} (sound : start.Sound) (hc : Conserved lines [] start)
    (h : Reaches start handed reader) : Conserved lines handed reader := by
  induction h with
  | start => exact hc
  | @advance handed reader h ih =>
    have hboth : reader.advance.2.Sound ∧ Conserved lines handed reader.advance.2 := by
      apply reader.advance_preserves
        (P := fun reader => reader.Sound ∧ Conserved lines handed reader)
      · intro r hr hp
        exact ⟨hp.1.step, hp.2.step hp.1 hr⟩
      · exact ⟨h.sound sound, ih⟩
    exact hboth.2
  | take h ih => simpa [Conserved, ScriptReader.pieces] using ih
  | @ask handed reader h hd ih =>
    unfold ScriptReader.askFailure
    split <;> exact ih

theorem ScriptReader.opened_conserved (access : Access) (source : Source) (settings : Settings) :
    Conserved (ScriptReader.opened access source settings).lines.linesLeft []
      (ScriptReader.opened access source settings) := by
  refine ⟨[], rfl, rfl, ?_⟩
  have hp : (ScriptReader.opened access source settings).pieces [] = [] := rfl
  rw [hp]
  refine ⟨by simp, ?_⟩
  intro number hl hu
  simp only [List.length_nil] at hu
  omega

/-- After any requests the statements made and what is pending cover the lines read, each piece on
its own line. -/
theorem pulls_cover_lines (access : Access) (source : Source) (settings : Settings)
    (requests : List Pull) :
    let reader := ScriptReader.opened access source settings
    let lines := reader.lines.linesLeft
    let handed := handedOut (reader.pulls requests).1
    let after := (reader.pulls requests).2
    let pieces := (handed ++ after.ready.toList).flatMap Statement.pieces ++
      (after.draft.pending.map (Piece.mk after.lineNumber)).toList
    after.lineNumber ≤ lines.length ∧
      (∀ piece ∈ pieces, 1 ≤ piece.line ∧ piece.line ≤ after.lineNumber) ∧
      (∀ number, 1 ≤ number → number ≤ after.lineNumber →
        lines[number - 1]? = some (textOn number pieces)) ∧
      (after.Done → after.lineNumber = lines.length ∧ after.draft.pending = none) := by
  intro reader lines handed after pieces
  have fresh : reader.ready = none := ScriptReader.opened_ready access source settings
  have sound : reader.Sound := ScriptReader.opened_sound access source settings
  have reached : Reaches reader handed after := Reaches.start.pulls fresh requests
  have hsound := reached.sound sound
  have hidle : after.draft.scanned = [] :=
    reached.scanned_nil rfl
  obtain ⟨read, hread, hcount, hrange, htext⟩ :=
    reached.conserved sound (ScriptReader.opened_conserved access source settings)
  have hlines : lines = read ++ after.lines.linesLeft := hread
  have hpieces : after.pieces handed = pieces := by
    simp [pieces, ScriptReader.pieces, Draft.pieces, hidle, hsound.lineNumber,
      ScriptReader.lineNumber]
  have hnumber : after.lineNumber = read.length := hcount.symm
  rw [hpieces] at hrange htext
  refine ⟨?_, ?_, ?_, ?_⟩
  · simp [hlines, hnumber]
  · rw [hnumber]
    exact hrange
  · intro number hl hu
    rw [hnumber] at hu
    rw [← htext number hl hu, hlines]
    exact List.getElem?_append_left (by omega)
  · intro hd
    obtain ⟨_, hp, _, _, failure, asked, hi⟩ := ScriptReader.done_iff.mp hd
    have hleft := hsound.ended failure asked hi
    refine ⟨?_, hp⟩
    simp [hlines, hnumber, hleft]

end SqlScript

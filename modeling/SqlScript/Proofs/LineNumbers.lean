import SqlScript.Proofs.Alone
import SqlScript.Proofs.AtRest
import SqlScript.Proofs.Conservation

namespace SqlScript

/-- Statements on lines from the first to the last of these numbers, of which none starts before the
one before it has ended. -/
structure InOrder (first last : Nat) (statements : List Statement) : Prop where
  lines : ∀ statement ∈ statements, first ≤ statement.firstLine ∧
    statement.firstLine ≤ statement.lastLine ∧ statement.lastLine ≤ last
  pairwise : statements.Pairwise fun before after => before.lastLine ≤ after.firstLine

namespace InOrder

variable {first last : Nat} {statement : Statement} {statements : List Statement}

theorem nil (first last : Nat) : InOrder first last [] :=
  ⟨by simp, List.Pairwise.nil⟩

theorem cons (hf : first ≤ statement.firstLine) (hs : statement.firstLine ≤ statement.lastLine)
    (hl : statement.lastLine ≤ last) (h : InOrder statement.lastLine last statements) :
    InOrder first last (statement :: statements) := by
  refine ⟨?_, List.pairwise_cons.mpr ⟨fun after hm => (h.lines after hm).1, h.pairwise⟩⟩
  rw [List.forall_mem_cons]
  refine ⟨⟨hf, hs, hl⟩, fun after hm => ?_⟩
  have hafter := h.lines after hm
  omega

theorem of_le {start : Nat} (h : InOrder start last statements) (hf : first ≤ start) :
    InOrder first last statements := by
  refine ⟨fun statement hm => ?_, h.pairwise⟩
  have hlines := h.lines statement hm
  omega

/-- A line after the statement before it and before the one after it is a line of none. -/
theorem not_between (h : InOrder first last statements) {index number : Nat}
    (hbefore : ∀ before ∈ (statements.take index).getLast?, before.lastLine < number)
    (hafter : ∀ after ∈ (statements.drop index).head?, number < after.firstLine) :
    ∀ statement ∈ statements, statement.lastLine < number ∨ number < statement.firstLine := by
  intro statement hm
  rw [← List.take_append_drop index statements] at hm
  rcases List.mem_append.mp hm with hm | hm
  · left
    rcases List.eq_nil_or_concat (statements.take index) with hnil | ⟨front, nearest, heq⟩
    · simp [hnil] at hm
    · have hnearest := hbefore nearest (by simp [heq])
      have htake : (statements.take index).Pairwise _ := h.pairwise.sublist (List.take_sublist ..)
      have hline := h.lines nearest (List.mem_of_mem_take (by rw [heq]; simp))
      rw [heq, List.concat_eq_append, List.pairwise_append] at htake
      rw [heq, List.concat_eq_append, List.mem_append, List.mem_singleton] at hm
      rcases hm with hm | rfl
      · have hpair := htake.2.2 statement hm nearest (List.mem_singleton_self _)
        omega
      · exact hnearest
  · right
    cases heq : statements.drop index with
    | nil => simp [heq] at hm
    | cons nearest back =>
      have hnearest := hafter nearest (by simp [heq])
      have hdrop : (statements.drop index).Pairwise _ := h.pairwise.sublist (List.drop_sublist ..)
      have hline := h.lines nearest (List.mem_of_mem_drop (by rw [heq]; simp))
      rw [heq, List.pairwise_cons] at hdrop
      rw [heq, List.mem_cons] at hm
      rcases hm with rfl | hm
      · exact hnearest
      · have hpair := hdrop.1 statement hm
        omega

end InOrder

/-- One pass numbers the lines of a text: its statements stand on them in order. -/
theorem onePass_inOrder (escape : Option UInt8) (number : Nat) (delimiter text : Bytes) :
    InOrder number (number + text.count lineFeed) (onePass escape number delimiter text) := by
  fun_induction onePass escape number delimiter text with
  | case1 => exact .nil _ _
  | case2 number delimiter rest ih =>
    have hlast : number + (lineFeed :: rest).count lineFeed =
        number + 1 + rest.count lineFeed := by
      rw [List.count_cons_self]
      omega
    rw [hlast]
    exact ih.of_le (Nat.le_add_right number 1)
  | case3 number delimiter b rest hb first next hn ih =>
    obtain ⟨line, after, rfl, hl, ht⟩ := exists_line rest
    have hfirst : lineFeed ∉ b :: line := by simpa [hl] using fun he : lineFeed = b => hb he.symm
    rw [ht.dropWhile hl] at ih ⊢
    rw [← List.cons_append, List.count_append, List.count_eq_zero_of_not_mem hfirst, Nat.zero_add]
    exact .cons (Nat.le_refl _) (Nat.le_refl _) (Nat.le_add_right _ _) ih
  | case4 number delimiter b rest hb first hn hcut =>
    exact .cons (Nat.le_refl _) (Nat.le_add_right _ _) (Nat.le_refl _) (.nil _ _)
  | case5 number delimiter b rest hb first hn cut after hcut last ih =>
    obtain ⟨htext, -⟩ := cutText_eq_some hcut
    rw [htext, List.count_append, ← Nat.add_assoc]
    exact .cons (Nat.le_refl _) (Nat.le_add_right _ _) (Nat.le_add_right _ _) ih

theorem ScriptReader.opened_inOrder (access : Access) (source : Source) (settings : Settings) :
    let reader := opened access source settings
    InOrder 1 reader.lines.linesLeft.length reader.drain.1 := by
  intro reader
  have hcount : (following reader.lines.linesLeft).count lineFeed = reader.lines.linesLeft.length :=
    count_lineFeed_following (LineReader.lineFeed_notMem_linesLeft _)
  have hdrain : reader.drain.1 = _ := opened_drain access source settings
  have horder := onePass_inOrder (usableEscape settings.escape) 0
    (usableDelimiter settings.delimiter) (following reader.lines.linesLeft)
  rw [hcount, Nat.zero_add] at horder
  rw [hdrain]
  refine ⟨fun statement hm => ?_, horder.pairwise⟩
  have hlines := horder.lines statement hm
  exact ⟨one_le_firstLine hm, hlines.2⟩

namespace Statement.Formed

variable {escape : Option UInt8} {delimiter : Bytes} {statement : Statement}

theorem count_lineFeed (h : Formed escape delimiter statement) :
    statement.bytes.count lineFeed = statement.lastLine - statement.firstLine := by
  cases h with
  | directive oneLine parsed => rw [List.count_eq_zero_of_not_mem oneLine, Nat.sub_self]
  | sql => rw [Nat.add_sub_cancel_left]

theorem head?_ne_lineFeed (h : Formed escape delimiter statement) :
    statement.bytes.head? ≠ some lineFeed := by
  cases h with
  | directive oneLine parsed => exact fun hh => oneLine (List.mem_of_head? hh)
  | sql begins plain ends => simpa using begins

theorem pieces_lines (h : Formed escape delimiter statement) :
    ∀ piece ∈ statement.pieces,
      statement.firstLine ≤ piece.line ∧ piece.line ≤ statement.lastLine := by
  intro piece hm
  have hcount := h.count_lineFeed
  have hlines := h.firstLine_le_lastLine
  obtain ⟨index, hi, rfl⟩ := List.mem_mapIdx.mp hm
  rw [length_splitOn] at hi
  change statement.firstLine ≤ statement.firstLine + index ∧
    statement.firstLine + index ≤ statement.lastLine
  omega

end Statement.Formed

/-- Once all statements are handed out, they cover all lines. -/
theorem ScriptReader.opened_covers (access : Access) (source : Source) (settings : Settings) :
    let reader := opened access source settings
    Covers reader.lines.linesLeft (reader.drain.1.flatMap Statement.pieces) := by
  intro reader
  have fresh : reader.ready = none := opened_ready access source settings
  have sound : reader.Sound := opened_sound access source settings
  have reached : Reaches reader _ reader.rest.2 := Reaches.start.rest fresh
  have hdone := reader.rest_done
  have hall := reached.drain.1
  obtain ⟨hr, pending, idle, _, failure, asked, input⟩ := done_iff.mp hdone
  obtain ⟨read, hlines, -, hcovers⟩ :=
    reached.conserved sound (opened_conserved access source settings)
  rw [(reached.sound sound).ended failure asked input, List.append_nil] at hlines
  rw [hdone.drain, List.append_nil] at hall
  rw [hlines, hall]
  simpa [pieces, hr, Draft.pieces, idle, pending] using hcovers

/-- A line on which no statement stands is empty. -/
theorem ScriptReader.opened_blank (access : Access) (source : Source) (settings : Settings)
    {number : Nat} :
    let reader := opened access source settings
    1 ≤ number → number ≤ reader.lines.linesLeft.length →
      (∀ statement ∈ reader.drain.1,
        statement.lastLine < number ∨ number < statement.firstLine) →
      reader.lines.linesLeft[number - 1]? = some [] := by
  intro reader hl hu hnone
  rw [(opened_covers access source settings).2 number hl hu]
  congr 1
  apply textOn_eq_nil
  intro piece hp
  obtain ⟨statement, hm, hp⟩ := List.mem_flatMap.mp hp
  obtain ⟨index, hi⟩ := List.mem_iff_getElem?.mp hm
  have hlines := (opened_formed access source settings hi).2.1.pieces_lines piece hp
  have hoff := hnone statement hm
  omega

/-- Statements stand in order on lines that there are, with nothing but empty lines between them. -/
theorem statements_stand_on_lines (access : Access) (source : Source) (settings : Settings) :
    let reader := ScriptReader.opened access source settings
    let lines := reader.lines.linesLeft
    let all := reader.outcome.statements
    (∀ index statement, all[index]? = some statement →
      let found := (reader.nextUpTo index).2.advance.2
      (1 ≤ statement.firstLine ∧ statement.firstLine ≤ statement.lastLine ∧
        statement.lastLine ≤ lines.length) ∧
      statement.bytes.count lineFeed = statement.lastLine - statement.firstLine ∧
      (statement.kind = .directive → lineFeed ∉ statement.bytes) ∧
      statement.bytes.head? ≠ some lineFeed ∧
      (∀ next, all[index + 1]? = some next → statement.lastLine ≤ next.firstLine) ∧
      found.ready = some statement ∧ found.lineNumber = statement.lastLine ∧
        found.lines.linesLeft = lines.drop statement.lastLine) ∧
    (∀ index number, 1 ≤ number → number ≤ lines.length →
      (∀ before ∈ (all.take index).getLast?, before.lastLine < number) →
      (∀ after ∈ (all.drop index).head?, number < after.firstLine) →
      lines[number - 1]? = some []) ∧
    ∀ requests statement, (reader.pulls requests).2.ready = some statement →
      statement ∈ all ∧ (reader.pulls requests).2.lineNumber = statement.lastLine := by
  intro reader lines all
  have fresh : reader.ready = none := ScriptReader.opened_ready access source settings
  have horder : InOrder 1 lines.length all := ScriptReader.opened_inOrder access source settings
  have hplaced : ∀ {handed after}, Reaches reader handed after →
      ScriptReader.Placed lines after := fun reached =>
    reached.kept (ScriptReader.kept_placed _) (ScriptReader.opened_placed access source settings)
  refine ⟨?_, ?_, ?_⟩
  · intro index statement hi found
    obtain ⟨hready, hformed, -, -⟩ := ScriptReader.opened_formed access source settings hi
    obtain ⟨reached, -, -⟩ := Reaches.start.nextUpTo_of_drain fresh hi
    have hfound := hplaced reached.advance
    have hnumber := hfound.ready statement hready
    refine ⟨horder.lines statement (List.mem_of_getElem? hi), hformed.count_lineFeed,
      hformed.oneLine, hformed.head?_ne_lineFeed, ?_, hready, hnumber.symm, ?_⟩
    · intro next hnext
      obtain ⟨hlt, rfl⟩ := List.getElem?_eq_some_iff.mp hi
      obtain ⟨hlt', rfl⟩ := List.getElem?_eq_some_iff.mp hnext
      exact List.pairwise_iff_getElem.mp horder.pairwise _ _ hlt hlt' (Nat.lt_succ_self index)
    · rw [hnumber]
      exact hfound.linesLeft.symm
  · intro index number hl hu hbefore hafter
    exact ScriptReader.opened_blank access source settings hl hu
      (horder.not_between hbefore hafter)
  · intro requests statement hr
    have reached := Reaches.start.pulls fresh requests
    refine ⟨reached.made_isPrefix.subset ?_, ((hplaced reached).ready statement hr).symm⟩
    simp [hr]

example : (ScriptReader.ofText "\n\na;\n\nb\n\n").outcome.statements =
    [⟨Bytes.ofText "a;", 3, 3, .sql⟩, ⟨Bytes.ofText "b\n", 5, 6, .sql⟩] := by
  decide +kernel

end SqlScript

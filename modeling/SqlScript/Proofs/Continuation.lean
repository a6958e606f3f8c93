import SqlScript.Proofs.Failing
import SqlScript.Proofs.Remainder

namespace SqlScript

/-- The delimiter in force after a statement. -/
def Statement.delimiterAfter (delimiter : Bytes) (statement : Statement) : Bytes :=
  match statement.kind with
  | .sql => delimiter
  | .directive => (newDelimiter? statement.bytes).getD delimiter

/-- The delimiter in force after statements, which is that of the last directive. -/
def delimiterAfter (delimiter : Bytes) (statements : List Statement) : Bytes :=
  statements.foldl Statement.delimiterAfter delimiter

/-- A statement so many lines further down. -/
def Statement.onLater (lines : Nat) (statement : Statement) : Statement :=
  { statement with
    firstLine := statement.firstLine + lines
    lastLine := statement.lastLine + lines }

theorem delimiterAfter_append (delimiter : Bytes) (before after : List Statement) :
    delimiterAfter delimiter (before ++ after) =
      delimiterAfter (delimiterAfter delimiter before) after :=
  List.foldl_append

theorem delimiterAfter_onLater (lines : Nat) (delimiter : Bytes) (statements : List Statement) :
    delimiterAfter delimiter (statements.map (Statement.onLater lines)) =
      delimiterAfter delimiter statements := by
  rw [delimiterAfter, List.foldl_map]
  rfl

theorem Statement.delimiterAfter_of_isUnended {escape : Option UInt8} {delimiter current : Bytes}
    {statement : Statement} (h : statement.isUnended escape delimiter = true) :
    statement.delimiterAfter current = current := by
  have hkind : statement.kind = .sql := by
    simp only [isUnended, Bool.and_eq_true, beq_iff_eq] at h
    exact h.1
  simp [Statement.delimiterAfter, hkind]

section

variable {f : Bytes → Bytes}
  (parsed : ∀ line delimiter, lineFeed ∉ line → newDelimiter? line = some delimiter →
    f delimiter = delimiter)

include parsed

theorem ScriptReader.Sound.delimiter_step {reader : ScriptReader} (h : reader.Sound) :
    f reader.step.reader.delimiter =
      delimiterAfter (f reader.delimiter) reader.step.statements := by
  have hs := reader.stepOf
  generalize reader.step = result at hs ⊢
  cases hs with
  | @directive line delimiter pending idle code hd =>
    have hf := parsed line delimiter (h.draft.pending line pending) hd
    simp [Step.statements, Step.reader, delimiterAfter, holdDirective, hold,
      Statement.delimiterAfter, hd, ScriptReader.delimiter, Draft.cleared, hf]
  | delimiter pending plain cut => exact congrArg f reader.draft.onLine_delimiter
  | lineEnd pending plain cut => exact congrArg f reader.draft.onLine_delimiter
  | _ => rfl

/-- The delimiter at the end is the one that the last directive has set. -/
theorem ScriptReader.Sound.delimiter_drain {reader : ScriptReader} (h : reader.Sound)
    (hr : reader.ready = none) :
    f reader.drain.2.delimiter = delimiterAfter (f reader.delimiter) reader.drain.1 := by
  refine drain_induction (Q := fun reader drained => reader.Sound →
    f drained.2.delimiter = delimiterAfter (f reader.delimiter) drained.1) ?_ ?_ ?_ hr h
  · intro reader next statement drained hs hn ih h
    have hstep := h.delimiter_step parsed
    have hnext := h.step
    rw [hs, Step.statements, Step.reader, hn] at hstep
    rw [hs] at hnext
    rw [ih (kept_sound.taken next hnext)]
    exact congrArg (delimiterAfter · drained.1) hstep
  · intro reader next hs hd h
    have hstep := h.delimiter_step parsed
    rwa [hs] at hstep
  · intro reader next drained hs ih h
    have hstep := h.delimiter_step parsed
    have hnext := h.step
    rw [hs] at hstep hnext
    rw [ih hnext]
    exact congrArg (delimiterAfter · drained.1) hstep

end

theorem onePass_onLater (escape : Option UInt8) (number lines : Nat) (delimiter text : Bytes) :
    onePass escape (number + lines) delimiter text =
      (onePass escape number delimiter text).map (Statement.onLater lines) := by
  fun_induction onePass escape number delimiter text with
  | case1 => simp [onePass]
  | case2 number delimiter rest ih =>
    rw [onePass_lineFeed, ← ih, Nat.add_right_comm]
  | case3 number delimiter b rest hb first next hn ih =>
    rw [onePass_cons_directive hb hn, ih]
    rfl
  | case4 number delimiter b rest hb first hn hcut =>
    rw [onePass_cons_plain hb hn, hcut, statementsOfCut, Nat.add_right_comm]
    rfl
  | case5 number delimiter b rest hb first hn cut after hcut last ih =>
    rw [onePass_cons_plain hb hn, hcut, statementsOfCut, Nat.add_right_comm, ih]
    rfl

/-- The last of the statements, if it is unended. -/
def unended? (escape : Option UInt8) (delimiter : Bytes) (statements : List Statement) :
    Option Statement :=
  statements.getLast?.filter (Statement.isUnended escape (delimiterAfter delimiter statements))

/-- What the statements of a text come to if there is more text after it. -/
def continued (escape : Option UInt8) (number : Nat) (delimiter : Bytes)
    (statements : List Statement) (more : Bytes) : List Statement :=
  match unended? escape delimiter statements with
  | none => statements ++ onePass escape number (delimiterAfter delimiter statements) more
  | some unended => statements.dropLast ++
      onePass escape unended.firstLine (delimiterAfter delimiter statements) (unended.bytes ++ more)

theorem unended?_cons {escape : Option UInt8} {delimiter : Bytes} {statement : Statement}
    (h : statement.isUnended escape (statement.delimiterAfter delimiter) = false)
    (statements : List Statement) :
    unended? escape delimiter (statement :: statements) =
      unended? escape (statement.delimiterAfter delimiter) statements := by
  cases statements with
  | nil => simp [unended?, delimiterAfter, h]
  | cons next statements => simp [unended?, delimiterAfter]

theorem continued_cons {escape : Option UInt8} {delimiter : Bytes} {statement : Statement}
    (h : statement.isUnended escape (statement.delimiterAfter delimiter) = false) (number : Nat)
    (statements : List Statement) (more : Bytes) :
    continued escape number delimiter (statement :: statements) more =
      statement ::
        continued escape number (statement.delimiterAfter delimiter) statements more := by
  have hd : delimiterAfter delimiter (statement :: statements) =
      delimiterAfter (statement.delimiterAfter delimiter) statements := rfl
  rw [continued, continued, unended?_cons h, hd]
  cases hu : unended? escape (statement.delimiterAfter delimiter) statements with
  | none => rfl
  | some unended =>
    have hne : statements ≠ [] := by
      rintro rfl
      simp [unended?] at hu
    simp [List.dropLast_cons_of_ne_nil hne]

theorem AtLineEnd.append {text more : Bytes} (h : AtLineEnd text) (hm : AtLineEnd more) :
    AtLineEnd (text ++ more) := by
  rcases h with rfl | ⟨after, rfl⟩
  · exact hm
  · exact .inr ⟨after ++ more, rfl⟩

theorem exists_line (text : Bytes) :
    ∃ line after, text = line ++ after ∧ lineFeed ∉ line ∧ AtLineEnd after := by
  by_cases hl : lineFeed ∈ text
  · obtain ⟨line, after, hline, htext⟩ := exists_lines_of_mem hl
    exact ⟨line, lineFeed :: after, htext, hline, .inr ⟨after, rfl⟩⟩
  · exact ⟨text, [], (List.append_nil text).symm, hl, .inl rfl⟩

/-- More lines after a text change none of its statements but an unended one. -/
theorem onePass_append {escape : Option UInt8} {number : Nat} {delimiter text more : Bytes}
    (hd : lineFeed ∉ delimiter) (hm : AtLineEnd more) :
    onePass escape number delimiter (text ++ more) =
      continued escape (number + text.count lineFeed) delimiter
        (onePass escape number delimiter text) more := by
  fun_induction onePass escape number delimiter text with
  | case1 => rfl
  | case2 number delimiter rest ih =>
    rw [List.cons_append, onePass_lineFeed, ih hd, List.count_cons_self]
    congr 1
    omega
  | case3 number delimiter b rest hb first next hn ih =>
    obtain ⟨line, after, rfl, hl, ht⟩ := exists_line rest
    have hfirst : lineFeed ∉ b :: line := by simpa [hl] using fun he : lineFeed = b => hb he.symm
    simp only [first, ht.takeWhile hl, ht.dropWhile hl] at hn ih ⊢
    have hnext : lineFeed ∉ next := fun hf => hfirst ((newDelimiter?_suffix hn).subset hf)
    have hset : Statement.delimiterAfter delimiter ⟨b :: line, number, number, .directive⟩ =
        next := by
      simp [Statement.delimiterAfter, hn]
    rw [← List.cons_append, List.append_assoc, onePass_directive hfirst (ht.append hm) hn, ih hnext,
      List.count_append, List.count_eq_zero_of_not_mem hfirst, continued_cons rfl, hset,
      Nat.zero_add]
  | case4 number delimiter b rest hb first hn hcut =>
    have hu : unended? escape delimiter
        [⟨b :: rest, number, number + (b :: rest).count lineFeed, .sql⟩] =
          some ⟨b :: rest, number, number + (b :: rest).count lineFeed, .sql⟩ := by
      simp [unended?, Statement.isUnended, delimiterAfter, Statement.delimiterAfter, hcut]
    rw [continued, hu]
    rfl
  | case5 number delimiter b rest hb first hn cut after hcut last ih =>
    obtain ⟨line, tail, rfl, hl, ht⟩ := exists_line rest
    have hfirst : lineFeed ∉ b :: line := by simpa [hl] using fun he : lineFeed = b => hb he.symm
    simp only [first, ht.takeWhile hl] at hn
    have hmore := cutText_append hm hcut
    rw [← List.cons_append, List.append_assoc] at hmore
    rw [← List.cons_append, List.append_assoc,
      onePass_plain (List.cons_ne_nil b line) hfirst (ht.append hm) hn, hmore, statementsOfCut,
      ih hd, continued_cons (Statement.isUnended_of_cut hcut _ _), List.cons_append,
      (cutText_eq_some hcut).1, List.count_append, ← Nat.add_assoc]
    rfl

end SqlScript

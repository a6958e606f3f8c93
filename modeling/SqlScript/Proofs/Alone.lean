import SqlScript.Proofs.History
import SqlScript.Proofs.Restart

namespace SqlScript

/-- A text whose line ends are bare line feeds, and that goes on after the last, is split at them.
-/
theorem textLines_eq_splitOn {text : Bytes} (hne : text ≠ [])
    (plain : ¬[carriageReturn, lineFeed] <:+: text) (tail : text.getLast? ≠ some lineFeed) :
    textLines text = text.splitOn lineFeed := by
  induction hn : text.length using Nat.strongRecOn generalizing text with
  | ind n ih =>
    by_cases hl : lineFeed ∈ text
    · obtain ⟨piece, rest, hpiece, rfl⟩ := exists_lines_of_mem hl
      have hrest : rest ≠ [] := by
        rintro rfl
        simp at tail
      have hline : lineOfPiece piece = piece := by
        apply if_neg
        intro hlast
        obtain ⟨front, rfl⟩ := List.getLast?_eq_some_iff.mp hlast
        exact plain ⟨front, rest, by simp⟩
      have hplain : ¬[carriageReturn, lineFeed] <:+: rest := by
        intro hi
        exact plain (hi.trans ⟨piece ++ [lineFeed], [], by simp⟩)
      have htail : rest.getLast? ≠ some lineFeed := by
        rwa [List.getLast?_append_of_ne_nil _ (List.cons_ne_nil _ _),
          List.getLast?_cons_of_ne_nil hrest] at tail
      have hlt : rest.length < n := by
        rw [← hn, List.length_append, List.length_cons]
        omega
      rw [textLines_cons hpiece, hline, ih _ hlt hrest hplain htail rfl,
        List.splitOn_append_cons_self, List.splitOn_eq_singleton hpiece, List.singleton_append]
    · rw [textLines_of_notMem hl, if_neg hne, List.splitOn_eq_singleton hl]

theorem joinLines_textLines {text : Bytes} (hne : text ≠ [])
    (plain : ¬[carriageReturn, lineFeed] <:+: text) (tail : text.getLast? ≠ some lineFeed) :
    joinLines (textLines text) = text := by
  rw [textLines_eq_splitOn hne plain tail]
  exact List.intercalate_splitOn lineFeed

namespace Statement.Formed

variable {escape : Option UInt8} {delimiter : Bytes} {statement : Statement}

/-- One pass makes of a directive the directive, whatever delimiter is in force. -/
theorem onePass_directive_alone (h : Formed escape delimiter statement)
    (hk : statement.kind = .directive) (escape' : Option UInt8) (delimiter' : Bytes) :
    onePass escape' 1 delimiter' statement.bytes = [⟨statement.bytes, 1, 1, .directive⟩] := by
  cases h with
  | @directive line next number oneLine parsed =>
    have hpass : onePass escape' 1 delimiter' (line ++ []) = _ :=
      onePass_directive oneLine (.inl rfl) parsed
    rw [List.append_nil] at hpass
    rw [hpass, onePass]
  | sql => simp at hk

/-- One pass makes of an SQL statement the statement. -/
theorem onePass_sql_alone (h : Formed escape delimiter statement) (hk : statement.kind = .sql) :
    onePass escape 1 delimiter statement.bytes =
      [⟨statement.bytes, 1, statement.lastLine - statement.firstLine + 1, .sql⟩] := by
  cases h with
  | directive => simp at hk
  | @sql b rest number begins plain ends =>
    have hlines : number + (b :: rest).count lineFeed - number + 1 =
        1 + (b :: rest).count lineFeed := by omega
    rw [onePass_cons_plain begins (takeWhile_cons_of_begins begins rest ▸ plain), hlines]
    rcases ends with hcut | hcut
    · rw [hcut, statementsOfCut]
    · rw [hcut, statementsOfCut, onePass]

theorem bytes_ne_nil (h : Formed escape delimiter statement) : statement.bytes ≠ [] := by
  cases h with
  | directive oneLine parsed =>
    rintro rfl
    simp [newDelimiter?_nil] at parsed
  | sql => exact List.cons_ne_nil _ _

theorem firstLine_le_lastLine (h : Formed escape delimiter statement) :
    statement.firstLine ≤ statement.lastLine := by
  cases h with
  | directive => exact Nat.le_refl _
  | sql => exact Nat.le_add_right _ _

end Statement.Formed

theorem ScriptReader.ofScript_outcome_alone (access : Access) {settings : Settings}
    (holds : access = .buffered → 1 ≤ settings.capacity) {delimiter text : Bytes} (hne : text ≠ [])
    (plain : ¬[carriageReturn, lineFeed] <:+: text) (tail : text.getLast? ≠ some lineFeed) :
    (ofScript access settings delimiter text).outcome =
      ⟨onePass (usableEscape settings.escape) 1 (usableDelimiter delimiter) text, none⟩ := by
  rw [ofScript_outcome_of_holds access settings delimiter holds,
    joinLines_textLines hne plain tail]

/-- A statement that has been drained, split alone where its delimiter is in force, comes to itself.
-/
theorem statement_alone (access : Access) (source : Source) (settings : Settings) {index : Nat}
    {statement : Statement}
    (drained : (ScriptReader.opened access source settings).outcome.statements[index]? =
      some statement)
    (again : Access) {other : Settings} (holds : again = .buffered → 1 ≤ other.capacity) :
    let delimiter := ((ScriptReader.opened access source settings).nextUpTo index).2.delimiter
    statement.firstLine ≤ statement.lastLine ∧
      (statement.kind = .directive → ∀ start,
        (ScriptReader.ofScript again other start statement.bytes).outcome =
          ⟨[⟨statement.bytes, 1, 1, .directive⟩], none⟩) ∧
      (statement.kind = .sql → ¬[carriageReturn, lineFeed] <:+: statement.bytes →
        statement.bytes.getLast? ≠ some lineFeed →
        (ScriptReader.ofScript again (other.withEscape settings.escape) delimiter
            statement.bytes).outcome =
          ⟨[⟨statement.bytes, 1, statement.lastLine - statement.firstLine + 1, .sql⟩], none⟩) := by
  intro delimiter
  obtain ⟨_, hformed, _, _⟩ := ScriptReader.opened_formed access source settings drained
  refine ⟨hformed.firstLine_le_lastLine, ?_, ?_⟩
  · intro hk start
    have hno := hformed.oneLine hk
    have plain : ¬[carriageReturn, lineFeed] <:+: statement.bytes :=
      fun hi => hno (hi.subset (by simp))
    have tail : statement.bytes.getLast? ≠ some lineFeed :=
      fun hl => hno (List.mem_of_getLast? hl)
    rw [ScriptReader.ofScript_outcome_alone again holds hformed.bytes_ne_nil plain tail,
      hformed.onePass_directive_alone hk]
  · intro hk plain tail
    have hholds : again = .buffered → 1 ≤ (other.withEscape settings.escape).capacity := holds
    rw [ScriptReader.ofScript_outcome_alone again hholds hformed.bytes_ne_nil plain tail,
      ← hformed.onePass_sql_alone hk]
    rfl

/-- A remainder from the middle of a line, after a dash with which a comment could be thought to
begin. -/
theorem statement_alone_after_dash :
    let source : Source := [.data (Bytes.ofText "x;delimiter -;\n'a\nb' -;--;\nc")]
    let reader := ScriptReader.opened .buffered source default
    let remainder : Statement := ⟨Bytes.ofText "--;\nc", 3, 4, .sql⟩
    reader.outcome.statements[3]? = some remainder ∧
      (Access.buffered = .buffered → 1 ≤ (default : Settings).capacity) ∧
      (ScriptReader.ofScript .buffered default (Bytes.ofText "-;") remainder.bytes).outcome =
        ⟨[⟨remainder.bytes, 1, 2, .sql⟩], none⟩ := by
  intro source reader remainder
  have drained : reader.outcome.statements[3]? = some remainder := by decide +kernel
  have holds : Access.buffered = .buffered → 1 ≤ (default : Settings).capacity := by decide
  have hdelimiter : (reader.nextUpTo 3).2.delimiter = Bytes.ofText "-;" := by decide +kernel
  obtain ⟨_, _, hsql⟩ := statement_alone .buffered source default drained .buffered holds
  have hself := hsql rfl (by decide) (by decide)
  refine ⟨drained, holds, ?_⟩
  rw [← hdelimiter]
  exact hself

end SqlScript

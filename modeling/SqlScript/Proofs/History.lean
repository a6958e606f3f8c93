import Mathlib.Data.List.Induction
import SqlScript.Proofs.Consumption
import SqlScript.Proofs.Formation

namespace SqlScript

/-- The last directive of some statements. -/
def lastDirective? (statements : List Statement) : Option Statement :=
  (statements.filter Statement.isDirective).getLast?

/-- The delimiter in force is the one that the last directive sets. -/
theorem delimiterAfter_eq_lastDirective {statements : List Statement}
    (parsed : ∀ statement ∈ statements, statement.isDirective = true →
      (newDelimiter? statement.bytes).isSome = true) (delimiter : Bytes) :
    match lastDirective? statements with
    | none => delimiterAfter delimiter statements = delimiter
    | some directive =>
      newDelimiter? directive.bytes = some (delimiterAfter delimiter statements) := by
  induction statements using List.reverseRecOn with
  | nil => rfl
  | append_singleton statements statement ih =>
    have hbefore := ih fun other hm => parsed other (List.mem_append_left _ hm)
    rw [delimiterAfter_append]
    cases hk : statement.kind with
    | sql =>
      have hlast : lastDirective? (statements ++ [statement]) = lastDirective? statements := by
        simp [lastDirective?, Statement.isDirective, hk]
      have hsame : delimiterAfter (delimiterAfter delimiter statements) [statement] =
          delimiterAfter delimiter statements := by
        simp [delimiterAfter, Statement.delimiterAfter, hk]
      rwa [hlast, hsame]
    | directive =>
      have hd : statement.isDirective = true := by simp [Statement.isDirective, hk]
      have hlast : lastDirective? (statements ++ [statement]) = some statement := by
        simp [lastDirective?, hd]
      have hm : statement ∈ statements ++ [statement] := by simp
      obtain ⟨next, hn⟩ := Option.isSome_iff_exists.mp (parsed statement hm hd)
      rw [hlast]
      simp [delimiterAfter, Statement.delimiterAfter, hk, hn]

theorem ScriptReader.step_statements {reader : ScriptReader} (hr : reader.ready = none) :
    reader.step.statements = reader.step.reader.ready.toList := by
  cases hs : reader.step with
  | found next => rfl
  | nothingLeft next => simp [Step.statements, Step.reader, (step_nothingLeft_done hr hs).1]
  | more next => simp [Step.statements, Step.reader, step_more_ready hs, hr]

/-- The delimiter of a reader is the one that the statements made so far leave. -/
theorem Reaches.delimiter {f : Bytes → Bytes} {start reader : ScriptReader}
    {handed : List Statement}
    (parsed : ∀ line delimiter, lineFeed ∉ line → newDelimiter? line = some delimiter →
      f delimiter = delimiter)
    (sound : start.Sound) (fresh : start.ready = none) (h : Reaches start handed reader) :
    f reader.delimiter = delimiterAfter (f start.delimiter) (handed ++ reader.ready.toList) := by
  induction h with
  | start => simp [fresh, delimiterAfter]
  | @advance handed reader h ih =>
    have hboth : reader.advance.2.Sound ∧ f reader.advance.2.delimiter =
        delimiterAfter (f start.delimiter) (handed ++ reader.advance.2.ready.toList) := by
      apply reader.advance_preserves (P := fun reader => reader.Sound ∧ f reader.delimiter =
        delimiterAfter (f start.delimiter) (handed ++ reader.ready.toList))
      · intro r hr hp
        refine ⟨hp.1.step, ?_⟩
        rw [hp.1.delimiter_step parsed, hp.2, ScriptReader.step_statements hr, hr,
          ← delimiterAfter_append]
        simp
      · exact ⟨h.sound sound, ih⟩
    exact hboth.2
  | take h ih => rwa [Option.toList_none, List.append_nil]
  | @ask handed reader h hd ih =>
    unfold ScriptReader.askFailure
    split <;> exact ih

/-- What has been made ready is the first part of what is drained. -/
theorem Reaches.made_isPrefix {start reader : ScriptReader} {handed : List Statement}
    (h : Reaches start handed reader) : handed ++ reader.ready.toList <+: start.drain.1 := by
  rw [h.drain.1]
  cases hr : reader.ready with
  | none => simp
  | some statement =>
    rw [ScriptReader.drain_of_ready hr]
    simp

/-- After so many items the statements before this one have been handed out, and advancing makes it
ready. -/
theorem Reaches.nextUpTo_of_drain {start reader : ScriptReader} {handed : List Statement}
    {index : Nat} {statement : Statement} (h : Reaches start handed reader)
    (fresh : reader.ready = none) (hi : reader.drain.1[index]? = some statement) :
    Reaches start (handed ++ reader.drain.1.take index) (reader.nextUpTo index).2 ∧
      (reader.nextUpTo index).2.ready = none ∧
      (reader.nextUpTo index).2.advance.2.ready = some statement := by
  have hdrain := reader.drain_advance
  induction index generalizing handed reader with
  | zero =>
    refine ⟨by simpa [ScriptReader.nextUpTo] using h, fresh, ?_⟩
    rw [ScriptReader.nextUpTo]
    rcases reader.advance_cases with ⟨next, first, ha, hr⟩ | ⟨next, ha, hd⟩
    · rw [ha, ScriptReader.drain_of_ready hr] at hdrain
      rw [← hdrain] at hi
      rw [ha, hr]
      simpa using hi
    · rw [ha, hd.drain] at hdrain
      simp [← hdrain] at hi
  | succ index ih =>
    have hadvance := h.advance
    rcases reader.next_cases with ⟨next, first, ha, hr, hn⟩ | ⟨next, ha, hd, hn⟩
    · rw [ha, ScriptReader.drain_of_ready hr] at hdrain
      rw [← hdrain] at hi ⊢
      rw [ha] at hadvance
      have htake := hadvance.take
      rw [hr, Option.toList_some] at htake
      have hrest := ih htake rfl (by simpa using hi) (ScriptReader.drain_advance _)
      simpa [ScriptReader.nextUpTo, hn] using hrest
    · rw [ha, hd.drain] at hdrain
      simp [← hdrain] at hi

theorem ScriptReader.opened_allFormed (access : Access) (source : Source) (settings : Settings) :
    AllFormed (usableEscape settings.escape) (usableDelimiter settings.delimiter)
      (ScriptReader.opened access source settings).drain.1 := by
  rw [(opened_sound access source settings).drain_eq_onePassLeft (opened_ready ..),
    opened_onePassLeft]
  exact onePass_allFormed _ _ _ _

/-- Each statement of a drain is formed under the delimiter that the reader has before it advances
to it. -/
theorem ScriptReader.opened_formed (access : Access) (source : Source) (settings : Settings)
    {index : Nat} {statement : Statement} :
    let reader := ScriptReader.opened access source settings
    let before := (reader.nextUpTo index).2
    reader.drain.1[index]? = some statement →
    before.advance.2.ready = some statement ∧
      statement.Formed (usableEscape settings.escape) (usableDelimiter before.delimiter) ∧
      (index + 1 < reader.drain.1.length →
        statement.isUnended (usableEscape settings.escape) (usableDelimiter before.delimiter) =
          false) ∧
      (statement.kind = .sql → before.advance.2.delimiter = before.delimiter) := by
  intro reader before hi
  have fresh : reader.ready = none := opened_ready access source settings
  have sound : reader.Sound := opened_sound access source settings
  have hstart : reader.delimiter = settings.delimiter := opened_delimiter access source settings
  obtain ⟨reached, hnone, hready⟩ := Reaches.start.nextUpTo_of_drain fresh hi
  rw [List.nil_append] at reached
  have hbefore := reached.delimiter usableDelimiter_of_parsed sound fresh
  rw [hnone, Option.toList_none, List.append_nil, hstart] at hbefore
  obtain ⟨hformed, hended⟩ := opened_allFormed access source settings index statement hi
  refine ⟨hready, hbefore ▸ hformed, hbefore ▸ hended, fun hk => ?_⟩
  have hthen := reached.delimiter (f := id) (fun _ _ _ _ => rfl) sound fresh
  have hafter := reached.advance.delimiter (f := id) (fun _ _ _ _ => rfl) sound fresh
  rw [hnone, Option.toList_none, List.append_nil] at hthen
  rw [hready, Option.toList_some, delimiterAfter_append, ← hthen] at hafter
  simpa [delimiterAfter, Statement.delimiterAfter, hk] using hafter

namespace Statement.Formed

variable {escape : Option UInt8} {delimiter : Bytes} {statement : Statement}

theorem parsed (h : Formed escape delimiter statement) (hd : statement.isDirective = true) :
    (newDelimiter? statement.bytes).isSome = true := by
  cases h with
  | directive oneLine parsed => simp [parsed]
  | sql => simp [isDirective] at hd

theorem oneLine (h : Formed escape delimiter statement) (hk : statement.kind = .directive) :
    lineFeed ∉ statement.bytes := by
  cases h with
  | directive oneLine parsed => exact oneLine
  | sql => simp at hk

/-- A statement is a directive just where its first line is one. -/
theorem kind_eq_directive_iff (h : Formed escape delimiter statement) :
    statement.kind = .directive ↔
      (newDelimiter? (statement.bytes.takeWhile (· ≠ lineFeed))).isSome = true := by
  cases h with
  | @directive line next number oneLine parsed =>
    have hline := AtLineEnd.takeWhile (.inl rfl) oneLine
    rw [List.append_nil] at hline
    rw [hline, parsed]
    exact iff_of_true rfl rfl
  | sql begins plain ends =>
    rw [plain]
    simp

/-- An SQL statement that is not unended ends with the delimiter. -/
theorem delimiter_suffix (h : Formed escape delimiter statement) (hk : statement.kind = .sql)
    (ended : statement.isUnended escape delimiter = false) :
    delimiter ≠ [] ∧ delimiter <:+ statement.bytes := by
  cases h with
  | directive => simp at hk
  | sql begins plain ends =>
    rcases ends with hcut | hcut
    · simp [isUnended, hcut] at ended
    · exact cutText_suffix hcut

end Statement.Formed

/-- Settings of a dialect, changed in any ways. -/
inductive Settings.Built : Settings → Prop
  | forDialect (dialect : Dialect) : Built (.forDialect dialect)
  | withEscape {settings : Settings} (escape : UInt8) :
      Built settings → Built (settings.withEscape escape)
  | withDelimiter {settings : Settings} (delimiter : Bytes) :
      Built settings → Built (settings.withDelimiter delimiter)
  | withCapacity {settings : Settings} (capacity : Nat) :
      Built settings → Built (settings.withCapacity capacity)

theorem Settings.Built.delimiter_ne_nil {settings : Settings} (h : settings.Built) :
    settings.delimiter ≠ [] := by
  induction h with
  | forDialect dialect => exact List.cons_ne_nil _ _
  | withEscape escape h ih => exact ih
  | @withDelimiter settings delimiter h ih =>
    unfold Settings.withDelimiter
    split
    next => exact ih
    next hne => simpa using hne
  | withCapacity capacity h ih => exact ih

/-- The delimiter in force is the one that the last directive made ready has set. -/
theorem delimiter_of_last_directive (access : Access) (source : Source) (settings : Settings)
    (requests : List Pull) :
    let reader := ScriptReader.opened access source settings
    let after := (reader.pulls requests).2
    let made := handedOut (reader.pulls requests).1 ++ after.ready.toList
    let all := reader.outcome.statements
    (match lastDirective? made with
      | none => after.delimiter = settings.delimiter
      | some directive => newDelimiter? directive.bytes = some after.delimiter) ∧
    (settings.Built → after.delimiter ≠ []) ∧
    ∀ index statement, all[index]? = some statement →
      let ready := (reader.nextUpTo index).2.advance.2
      ready.ready = some statement ∧
      (statement.kind = .directive ↔
        (newDelimiter? (statement.bytes.takeWhile (· ≠ lineFeed))).isSome = true) ∧
      (statement.kind = .directive → lineFeed ∉ statement.bytes) ∧
      (statement.kind = .sql → index + 1 < all.length →
        ready.delimiter ≠ [] ∧ ready.delimiter <:+ statement.bytes) := by
  intro reader after made all
  have fresh : reader.ready = none := ScriptReader.opened_ready access source settings
  have sound : reader.Sound := ScriptReader.opened_sound access source settings
  have hstart : reader.delimiter = settings.delimiter :=
    ScriptReader.opened_delimiter access source settings
  have reached : Reaches reader (handedOut (reader.pulls requests).1) after :=
    Reaches.start.pulls fresh requests
  have hdelimiter : after.delimiter = delimiterAfter settings.delimiter made :=
    hstart ▸ reached.delimiter (f := id) (fun _ _ _ _ => rfl) sound fresh
  have hlast : match lastDirective? made with
      | none => after.delimiter = settings.delimiter
      | some directive => newDelimiter? directive.bytes = some after.delimiter := by
    rw [hdelimiter]
    apply delimiterAfter_eq_lastDirective
    intro statement hm hd
    have hmem : statement ∈ all := reached.made_isPrefix.subset hm
    obtain ⟨index, hi⟩ := List.mem_iff_getElem?.mp hmem
    exact (ScriptReader.opened_formed access source settings hi).2.1.parsed hd
  refine ⟨hlast, ?_, ?_⟩
  · intro built
    split at hlast
    next => exact hlast ▸ built.delimiter_ne_nil
    next => exact newDelimiter?_ne_nil hlast
  · intro index statement hi ready
    obtain ⟨hready, hformed, hended, hsame⟩ :=
      ScriptReader.opened_formed access source settings hi
    refine ⟨hready, hformed.kind_eq_directive_iff, hformed.oneLine, fun hk hl => ?_⟩
    obtain ⟨hne, hsuffix⟩ := hformed.delimiter_suffix hk (hended hl)
    have husable := usableDelimiter_of_ne_nil hne
    rw [husable] at hne hsuffix
    have hready : ready.delimiter = _ := hsame hk
    rw [hready]
    exact ⟨hne, hsuffix⟩

end SqlScript

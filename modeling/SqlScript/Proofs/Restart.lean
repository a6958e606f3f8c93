import SqlScript.Proofs.Continuation

namespace SqlScript

theorem textLines_append {before : Bytes} (ends : before = [] ∨ before.getLast? = some lineFeed)
    (after : Bytes) : textLines (before ++ after) = textLines before ++ textLines after := by
  rcases ends with rfl | ends
  · rfl
  · obtain ⟨front, rfl⟩ := List.getLast?_eq_some_iff.mp ends
    rw [List.append_assoc, List.singleton_append, textLines_append_lineFeed,
      textLines_append_lineFeed, textLines_nil, List.append_nil]

/-- Bytes without the last of them, if that is this one. -/
def withoutLast (b : UInt8) (bytes : Bytes) : Bytes :=
  if bytes.getLast? = some b then bytes.dropLast else bytes

theorem withoutLast_isPrefix (b : UInt8) (bytes : Bytes) : withoutLast b bytes <+: bytes := by
  unfold withoutLast
  split
  next => exact List.dropLast_prefix bytes
  next => exact List.prefix_refl bytes

theorem withoutLast_append {b : UInt8} {front : Bytes} (hb : front.getLast? ≠ some b)
    (bytes : Bytes) : withoutLast b (front ++ bytes) = front ++ withoutLast b bytes := by
  by_cases hp : bytes = []
  · rw [hp, List.append_nil, withoutLast, if_neg hb]
    exact (List.append_nil front).symm
  · simp only [withoutLast, List.getLast?_append_of_ne_nil _ hp]
    split
    next => exact List.dropLast_append_of_ne_nil hp
    next => rfl

theorem lineOfPiece_append {front : Bytes} (hc : front.getLast? ≠ some carriageReturn)
    (piece : Bytes) : lineOfPiece (front ++ piece) = front ++ lineOfPiece piece :=
  withoutLast_append hc piece

/-- The lines of a text stay what they are after the front of a line, but that the first of them is
joined to it. -/
theorem joinLines_textLines_append {front : Bytes} (hne : front ≠ []) (hl : lineFeed ∉ front)
    (hc : front.getLast? ≠ some carriageReturn) (after : Bytes) :
    joinLines (textLines (front ++ after)) = front ++ joinLines (textLines after) := by
  by_cases ha : lineFeed ∈ after
  · obtain ⟨piece, rest, hpiece, rfl⟩ := exists_lines_of_mem ha
    have hfirst : lineFeed ∉ front ++ piece := by simp [hl, hpiece]
    rw [← List.append_assoc, textLines_cons hfirst, textLines_cons hpiece, joinLines_cons,
      joinLines_cons, lineOfPiece_append hc, List.append_assoc]
  · have hall : lineFeed ∉ front ++ after := by simp [hl, ha]
    rw [textLines_of_notMem hall, textLines_of_notMem ha,
      if_neg (List.append_ne_nil_of_left_ne_nil hne after)]
    by_cases hnil : after = []
    · simp [hnil, joinLines]
    · simp [hnil, joinLines]

theorem following_eq_joinLines {lines : List Bytes} (hne : lines ≠ []) :
    following lines = lineFeed :: joinLines lines := by
  obtain ⟨line, lines, rfl⟩ := List.exists_cons_of_ne_nil hne
  rw [following_cons, joinLines_cons]

theorem infix_of_mem_splitOn {piece text : Bytes} (h : piece ∈ text.splitOn lineFeed) :
    piece ++ [lineFeed] <:+: text ++ [lineFeed] := by
  induction hn : text.length using Nat.strongRecOn generalizing text with
  | ind n ih =>
    by_cases hl : lineFeed ∈ text
    · obtain ⟨first, rest, hfirst, rfl⟩ := exists_lines_of_mem hl
      rw [List.splitOn_append_cons_self, List.splitOn_eq_singleton hfirst, List.singleton_append,
        List.mem_cons] at h
      rcases h with rfl | h
      · exact ⟨[], rest ++ [lineFeed], by simp⟩
      · have hlt : rest.length < n := by
          rw [← hn, List.length_append, List.length_cons]
          omega
        obtain ⟨front, back, hrest⟩ := ih _ hlt h rfl
        exact ⟨first ++ lineFeed :: front, back, by simp [← hrest]⟩
    · rw [List.splitOn_eq_singleton hl, List.mem_singleton] at h
      subst h
      exact List.infix_refl _

/-- Where no carriage return stands before a line feed, the lines joined by line feeds are the
text. -/
theorem textLines_of_noCarriageReturn {text : Bytes}
    (h : ¬[carriageReturn, lineFeed] <:+: text ++ [lineFeed]) (after : Bytes) :
    textLines (text ++ lineFeed :: after) = text.splitOn lineFeed ++ textLines after := by
  have hpieces : ∀ piece ∈ text.splitOn lineFeed, lineOfPiece piece = piece := by
    intro piece hp
    apply if_neg
    intro hlast
    obtain ⟨front, rfl⟩ := List.getLast?_eq_some_iff.mp hlast
    have hend : [carriageReturn, lineFeed] <:+: (front ++ [carriageReturn]) ++ [lineFeed] :=
      ⟨front, [], by simp⟩
    exact h (hend.trans (infix_of_mem_splitOn hp))
  rw [textLines_append_lineFeed, List.map_congr_left hpieces, List.map_id']

theorem following_splitOn (text : Bytes) :
    following (text.splitOn lineFeed) = lineFeed :: text := by
  have hjoin : joinLines (text.splitOn lineFeed) = text := List.intercalate_splitOn lineFeed
  cases hs : text.splitOn lineFeed with
  | nil => exact absurd hs (List.splitOn_ne_nil _ _)
  | cons line lines =>
    rw [hs, joinLines_cons] at hjoin
    rw [following_cons, hjoin]

theorem following_append (before after : List Bytes) :
    following (before ++ after) = following before ++ following after :=
  List.flatMap_append

theorem count_lineFeed_following {lines : List Bytes} (h : ∀ line ∈ lines, lineFeed ∉ line) :
    (following lines).count lineFeed = lines.length := by
  induction lines with
  | nil => rfl
  | cons line lines ih =>
    rw [List.forall_mem_cons] at h
    rw [following_cons, List.count_cons_self, List.count_append, ih h.2,
      List.count_eq_zero_of_not_mem h.1, Nat.zero_add, List.length_cons]

theorem LineReader.lineFeed_notMem_linesLeft (reader : LineReader) :
    ∀ line ∈ reader.linesLeft, lineFeed ∉ line := by
  fun_induction linesLeft reader with
  | case1 reader line hline ih =>
    rw [List.forall_mem_cons]
    exact ⟨lineFeed_notMem_next hline, ih⟩
  | case2 => simp

theorem Source.bytes_ofBytes (text : Bytes) : Source.bytes (ofBytes text) = text := by
  cases text <;> simp [ofBytes, bytes]

theorem Source.failure?_ofBytes (text : Bytes) : Source.failure? (ofBytes text) = none := by
  cases text <;> rfl

/-- A reader of a script in memory, with this delimiter at the start. -/
def ScriptReader.ofScript (access : Access) (settings : Settings) (delimiter text : Bytes) :
    ScriptReader :=
  opened access (Source.ofBytes text) { settings with delimiter }

/-- The lines of a script, of which none is read through a buffer that holds no bytes. -/
def scriptLines (access : Access) (capacity : Nat) (text : Bytes) : List Bytes :=
  if access = .buffered ∧ capacity = 0 then [] else textLines text

theorem scriptLines_of_holds {access : Access} {capacity : Nat}
    (holds : access = .buffered → 1 ≤ capacity) (text : Bytes) :
    scriptLines access capacity text = textLines text := by
  apply if_neg
  rintro ⟨hbuffered, hnone⟩
  have hpos := holds hbuffered
  omega

section

variable (access : Access) (settings : Settings)

theorem Source.through_ofBytes (capacity : Nat) (text : Bytes) :
    Source.failure? (through access capacity (ofBytes text)) = none ∧
      textLines (Source.bytes (through access capacity (ofBytes text))) =
        scriptLines access capacity text := by
  by_cases hc : access = .buffered ∧ capacity = 0
  · obtain ⟨rfl, rfl⟩ := hc
    exact ⟨rfl, rfl⟩
  · have hsame : Source.bytes (through access capacity (ofBytes text)) =
          Source.bytes (ofBytes text) ∧
        Source.failure? (through access capacity (ofBytes text)) =
          Source.failure? (ofBytes text) := by
      cases access with
      | direct => exact ⟨rfl, rfl⟩
      | buffered => exact through_same .buffered (by simpa using hc) _
    rw [hsame.1, hsame.2, bytes_ofBytes, scriptLines, if_neg hc]
    exact ⟨failure?_ofBytes text, rfl⟩

theorem scriptLines_append {before : Bytes} (capacity : Nat)
    (ends : before = [] ∨ before.getLast? = some lineFeed) (after : Bytes) :
    scriptLines access capacity (before ++ after) =
      scriptLines access capacity before ++ scriptLines access capacity after := by
  unfold scriptLines
  split
  · rfl
  · exact textLines_append ends after

namespace ScriptReader

theorem ofScript_sound (delimiter text : Bytes) :
    (ofScript access settings delimiter text).Sound :=
  opened_sound access _ _

theorem ofScript_ready (delimiter text : Bytes) :
    (ofScript access settings delimiter text).ready = none :=
  opened_ready access _ _

theorem ofScript_escape (delimiter text : Bytes) :
    (ofScript access settings delimiter text).escape = settings.escape := rfl

theorem ofScript_delimiter (delimiter text : Bytes) :
    (ofScript access settings delimiter text).delimiter = delimiter :=
  opened_delimiter access _ _

theorem ofScript_linesLeft (delimiter text : Bytes) :
    (ofScript access settings delimiter text).lines.linesLeft =
      scriptLines access settings.capacity text := by
  rw [ofScript, opened, ← (Source.through_ofBytes access settings.capacity text).2]
  exact LineReader.linesLeft_reading _ 0

theorem ofScript_failure (delimiter text : Bytes) :
    (ofScript access settings delimiter text).outcome.failure = none := by
  rw [outcome_failure, ofScript, opened]
  have hnone := (Source.through_ofBytes access settings.capacity text).1
  exact congrArg (Option.map Failure.unread) hnone

theorem ofScript_drain (delimiter text : Bytes) :
    (ofScript access settings delimiter text).drain.1 =
      onePass (usableEscape settings.escape) 0 (usableDelimiter delimiter)
        (following (scriptLines access settings.capacity text)) := by
  rw [← ofScript_linesLeft access settings delimiter]
  exact opened_drain access _ _

theorem ofScript_last_delimiter {f : Bytes → Bytes}
    (parsed : ∀ line delimiter, lineFeed ∉ line → newDelimiter? line = some delimiter →
      f delimiter = delimiter) (delimiter text : Bytes) :
    f (ofScript access settings delimiter text).drain.2.delimiter =
      delimiterAfter (f delimiter) (ofScript access settings delimiter text).drain.1 := by
  have hlast := (ofScript_sound access settings delimiter text).delimiter_drain parsed
    (ofScript_ready access settings delimiter text)
  rwa [ofScript_delimiter] at hlast

theorem ofScript_remainder (delimiter text : Bytes) :
    (ofScript access settings delimiter text).remainder? =
      unended? (usableEscape settings.escape) (usableDelimiter delimiter)
        (ofScript access settings delimiter text).drain.1 := by
  rw [remainder?, ofScript_last_delimiter access settings usableDelimiter_of_parsed,
    ofScript_escape]
  rfl

theorem ofScript_drain_append {before : Bytes}
    (ends : before = [] ∨ before.getLast? = some lineFeed) (delimiter after : Bytes) :
    (ofScript access settings delimiter (before ++ after)).drain.1 =
      continued (usableEscape settings.escape) (scriptLines access settings.capacity before).length
        (usableDelimiter delimiter) (ofScript access settings delimiter before).drain.1
        (following (scriptLines access settings.capacity after)) := by
  have hcount : (following (scriptLines access settings.capacity before)).count lineFeed =
      (scriptLines access settings.capacity before).length := by
    rw [← ofScript_linesLeft access settings delimiter]
    exact count_lineFeed_following (LineReader.lineFeed_notMem_linesLeft _)
  rw [ofScript_drain, ofScript_drain, scriptLines_append access _ ends, following_append,
    onePass_append (lineFeed_notMem_usableDelimiter delimiter) (following_atLineEnd _), hcount,
    Nat.zero_add]

end ScriptReader

end

theorem delimiterAfter_completed {reader : ScriptReader} (sound : reader.Sound)
    (fresh : reader.ready = none) :
    delimiterAfter reader.delimiter reader.completed = reader.drain.2.delimiter := by
  have hlast := sound.delimiter_drain (f := id) (fun _ _ _ _ => rfl) fresh
  rw [id_eq, id_eq, ← reader.completed_append_remainder, delimiterAfter_append] at hlast
  rw [hlast]
  cases hr : reader.remainder? with
  | none => rfl
  | some statement =>
    have hunended := (Option.filter_eq_some_iff.mp hr).2
    exact (Statement.delimiterAfter_of_isUnended hunended).symm

/-- Every statement of some lines stands on one of them. -/
theorem one_le_firstLine {escape : Option UInt8} {delimiter : Bytes} {lines : List Bytes}
    {statement : Statement} (h : statement ∈ onePass escape 0 delimiter (following lines)) :
    1 ≤ statement.firstLine := by
  cases lines with
  | nil => simp [following, onePass] at h
  | cons line lines =>
    rw [following_cons, onePass_lineFeed, onePass_onLater] at h
    obtain ⟨earlier, _, rfl⟩ := List.mem_map.mp h
    exact Nat.le_add_left 1 _

namespace ScriptReader

section

variable (access : Access) (settings : Settings) (delimiter : Bytes) {before : Bytes}

theorem ofScript_outcome (text : Bytes) :
    (ofScript access settings delimiter text).outcome =
      ⟨(ofScript access settings delimiter text).drain.1, none⟩ := by
  rw [← ofScript_failure access settings delimiter text]
  rfl

/-- A script that can be read is split in one pass over its lines. -/
theorem ofScript_outcome_of_holds (holds : access = .buffered → 1 ≤ settings.capacity)
    (text : Bytes) :
    (ofScript access settings delimiter text).outcome =
      ⟨onePass (usableEscape settings.escape) 1 (usableDelimiter delimiter)
        (joinLines (textLines text)), none⟩ := by
  rw [ofScript_outcome, ofScript_drain, scriptLines_of_holds holds, onePass_following]

theorem ofScript_delimiter_restart {text later : Bytes} {lines : Nat}
    (h : (ofScript access settings delimiter text).drain.1 =
      (ofScript access settings delimiter before).completed ++
        (ofScript access settings (ofScript access settings delimiter before).drain.2.delimiter
          later).drain.1.map (Statement.onLater lines)) :
    (ofScript access settings delimiter text).drain.2.delimiter =
      (ofScript access settings (ofScript access settings delimiter before).drain.2.delimiter
        later).drain.2.delimiter := by
  have hlast : ∀ start text, (ofScript access settings start text).drain.2.delimiter =
      delimiterAfter start (ofScript access settings start text).drain.1 :=
    ofScript_last_delimiter access settings (f := id) fun _ _ _ _ => rfl
  have hcompleted := delimiterAfter_completed (ofScript_sound access settings delimiter before)
    (ofScript_ready access settings delimiter before)
  rw [ofScript_delimiter] at hcompleted
  rw [hlast delimiter text, h, delimiterAfter_append, delimiterAfter_onLater, hcompleted, ← hlast]

/-- Nothing is left of the first part: the second is split for itself. -/
theorem ofScript_drain_of_none (ends : before = [] ∨ before.getLast? = some lineFeed)
    (after : Bytes) (h : (ofScript access settings delimiter before).remainder? = none) :
    (ofScript access settings delimiter (before ++ after)).drain.1 =
      (ofScript access settings delimiter before).completed ++
        (ofScript access settings (ofScript access settings delimiter before).drain.2.delimiter
          after).drain.1.map (Statement.onLater (textLines before).length) := by
  have hlast := ofScript_last_delimiter access settings usableDelimiter_of_parsed delimiter before
  have hunended := h
  rw [ofScript_remainder] at hunended
  rw [ofScript_drain_append access settings ends, continued, hunended, completed, h,
    ofScript_drain _ _ _ after, hlast, ← onePass_onLater, Nat.zero_add]
  by_cases hc : access = .buffered ∧ settings.capacity = 0
  · simp [scriptLines, hc, following, onePass]
  · rw [scriptLines, if_neg hc]
    rfl

/-- The remainder of the first part is split again, with the second part after it. -/
theorem ofScript_drain_of_some (ends : before = [] ∨ before.getLast? = some lineFeed)
    (after : Bytes) {remainder : Statement}
    (h : (ofScript access settings delimiter before).remainder? = some remainder)
    (plain : ¬[carriageReturn, lineFeed] <:+: remainder.bytes ++ [lineFeed]) :
    (ofScript access settings delimiter (before ++ after)).drain.1 =
      (ofScript access settings delimiter before).completed ++
        (ofScript access settings (ofScript access settings delimiter before).drain.2.delimiter
          (remainder.bytes ++ lineFeed :: after)).drain.1.map
            (Statement.onLater (remainder.firstLine - 1)) := by
  have hlast := ofScript_last_delimiter access settings usableDelimiter_of_parsed delimiter before
  have hunended := h
  rw [ofScript_remainder] at hunended
  have hmem := List.mem_of_getLast? (Option.filter_eq_some_iff.mp h).1
  have hc : ¬(access = .buffered ∧ settings.capacity = 0) := by
    intro hc
    simp [ofScript_drain, scriptLines, hc, following, onePass] at hmem
  rw [ofScript_drain] at hmem
  have hfirst : 1 + (remainder.firstLine - 1) = remainder.firstLine := by
    have := one_le_firstLine hmem
    omega
  have hlines : following
        (scriptLines access settings.capacity (remainder.bytes ++ lineFeed :: after)) =
      lineFeed :: (remainder.bytes ++ following (scriptLines access settings.capacity after)) := by
    rw [scriptLines, scriptLines, if_neg hc, if_neg hc, textLines_of_noCarriageReturn plain,
      following_append, following_splitOn, List.cons_append]
  rw [ofScript_drain_append access settings ends, continued, hunended, completed, h,
    ofScript_drain _ _ _ (remainder.bytes ++ lineFeed :: after), hlast, hlines, onePass_lineFeed,
    ← onePass_onLater, Nat.zero_add, hfirst]
  rfl

end

end ScriptReader

/-- A script that goes on after a line end is split anew from its last statement with an end of its
own. -/
theorem drain_append (access : Access) (settings : Settings) {before : Bytes}
    (ends : before = [] ∨ before.getLast? = some lineFeed) (after : Bytes) :
    let script := ScriptReader.ofScript access settings
    let first := script settings.delimiter before
    let whole := script settings.delimiter (before ++ after)
    let next := first.drain.2.delimiter
    (first.remainder? = none →
      let fresh := script next after
      whole.outcome = ⟨first.completed ++
        fresh.outcome.statements.map (Statement.onLater (textLines before).length), none⟩ ∧
      whole.drain.2.delimiter = fresh.drain.2.delimiter) ∧
    (∀ remainder, first.remainder? = some remainder →
      ¬[carriageReturn, lineFeed] <:+: remainder.bytes ++ [lineFeed] →
      let resumed := script next (remainder.bytes ++ lineFeed :: after)
      whole.outcome = ⟨first.completed ++
        resumed.outcome.statements.map (Statement.onLater (remainder.firstLine - 1)), none⟩ ∧
      whole.drain.2.delimiter = resumed.drain.2.delimiter) ∧
    first.completed <+: whole.outcome.statements := by
  intro script first whole next
  refine ⟨?_, ?_, ?_⟩
  · intro h fresh
    have hdrain := ScriptReader.ofScript_drain_of_none access settings _ ends after h
    refine ⟨?_, ScriptReader.ofScript_delimiter_restart access settings _ hdrain⟩
    rw [ScriptReader.ofScript_outcome, hdrain]
    rfl
  · intro remainder h plain resumed
    have hdrain := ScriptReader.ofScript_drain_of_some access settings _ ends after h plain
    refine ⟨?_, ScriptReader.ofScript_delimiter_restart access settings _ hdrain⟩
    rw [ScriptReader.ofScript_outcome, hdrain]
    rfl
  · change first.completed <+: whole.drain.1
    have hunended : first.remainder? = _ := ScriptReader.ofScript_remainder access settings _ before
    rw [ScriptReader.ofScript_drain_append access settings ends, continued, ← hunended,
      ScriptReader.completed]
    cases hr : first.remainder? <;> exact List.prefix_append _ _

/-- A remainder that starts in the middle of a line and goes on in a quote. -/
theorem drain_append_in_quote :
    let before := Bytes.ofText "delimiter $\na$b\n'c\n"
    let after := Bytes.ofText "';$d"
    let script := ScriptReader.ofScript .buffered default
    let first := script [59] before
    let remainder : Statement := ⟨Bytes.ofText "b\n'c", 2, 3, .sql⟩
    (before = [] ∨ before.getLast? = some lineFeed) ∧ first.remainder? = some remainder ∧
      ¬[carriageReturn, lineFeed] <:+: remainder.bytes ++ [lineFeed] ∧
      (script [59] (before ++ after)).outcome = ⟨first.completed ++
        (script first.drain.2.delimiter
          (remainder.bytes ++ lineFeed :: after)).outcome.statements.map
            (Statement.onLater 1), none⟩ := by
  intro before after script first remainder
  have ends : before = [] ∨ before.getLast? = some lineFeed := .inr (by decide)
  have left : first.remainder? = some remainder := by decide +kernel
  have plain : ¬[carriageReturn, lineFeed] <:+: remainder.bytes ++ [lineFeed] := by decide
  obtain ⟨_, resumed, _⟩ := drain_append .buffered default ends after
  exact ⟨ends, left, plain, (resumed remainder left plain).1⟩

end SqlScript

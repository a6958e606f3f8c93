import SqlScript.Proofs.LineNumbers
import SqlScript.Proofs.Opacity

namespace SqlScript

/-- The bytes that can end a line. -/
def lineEnds : List Bytes := [[lineFeed], [carriageReturn, lineFeed]]

/-- How lines are written as a script: each with either line end, the last one, if it has bytes,
also without. -/
inductive WrittenAs : List Bytes → Bytes → Prop
  | nil : WrittenAs [] []
  | unended {line : Bytes} (bytes : line ≠ []) : WrittenAs [line] line
  | ended {line lineEnd text : Bytes} {lines : List Bytes} (ends : lineEnd ∈ lineEnds) :
      WrittenAs lines text → WrittenAs (line :: lines) (line ++ (lineEnd ++ text))

/-- The lines of a script are those that it was written from, whichever line ends it was written
with. -/
theorem WrittenAs.textLines_eq {lines : List Bytes} {text : Bytes} (h : WrittenAs lines text)
    (plain : ∀ line ∈ lines, lineFeed ∉ line ∧ line.getLast? ≠ some carriageReturn) :
    textLines text = lines := by
  induction h with
  | nil => rfl
  | @unended line bytes =>
    have hline := (plain line List.mem_cons_self).1
    rw [textLines_of_notMem hline, if_neg bytes]
  | @ended line lineEnd text lines ends h ih =>
    rw [List.forall_mem_cons] at plain
    obtain ⟨⟨hline, hlast⟩, hlines⟩ := plain
    simp only [lineEnds, List.mem_cons, List.not_mem_nil, or_false] at ends
    rcases ends with rfl | rfl
    · rw [List.singleton_append, textLines_cons hline, ih hlines, lineOfPiece, if_neg hlast]
    · have hpiece : lineFeed ∉ line ++ [carriageReturn] := by
        have hne : lineFeed ≠ carriageReturn := by decide
        simp [hline, hne]
      rw [List.cons_append, ← List.singleton_append, ← List.append_assoc, List.singleton_append,
        textLines_cons hpiece, ih hlines, lineOfPiece, List.getLast?_concat, if_pos rfl,
        List.dropLast_concat]

/-- A directive goes up to the end of its line. -/
theorem onePass_directive_atLineEnd {escape : Option UInt8} {number : Nat}
    {delimiter text : Bytes} {statement : Statement}
    (h : statement ∈ onePass escape number delimiter text) (hk : statement.kind = .directive) :
    ∃ front after, text = front ++ (statement.bytes ++ after) ∧ AtLineEnd after := by
  fun_induction onePass escape number delimiter text with
  | case1 => simp at h
  | case2 number delimiter rest ih =>
    obtain ⟨front, after, rfl, ht⟩ := ih h
    exact ⟨lineFeed :: front, after, rfl, ht⟩
  | case3 number delimiter b rest hb first next hn ih =>
    obtain ⟨line, after, rfl, hl, ht⟩ := exists_line rest
    rw [ht.dropWhile hl] at h ih
    have hfirst : first = b :: line := congrArg (b :: ·) (ht.takeWhile hl)
    rcases List.mem_cons.mp h with rfl | h
    · exact ⟨[], after, by simp [hfirst], ht⟩
    · obtain ⟨front, after', rfl, ht'⟩ := ih h
      exact ⟨b :: line ++ front, after', by simp, ht'⟩
  | case4 number delimiter b rest hb first hn hcut =>
    rw [List.mem_singleton] at h
    simp [h] at hk
  | case5 number delimiter b rest hb first hn cut after hcut last ih =>
    rcases List.mem_cons.mp h with rfl | h
    · simp at hk
    · obtain ⟨front, after', rfl, ht⟩ := ih h
      exact ⟨cut ++ front, after', by simp [(cutText_eq_some hcut).1], ht⟩

/-- What goes up to the end of a line is the end of one of the lines. -/
theorem exists_line_of_following {lines : List Bytes} {front bytes after : Bytes}
    (hl : ∀ line ∈ lines, lineFeed ∉ line) (hne : bytes ≠ []) (hb : lineFeed ∉ bytes)
    (ht : AtLineEnd after) (h : following lines = front ++ (bytes ++ after)) :
    ∃ line ∈ lines, bytes <:+ line := by
  induction lines generalizing front with
  | nil => simp [following, hne] at h
  | cons line lines ih =>
    rw [List.forall_mem_cons] at hl
    rw [following_cons] at h
    cases front with
    | nil =>
      obtain ⟨b, rest, rfl⟩ := List.exists_cons_of_ne_nil hne
      rw [List.nil_append, List.cons_append] at h
      exact absurd ((List.cons.inj h).1 ▸ List.mem_cons_self) hb
    | cons b front =>
      rw [List.cons_append] at h
      rcases List.append_eq_append_iff.mp (List.cons.inj h).2 with
        ⟨more, _, hmore⟩ | ⟨more, hline, hmore⟩
      · obtain ⟨found, hf, hs⟩ := ih hl.2 hmore
        exact ⟨found, List.mem_cons_of_mem _ hf, hs⟩
      · -- the bytes and the rest of the line both go up to the first line feed
        have hfree : lineFeed ∉ more := fun hm => hl.1 (hline ▸ List.mem_append_right _ hm)
        have heq := ht.takeWhile hb
        rw [hmore, (following_atLineEnd lines).takeWhile hfree] at heq
        exact ⟨line, List.mem_cons_self, hline ▸ heq ▸ List.suffix_append _ _⟩

section

variable (access : Access) (settings : Settings) (delimiter : Bytes) {lines : List Bytes}

theorem ScriptReader.ofScript_drain_congr {one two : Bytes}
    (same : scriptLines access settings.capacity one = scriptLines access settings.capacity two) :
    (ofScript access settings delimiter one).drain.1 =
      (ofScript access settings delimiter two).drain.1 := by
  rw [ofScript_drain, ofScript_drain, same]

/-- The delimiter that a directive sets is the end of a line. -/
theorem ScriptReader.ofScript_directive_suffix {text : Bytes} {statement : Statement}
    (h : statement ∈ (ofScript access settings delimiter text).drain.1)
    (hk : statement.kind = .directive) :
    ∃ line ∈ scriptLines access settings.capacity text,
      ∃ next, newDelimiter? statement.bytes = some next ∧ next <:+ line := by
  obtain ⟨index, hi⟩ := List.mem_iff_getElem?.mp h
  obtain ⟨-, hformed, -, -⟩ := opened_formed access _ { settings with delimiter } hi
  have hdirective : statement.isDirective = true := by simp [Statement.isDirective, hk]
  obtain ⟨next, hnext⟩ := Option.isSome_iff_exists.mp (hformed.parsed hdirective)
  rw [ofScript_drain] at h
  obtain ⟨front, after, htext, ht⟩ := onePass_directive_atLineEnd h hk
  have hfree : ∀ line ∈ scriptLines access settings.capacity text, lineFeed ∉ line := by
    rw [← ofScript_linesLeft access settings delimiter]
    exact LineReader.lineFeed_notMem_linesLeft _
  obtain ⟨line, hline, hsuffix⟩ :=
    exists_line_of_following hfree hformed.bytes_ne_nil (hformed.oneLine hk) ht htext
  exact ⟨line, hline, next, hnext, (newDelimiter?_suffix hnext).trans hsuffix⟩

/-- Scripts written from the same lines with any line ends are split into the same statements by the
same delimiters. -/
theorem line_ends_are_alike {one two : Bytes}
    (plain : ∀ line ∈ lines, lineFeed ∉ line ∧ line.getLast? ≠ some carriageReturn)
    (first : WrittenAs lines one) (second : WrittenAs lines two) :
    let script := ScriptReader.ofScript access settings delimiter
    let all := (script one).outcome.statements
    (script one).outcome = (script two).outcome ∧
      (∀ count, ((script one).nextUpTo count).2.delimiter =
        ((script two).nextUpTo count).2.delimiter) ∧
      (∀ statement ∈ all, statement.kind = .directive → ∃ line ∈ lines,
        ∃ next, newDelimiter? statement.bytes = some next ∧ next <:+ line) ∧
      ((access = .buffered → 1 ≤ settings.capacity) →
        Covers lines (all.flatMap Statement.pieces)) := by
  intro script all
  have hlines : ∀ {text}, WrittenAs lines text → scriptLines access settings.capacity text =
      if access = .buffered ∧ settings.capacity = 0 then [] else lines := by
    intro text written
    rw [scriptLines, written.textLines_eq plain]
  have hsame : (script one).outcome = (script two).outcome := by
    rw [ScriptReader.ofScript_outcome, ScriptReader.ofScript_outcome,
      ScriptReader.ofScript_drain_congr access settings delimiter
        ((hlines first).trans (hlines second).symm)]
  refine ⟨hsame, fun count => ?_, fun statement hm hk => ?_, fun holds => ?_⟩
  · rw [ScriptReader.ofScript_delimiter_nextUpTo, ScriptReader.ofScript_delimiter_nextUpTo, hsame]
  · obtain ⟨line, hline, hnext⟩ :=
      ScriptReader.ofScript_directive_suffix access settings delimiter hm hk
    rw [hlines first] at hline
    split at hline
    next => simp at hline
    next => exact ⟨line, hline, hnext⟩
  · have hcovers := ScriptReader.opened_covers access (Source.ofBytes one)
      { settings with delimiter }
    have hleft : (script one).lines.linesLeft = lines := by
      rw [ScriptReader.ofScript_linesLeft, scriptLines_of_holds holds, first.textLines_eq plain]
    rwa [← hleft]

/-- Line ends after a directive, after an escape in a quote, after a comment and at the end. -/
theorem line_ends_are_alike_in_quote :
    let lines := [Bytes.ofText "delimiter $$", Bytes.ofText "'a\\", [], Bytes.ofText "'b' --$$",
      Bytes.ofText "c$$"]
    let one := Bytes.ofText "delimiter $$\n'a\\\n\n'b' --$$\nc$$"
    let two := Bytes.ofText "delimiter $$\r\n'a\\\r\n\n'b' --$$\r\nc$$\r\n"
    let script := ScriptReader.ofScript .buffered default [59]
    (∀ line ∈ lines, lineFeed ∉ line ∧ line.getLast? ≠ some carriageReturn) ∧
      WrittenAs lines one ∧ WrittenAs lines two ∧ (script one).outcome = (script two).outcome := by
  intro lines one two script
  have plain : ∀ line ∈ lines, lineFeed ∉ line ∧ line.getLast? ≠ some carriageReturn := by decide
  have short : [lineFeed] ∈ lineEnds := by decide
  have long : [carriageReturn, lineFeed] ∈ lineEnds := by decide
  have first : WrittenAs lines one :=
    .ended short (.ended short (.ended short (.ended short (.unended (by decide)))))
  have second : WrittenAs lines two :=
    .ended long (.ended long (.ended short (.ended long (.ended long .nil))))
  obtain ⟨same, _⟩ := line_ends_are_alike .buffered default [59] plain first second
  exact ⟨plain, first, second, same⟩

end

end SqlScript

import SqlScript.Proofs.History
import SqlScript.Proofs.Places
import SqlScript.Proofs.Restart

namespace SqlScript

/-- Whether a content, where it stands in this, ends nothing and escapes nothing. -/
inductive TextContext.Hides (escape : UInt8) : TextContext → Bytes → Prop
  | quoted {quote : Quote} {content : Bytes} (own : quote.byte ∉ content)
      (foreign : escape ∉ content) : Hides escape (.quoted quote false) content
  | blockComment {content : Bytes} (noStar : star ∉ content) : Hides escape .blockComment content
  | lineComment {content : Bytes} : Hides escape .lineComment content

theorem TextContext.Hides.ne_code {escape : UInt8} {place : TextContext} {content : Bytes}
    (h : Hides escape place content) : place ≠ .code := by
  cases h <;> simp

/-- What is hidden is passed over. -/
theorem TextContext.Hides.cutText_hidden {escape : UInt8} {place : TextContext} {content : Bytes}
    (h : Hides escape place content) (oneLine : lineFeed ∉ content) (delimiter rest : Bytes) :
    cutText (usableEscape escape) delimiter place (content ++ rest) =
      keep content (cutText (usableEscape escape) delimiter place rest) := by
  refine cutText_content (fun b hm rest => ?_) rest
  cases h with
  | quoted own foreign =>
    have he : usableEscape escape ≠ some b := fun h => foreign (usableEscape_eq_some h ▸ hm)
    exact cutText_quoteStays he (fun hq => own (hq ▸ hm)) rest
  | blockComment noStar => exact cutText_comment fun _ hb => absurd (hb ▸ hm) noStar
  | lineComment =>
    have hb : b ≠ lineFeed := fun hb => oneLine (hb ▸ hm)
    rw [cutText, if_neg hb]

/-- The last line of a text stands after a line end, if it is not all of the text. -/
theorem exists_lastLine (text : Bytes) :
    ∃ before line, text = before ++ line ∧ lineFeed ∉ line ∧
      (before = [] ∨ before.getLast? = some lineFeed) := by
  obtain ⟨line, after, hreverse, hl, ht⟩ := exists_line text.reverse
  refine ⟨after.reverse, line.reverse, ?_, by simpa using hl, ?_⟩
  · have := congrArg List.reverse hreverse
    simpa using this
  · rcases ht with rfl | ⟨after, rfl⟩
    · exact .inl rfl
    · exact .inr (by simp)

/-- What is read of a script before a content in the middle of a line does not depend on the
content. -/
theorem exists_textBefore (access : Access) (capacity : Nat) (front back : Bytes) :
    ∃ before, ∀ content, content ≠ [] → lineFeed ∉ content → carriageReturn ∉ content →
      following (scriptLines access capacity (front ++ content ++ back)) ≠ [] →
      following (scriptLines access capacity (front ++ content ++ back)) =
        before ++ (content ++ joinLines (textLines back)) := by
  obtain ⟨lines, line, rfl, hl, ends⟩ := exists_lastLine front
  refine ⟨following (textLines lines) ++ lineFeed :: line, fun content hne hlf hcr hsome => ?_⟩
  unfold scriptLines at hsome ⊢
  split
  next hc => simp [hc, following] at hsome
  next hc =>
    have hlast : (line ++ content).getLast? ≠ some carriageReturn := by
      rw [List.getLast?_append_of_ne_nil _ hne]
      exact fun hcl => hcr (List.mem_of_getLast? hcl)
    have hjoin := joinLines_textLines_append (List.append_ne_nil_of_right_ne_nil line hne)
      (by simp [hl, hlf]) hlast back
    have hlines : textLines (line ++ content ++ back) ≠ [] := by
      intro hnil
      rw [hnil] at hjoin
      simp [joinLines, hne] at hjoin
    have hsplit : lines ++ line ++ content ++ back = lines ++ (line ++ content ++ back) := by
      simp
    rw [hsplit, textLines_append ends, following_append, following_eq_joinLines hlines, hjoin]
    simp

/-- Where a text is cut after a content in it, the content stands in the first statement. -/
theorem statementsOfCut_content (escape : Option UInt8) (delimiter : Bytes) (place : TextContext)
    (bytes left : Bytes) (first : Nat) :
    ∃ rest last later, rest <+: left ∧ ∀ content, lineFeed ∉ content →
      statementsOfCut escape delimiter first (bytes ++ (content ++ left))
          (keep bytes (keep content (cutText escape delimiter place left))) =
        ⟨bytes ++ (content ++ rest), first, last, .sql⟩ :: later := by
  cases hcut : cutText escape delimiter place left with
  | none =>
    refine ⟨left, first + (bytes ++ left).count lineFeed, [], List.prefix_refl _,
      fun content h => ?_⟩
    simp [statementsOfCut, List.count_eq_zero_of_not_mem h]
  | some found =>
    obtain ⟨cut, after⟩ := found
    refine ⟨cut, first + (bytes ++ cut).count lineFeed,
      onePass escape (first + (bytes ++ cut).count lineFeed) delimiter after,
      ⟨after, (cutText_eq_some hcut).1.symm⟩, fun content h => ?_⟩
    simp [statementsOfCut, List.count_eq_zero_of_not_mem h]

/-- All of a statement but its bytes, of which only the number is left. -/
def Statement.shape (statement : Statement) : Nat × Nat × Nat × StatementKind :=
  (statement.length, statement.firstLine, statement.lastLine, statement.kind)

/-- Statements that set the same delimiters one by one leave the same after so many of them. -/
theorem delimiterAfter_take_congr {statements others : List Statement}
    (h : statements.map (fun statement delimiter => statement.delimiterAfter delimiter) =
      others.map fun statement delimiter => statement.delimiterAfter delimiter)
    (delimiter : Bytes) (count : Nat) :
    delimiterAfter delimiter (statements.take count) =
      delimiterAfter delimiter (others.take count) := by
  have hset : ∀ statements : List Statement, delimiterAfter delimiter (statements.take count) =
      ((statements.map fun statement delimiter => statement.delimiterAfter delimiter).take
        count).foldl (fun current set => set current) delimiter := by
    intro statements
    rw [← List.map_take, List.foldl_map]
    rfl
  rw [hset, hset, h]

namespace ScriptReader

theorem kept_done (delimiter : Bytes) :
    Kept fun reader => reader.Done ∧ reader.delimiter = delimiter where
  step reader _ h := by
    rw [h.1.2]
    exact h
  taken reader h := by rwa [taken_of_fresh h.1.1]
  asked reader hd h := ⟨hd.askFailure, reader.askFailure_delimiter.trans h.2⟩

/-- After so many items the delimiter in force is the one that so many statements leave. -/
theorem Sound.delimiter_nextUpTo {reader : ScriptReader} (sound : reader.Sound)
    (fresh : reader.ready = none) (count : Nat) :
    (reader.nextUpTo count).2.delimiter =
      delimiterAfter reader.delimiter (reader.drain.1.take count) := by
  have hparsed : ∀ line delimiter, lineFeed ∉ line → newDelimiter? line = some delimiter →
      id delimiter = delimiter := fun _ _ _ _ => rfl
  induction count generalizing reader with
  | zero => rfl
  | succ count ih =>
    have hdrain := reader.drain_advance
    have reached : Reaches reader [] reader.advance.2 := Reaches.start.advance
    rcases reader.next_cases with ⟨next, statement, ha, hr, hn⟩ | ⟨next, ha, hd, hn⟩
    · rw [ha] at hdrain reached
      have htaken : Reaches reader [statement] { next with ready := none } := by
        simpa [hr] using reached.take
      have hset : { next with ready := none }.delimiter = _ :=
        htaken.delimiter hparsed sound fresh
      rw [← hdrain, drain_of_ready hr]
      simp only [nextUpTo, hn]
      rw [ih (htaken.sound sound) rfl, hset, List.take_succ_cons]
      rfl
    · rw [ha] at hdrain reached
      have hset := reached.delimiter hparsed sound fresh
      rw [hd.1, Option.toList_none, List.append_nil] at hset
      have hasked := (kept_done reader.delimiter).asked next hd ⟨hd, hset⟩
      have hcount := (kept_done reader.delimiter).nextUpTo hasked count
      rw [← hdrain, hd.drain, List.take_nil]
      cases hq : next.askFailure.1 with
      | none => simpa [nextUpTo, hn, hq, delimiterAfter] using hasked.2
      | some failure => simpa [nextUpTo, hn, hq, delimiterAfter] using hcount.2

end ScriptReader

section

variable (access : Access) (settings : Settings) (delimiter : Bytes)

theorem ScriptReader.ofScript_leftText (text : Bytes) :
    (ofScript access settings delimiter text).leftText =
      following (scriptLines access settings.capacity text) := by
  rw [← ofScript_linesLeft access settings delimiter]
  exact leftText_of_none rfl

/-- What a script determines of the start of its reader is the text that is left. -/
theorem ScriptReader.ofScript_onePassOf (text text' : Bytes) :
    (ofScript access settings delimiter text).onePassOf =
      (ofScript access settings delimiter text').onePassOf := rfl

theorem ScriptReader.ofScript_held (text : Bytes) :
    Held settings.escape (ofScript access settings delimiter text) :=
  opened_held access _ { settings with delimiter }

theorem ScriptReader.ofScript_idle (text : Bytes) :
    (ofScript access settings delimiter text).draft.scanned = [] := rfl

theorem ScriptReader.ofScript_delimiter_nextUpTo (text : Bytes) (count : Nat) :
    ((ofScript access settings delimiter text).nextUpTo count).2.delimiter =
      delimiterAfter delimiter
        ((ofScript access settings delimiter text).outcome.statements.take count) := by
  rw [(ofScript_sound access settings delimiter text).delimiter_nextUpTo
    (ofScript_ready access settings delimiter text), ofScript_delimiter]
  rfl

variable {access settings delimiter} {place : TextContext} {content left text : Bytes}

/-- What a script with a hidden content is split into, by the text before the content and the text
after it. -/
theorem ScriptReader.Meets.outcome_hidden (hides : place.Hides settings.escape content)
    (oneLine : lineFeed ∉ content)
    (meets : (ofScript access settings delimiter text).Meets place (content ++ left)) :
    let reader := ofScript access settings delimiter text
    ∃ before earlier bytes first, reader.leftText = before ++ (content ++ left) ∧
      bytes <:+ before ∧
      reader.onePassOf before =
        earlier ++ [⟨bytes, first, first + bytes.count lineFeed, .sql⟩] ∧
      reader.outcome = ⟨earlier ++
        statementsOfCut (usableEscape settings.escape)
          (delimiterAfter (usableDelimiter delimiter) earlier) first (bytes ++ (content ++ left))
          (keep bytes (keep content (cutText (usableEscape settings.escape)
            (delimiterAfter (usableDelimiter delimiter) earlier) place left))), none⟩ := by
  intro reader
  have sound : reader.Sound := ofScript_sound access settings delimiter text
  have fresh : reader.ready = none := ofScript_ready access settings delimiter text
  have hstart : reader.delimiter = delimiter := ofScript_delimiter access settings delimiter text
  have houtcome : reader.outcome = ⟨reader.drain.1, none⟩ :=
    ofScript_outcome access settings delimiter text
  obtain ⟨before, earlier, bytes, first, hleft, hbytes, hbefore, hall⟩ :=
    meets.begun (ofScript_held ..) (ofScript_idle ..) hides.ne_code
  rw [hides.cutText_hidden oneLine, hstart] at hall
  refine ⟨before, earlier, bytes, first, hleft, hbytes, hbefore, ?_⟩
  rw [houtcome, sound.drain_eq_onePassLeft fresh]
  exact congrArg (Outcome.mk · none) hall

end

/-- Of two contents of the same length, one in place of the other, the text before them is the
same. -/
theorem ScriptReader.before_eq {access : Access} {settings : Settings}
    {delimiter front back content other before before' : Bytes}
    (length : content.length = other.length)
    (plain : lineFeed ∉ content ∧ carriageReturn ∉ content)
    (plain' : lineFeed ∉ other ∧ carriageReturn ∉ other)
    (left : (ofScript access settings delimiter (front ++ content ++ back)).leftText =
      before ++ (content ++ joinLines (textLines back)))
    (left' : (ofScript access settings delimiter (front ++ other ++ back)).leftText =
      before' ++ (other ++ joinLines (textLines back))) : before = before' := by
  by_cases hne : content = []
  · subst hne
    obtain rfl : other = [] := List.length_eq_zero_iff.mp length.symm
    exact List.append_cancel_right (left.symm.trans left')
  · have hne' : other ≠ [] := by
      rintro rfl
      exact hne (List.length_eq_zero_iff.mp length)
    rw [ofScript_leftText] at left left'
    obtain ⟨shared, hshared⟩ := exists_textBefore access settings.capacity front back
    have hone := hshared content hne plain.1 plain.2 (by rw [left]; simp [hne])
    have htwo := hshared other hne' plain'.1 plain'.2 (by rw [left']; simp [hne'])
    rw [List.append_cancel_right (left.symm.trans hone),
      List.append_cancel_right (left'.symm.trans htwo)]

/-- Another content of the same length in a quote or a comment changes only its own bytes of one
statement. -/
theorem hidden_content_is_opaque (access : Access) (settings : Settings)
    {delimiter front back content other : Bytes} {place : TextContext}
    (length : content.length = other.length)
    (plain : lineFeed ∉ content ∧ carriageReturn ∉ content)
    (plain' : lineFeed ∉ other ∧ carriageReturn ∉ other)
    (hides : place.Hides settings.escape content) (hides' : place.Hides settings.escape other)
    (meets : (ScriptReader.ofScript access settings delimiter (front ++ content ++ back)).Meets
      place (content ++ joinLines (textLines back)))
    (meets' : (ScriptReader.ofScript access settings delimiter (front ++ other ++ back)).Meets
      place (other ++ joinLines (textLines back))) :
    let one := ScriptReader.ofScript access settings delimiter (front ++ content ++ back)
    let two := ScriptReader.ofScript access settings delimiter (front ++ other ++ back)
    (∃ before earlier bytes rest first last later,
      one.leftText = before ++ (content ++ joinLines (textLines back)) ∧
      two.leftText = before ++ (other ++ joinLines (textLines back)) ∧
      bytes <:+ before ∧ rest <+: joinLines (textLines back) ∧
      one.outcome =
        ⟨earlier ++ ⟨bytes ++ (content ++ rest), first, last, .sql⟩ :: later, none⟩ ∧
      two.outcome =
        ⟨earlier ++ ⟨bytes ++ (other ++ rest), first, last, .sql⟩ :: later, none⟩) ∧
    one.outcome.statements.map Statement.shape = two.outcome.statements.map Statement.shape ∧
    ∀ count, (one.nextUpTo count).2.delimiter = (two.nextUpTo count).2.delimiter := by
  intro one two
  obtain ⟨before, earlier, bytes, first, hleft, hbytes, hbefore, hone⟩ :=
    meets.outcome_hidden hides plain.1
  obtain ⟨before', earlier', bytes', first', hleft', -, hbefore', htwo⟩ :=
    meets'.outcome_hidden hides' plain'.1
  obtain rfl := ScriptReader.before_eq length plain plain' hleft hleft'
  -- one pass makes the same of the text before in both runs, which name it by its parts
  have hsame : one.onePassOf before = two.onePassOf before :=
    congrFun (ScriptReader.ofScript_onePassOf ..) before
  rw [hbefore, hbefore'] at hsame
  obtain ⟨rfl, hlast⟩ := List.append_inj' hsame rfl
  obtain ⟨rfl, rfl, -⟩ := Statement.mk.inj (List.cons.inj hlast).1
  obtain ⟨rest, last, later, hrest, hcut⟩ := statementsOfCut_content
    (usableEscape settings.escape) (delimiterAfter (usableDelimiter delimiter) earlier) place bytes
    (joinLines (textLines back)) first
  rw [hcut content plain.1] at hone
  rw [hcut other plain'.1] at htwo
  refine ⟨⟨before, earlier, bytes, rest, first, last, later, hleft, hleft', hbytes, hrest, hone,
    htwo⟩, ?_, fun count => ?_⟩
  · rw [hone, htwo]
    simp [Statement.shape, Statement.length, length]
  · rw [ScriptReader.ofScript_delimiter_nextUpTo, ScriptReader.ofScript_delimiter_nextUpTo, hone,
      htwo]
    exact delimiterAfter_take_congr (by simp [Statement.delimiterAfter]) delimiter count

/-- Contents that fill the start of a line in a block comment, one in the form of a directive. -/
theorem hidden_content_is_opaque_at_line_start :
    let front := Bytes.ofText "delimiter $$\na$$ /* ';\n"
    let content := Bytes.ofText "delimiter ; --'$$#"
    let other := Bytes.ofText "$$;\"/#$$x;--$$'''\\"
    let back := Bytes.ofText " */ b$$\nc"
    let left := joinLines (textLines back)
    let one := ScriptReader.ofScript .buffered default [59] (front ++ content ++ back)
    let two := ScriptReader.ofScript .buffered default [59] (front ++ other ++ back)
    content.length = other.length ∧ (lineFeed ∉ content ∧ carriageReturn ∉ content) ∧
      (lineFeed ∉ other ∧ carriageReturn ∉ other) ∧
      TextContext.blockComment.Hides (default : Settings).escape content ∧
      TextContext.blockComment.Hides (default : Settings).escape other ∧
      one.Meets .blockComment (content ++ left) ∧ two.Meets .blockComment (other ++ left) ∧
      one.outcome.statements.map Statement.shape = two.outcome.statements.map Statement.shape := by
  intro front content other back left one two
  have length : content.length = other.length := by decide
  have plain : lineFeed ∉ content ∧ carriageReturn ∉ content := by decide
  have plain' : lineFeed ∉ other ∧ carriageReturn ∉ other := by decide
  have hides : TextContext.blockComment.Hides (default : Settings).escape content :=
    .blockComment (by decide)
  have hides' : TextContext.blockComment.Hides (default : Settings).escape other :=
    .blockComment (by decide)
  have meets : one.Meets .blockComment (content ++ left) := by
    let reached := one.stepTaken.stepTaken.stepTaken.stepTaken.stepTaken.stepTaken
    have passes : Passes one _ reached := (Passes.start rfl).step.step.step.step.step.step
    have pending : reached.draft.pending = some (content ++ Bytes.ofText " */ b$$") := by
      decide +kernel
    have plain : reached.draft.takeDirective? (content ++ Bytes.ofText " */ b$$") = none :=
      Option.isNone_iff_eq_none.mp (by decide +kernel)
    exact .of_lineStart passes pending plain (by decide +kernel) (by decide +kernel)
  have meets' : two.Meets .blockComment (other ++ left) := by
    let reached := two.stepTaken.stepTaken.stepTaken.stepTaken.stepTaken.stepTaken
    have passes : Passes two _ reached := (Passes.start rfl).step.step.step.step.step.step
    have pending : reached.draft.pending = some (other ++ Bytes.ofText " */ b$$") := by
      decide +kernel
    have plain : reached.draft.takeDirective? (other ++ Bytes.ofText " */ b$$") = none :=
      Option.isNone_iff_eq_none.mp (by decide +kernel)
    exact .of_lineStart passes pending plain (by decide +kernel) (by decide +kernel)
  obtain ⟨_, shapes, _⟩ := hidden_content_is_opaque .buffered default length plain plain' hides
    hides' meets meets'
  exact ⟨length, plain, plain', hides, hides', meets, meets', shapes⟩

end SqlScript

import SqlScript.Proofs.Alone
import SqlScript.Proofs.DirectiveGrammar

namespace SqlScript

/-- Whether a text has no carriage return, nothing that begins a quote or a comment, and not the
word of a directive. -/
structure IsPlain (text : Bytes) : Prop where
  noCarriageReturn : carriageReturn ∉ text
  noQuote : ∀ b ∈ text, Quote.ofByte? b = none
  noHash : hash ∉ text
  noDashes : ¬[dash, dash] <:+: text
  noOpening : ¬[slash, star] <:+: text
  noWord : ∀ word, IsDirectiveWord word → ¬word <:+: text

theorem noWord_of_map {text : Bytes} (h : ¬directiveWord <:+: text.map smallLetter) (word : Bytes)
    (hw : IsDirectiveWord word) : ¬word <:+: text := by
  intro hi
  have hmap := hi.map smallLetter
  rw [isDirectiveWord_iff.mp hw] at hmap
  exact h hmap

/-- The text before the first delimiter and the text after it. -/
def cutAtFirst? (delimiter : Bytes) : Bytes → Option (Bytes × Bytes)
  | [] => none
  | b :: rest =>
    if delimiter ≠ [] ∧ delimiter <+: b :: rest then
      some ([], (b :: rest).drop delimiter.length)
    else keep [b] (cutAtFirst? delimiter rest)

/-- Whether a delimiter behind a piece is the first: none begins in the piece, even to end after
it. -/
def EndsAtFirst (delimiter piece : Bytes) : Prop :=
  ∀ start < piece.length, ¬delimiter <+: (piece ++ delimiter).drop start

/-- How a text is cut into the pieces between its delimiters, of which each is the first after the
one before. -/
inductive CutInto (delimiter : Bytes) : Bytes → List Bytes → Prop
  | last {text : Bytes} (uncut : ¬delimiter <:+: text) : CutInto delimiter text [text]
  | piece {piece text : Bytes} {pieces : List Bytes} (first : EndsAtFirst delimiter piece) :
      CutInto delimiter text pieces →
        CutInto delimiter (piece ++ (delimiter ++ text)) (piece :: pieces)

section

variable {delimiter text piece after : Bytes}

theorem endsAtFirst_nil (delimiter : Bytes) : EndsAtFirst delimiter [] := by
  intro start h
  exact absurd h (Nat.not_lt_zero start)

theorem endsAtFirst_cons {b : UInt8} : EndsAtFirst delimiter (b :: piece) ↔
    ¬delimiter <+: b :: (piece ++ delimiter) ∧ EndsAtFirst delimiter piece := by
  simp only [EndsAtFirst, List.length_cons, Nat.forall_lt_succ_left, List.cons_append,
    List.drop_zero, List.drop_succ_cons]

theorem EndsAtFirst.of_suffix {tail : Bytes} (h : EndsAtFirst delimiter piece)
    (hs : tail <:+ piece) : EndsAtFirst delimiter tail := by
  obtain ⟨front, rfl⟩ := hs
  induction front with
  | nil => exact h
  | cons b front ih => exact ih (endsAtFirst_cons.mp h).2

/-- Whether a delimiter begins before another one does not depend on what is after that. -/
theorem prefix_before_append {front : Bytes} :
    delimiter <+: front ++ (delimiter ++ after) ↔ delimiter <+: front ++ delimiter := by
  rw [← List.append_assoc]
  refine ⟨fun h => ?_, fun h => h.trans (List.prefix_append _ _)⟩
  exact List.prefix_of_prefix_length_le h (List.prefix_append _ _) (by simp)

theorem cutAtFirst?_eq_some_iff (hne : delimiter ≠ []) :
    cutAtFirst? delimiter text = some (piece, after) ↔
      text = piece ++ (delimiter ++ after) ∧ EndsAtFirst delimiter piece := by
  induction text generalizing piece with
  | nil => simp [cutAtFirst?, hne]
  | cons b rest ih =>
    rw [cutAtFirst?]
    split
    next hd =>
      obtain ⟨more, hmore⟩ := hd.2
      rw [← hmore, List.drop_left]
      constructor
      · intro h
        obtain ⟨rfl, rfl⟩ := Prod.mk.inj (Option.some.inj h)
        exact ⟨rfl, endsAtFirst_nil delimiter⟩
      · rintro ⟨htext, hfirst⟩
        cases piece with
        | nil => rw [List.append_cancel_left htext]
        | cons c piece =>
          -- the delimiter that the text begins with would be before the one behind the piece
          have hp : delimiter <+: (c :: piece) ++ (delimiter ++ after) :=
            htext ▸ List.prefix_append _ _
          exact absurd (prefix_before_append.mp hp) (endsAtFirst_cons.mp hfirst).1
    next hd =>
      have hnot : ¬delimiter <+: b :: rest := fun hp => hd ⟨hne, hp⟩
      constructor
      · intro h
        obtain ⟨before, hf, rfl⟩ := keep_eq_some h
        obtain ⟨rfl, hfirst⟩ := ih.mp hf
        have hbegins : ¬delimiter <+: (b :: before) ++ delimiter := fun hp =>
          hnot (prefix_before_append.mpr hp)
        exact ⟨rfl, endsAtFirst_cons.mpr ⟨hbegins, hfirst⟩⟩
      · rintro ⟨htext, hfirst⟩
        cases piece with
        | nil => exact absurd (htext ▸ List.prefix_append _ _) hnot
        | cons c piece =>
          obtain ⟨rfl, htail⟩ := List.cons.inj htext
          rw [ih.mpr ⟨htail, (endsAtFirst_cons.mp hfirst).2⟩, keep_some, List.singleton_append]

theorem cutAtFirst?_eq_none_iff (hne : delimiter ≠ []) :
    cutAtFirst? delimiter text = none ↔ ¬delimiter <:+: text := by
  induction text with
  | nil => simp [cutAtFirst?, hne]
  | cons b rest ih =>
    rw [cutAtFirst?, List.infix_cons_iff]
    split
    next hd => simp [hd.2]
    next hd =>
      have hnot : ¬delimiter <+: b :: rest := fun hp => hd ⟨hne, hp⟩
      simp only [keep, Option.map_eq_none_iff, ih, hnot, false_or]

theorem cutAtFirst?_length (h : cutAtFirst? delimiter text = some (piece, after)) :
    after.length < text.length := by
  induction text generalizing piece with
  | nil => simp [cutAtFirst?] at h
  | cons b rest ih =>
    rw [cutAtFirst?] at h
    split at h
    next hd =>
      have hpos := List.length_pos_iff.mpr hd.1
      rw [← (Prod.mk.inj (Option.some.inj h)).2, List.length_drop, List.length_cons]
      omega
    next =>
      obtain ⟨before, hf, -⟩ := keep_eq_some h
      exact Nat.lt_succ_of_lt (ih hf)

end

/-- The pieces of a text between its delimiters. -/
def piecesBetween (delimiter text : Bytes) : List Bytes :=
  match _ : cutAtFirst? delimiter text with
  | none => [text]
  | some (piece, after) => piece :: piecesBetween delimiter after
termination_by text.length
decreasing_by exact cutAtFirst?_length ‹_›

section

variable {delimiter text piece after : Bytes}

theorem piecesBetween_of_none (h : cutAtFirst? delimiter text = none) :
    piecesBetween delimiter text = [text] := by
  rw [piecesBetween]
  split
  next => rfl
  next h' => simp [h] at h'

theorem piecesBetween_of_some (h : cutAtFirst? delimiter text = some (piece, after)) :
    piecesBetween delimiter text = piece :: piecesBetween delimiter after := by
  rw [piecesBetween]
  split
  next h' => simp [h] at h'
  next piece' after' h' =>
    obtain ⟨rfl, rfl⟩ := Prod.mk.inj (Option.some.inj (h.symm.trans h'))
    rfl

/-- A text is cut into its pieces in one way. -/
theorem cutInto_iff (hne : delimiter ≠ []) {pieces : List Bytes} :
    CutInto delimiter text pieces ↔ pieces = piecesBetween delimiter text := by
  constructor
  · intro h
    induction h with
    | last uncut => rw [piecesBetween_of_none ((cutAtFirst?_eq_none_iff hne).mpr uncut)]
    | piece first _ ih =>
      rw [piecesBetween_of_some ((cutAtFirst?_eq_some_iff hne).mpr ⟨rfl, first⟩), ih]
  · rintro rfl
    fun_induction piecesBetween delimiter text with
    | case1 text h => exact .last ((cutAtFirst?_eq_none_iff hne).mp h)
    | case2 text piece after h ih =>
      obtain ⟨rfl, first⟩ := (cutAtFirst?_eq_some_iff hne).mp h
      exact .piece first ih

end

/-- The statements of the pieces of a text: each with the delimiter behind it, without the line
feeds before it. -/
def statementsBetween (delimiter : Bytes) (pieces : List Bytes) : List Bytes :=
  pieces.dropLast.map (fun piece => piece.dropWhile (· = lineFeed) ++ delimiter) ++
    ((pieces.getLast?.map fun piece =>
      withoutLast lineFeed (piece.dropWhile (· = lineFeed))).filter (· ≠ [])).toList

theorem statementsBetween_cons (delimiter piece : Bytes) {pieces : List Bytes} (hne : pieces ≠ []) :
    statementsBetween delimiter (piece :: pieces) =
      (piece.dropWhile (· = lineFeed) ++ delimiter) :: statementsBetween delimiter pieces := by
  simp only [statementsBetween, List.dropLast_cons_of_ne_nil hne, List.map_cons, List.cons_append,
    List.getLast?_cons_of_ne_nil hne]

theorem piecesBetween_ne_nil (delimiter text : Bytes) : piecesBetween delimiter text ≠ [] := by
  fun_cases piecesBetween delimiter text <;> exact List.cons_ne_nil _ _

theorem dropWhile_withoutLast (text : Bytes) :
    (withoutLast lineFeed text).dropWhile (· = lineFeed) =
      withoutLast lineFeed (text.dropWhile (· = lineFeed)) := by
  by_cases hlast : text.getLast? = some lineFeed
  · obtain ⟨front, rfl⟩ := List.getLast?_eq_some_iff.mp hlast
    rw [withoutLast, if_pos hlast, List.dropLast_concat, List.dropWhile_append]
    by_cases hf : front.dropWhile (· = lineFeed) = []
    · simp [hf, withoutLast]
    · rw [if_neg (by simpa using hf), withoutLast, List.getLast?_concat, if_pos rfl,
        List.dropLast_concat]
  · rw [withoutLast, if_neg hlast, withoutLast, if_neg]
    intro h
    obtain ⟨front, hfront⟩ := List.getLast?_eq_some_iff.mp h
    obtain ⟨feeds, hfeeds⟩ := List.dropWhile_suffix (l := text) (· = lineFeed)
    rw [← hfeeds, hfront, ← List.append_assoc, List.getLast?_concat] at hlast
    exact hlast rfl

theorem dropWhile_append_delimiter {delimiter : Bytes} (hne : delimiter ≠ [])
    (hl : lineFeed ∉ delimiter) (piece after : Bytes) :
    (piece ++ (delimiter ++ after)).dropWhile (· = lineFeed) =
      piece.dropWhile (· = lineFeed) ++ (delimiter ++ after) := by
  obtain ⟨b, rest, rfl⟩ := List.exists_cons_of_ne_nil hne
  have hb : b ≠ lineFeed := fun h => hl (h ▸ List.mem_cons_self)
  rw [List.dropWhile_append]
  by_cases hnil : piece.dropWhile (· = lineFeed) = []
  · rw [hnil, List.isEmpty_nil, if_pos rfl, List.nil_append, List.cons_append,
      List.dropWhile_cons_of_neg (by simpa using hb)]
  · rw [if_neg (by simpa using hnil)]

/-- Without carriage returns all that the lines of a text lose is the line feed at its end. -/
theorem joinLines_textLines_eq_withoutLast {text : Bytes} (h : carriageReturn ∉ text) :
    joinLines (textLines text) = withoutLast lineFeed text := by
  have plain : ¬[carriageReturn, lineFeed] <:+: text := fun hi => h (hi.subset (by simp))
  by_cases hlast : text.getLast? = some lineFeed
  · obtain ⟨front, rfl⟩ := List.getLast?_eq_some_iff.mp hlast
    rw [textLines_of_noCarriageReturn plain [], textLines_nil, List.append_nil, withoutLast,
      if_pos hlast, List.dropLast_concat]
    exact List.intercalate_splitOn lineFeed
  · rw [withoutLast, if_neg hlast]
    by_cases hne : text = []
    · simp [hne, joinLines]
    · exact joinLines_textLines hne plain hlast

namespace IsPlain

variable {escape : Option UInt8} {delimiter text : Bytes}

theorem of_infix {part : Bytes} (plain : IsPlain text) (hi : part <:+: text) : IsPlain part where
  noCarriageReturn hm := plain.noCarriageReturn (hi.subset hm)
  noQuote b hb := plain.noQuote b (hi.subset hb)
  noHash hm := plain.noHash (hi.subset hm)
  noDashes hd := plain.noDashes (hd.trans hi)
  noOpening ho := plain.noOpening (ho.trans hi)
  noWord word hw hi' := plain.noWord word hw (hi'.trans hi)

theorem newDelimiter?_eq_none (plain : IsPlain text) : newDelimiter? text = none := by
  cases h : newDelimiter? text with
  | none => rfl
  | some delimiter =>
    obtain ⟨directive, rfl, -⟩ := exists_directive h
    have hi : directive.word <:+: directive.line :=
      ⟨directive.indent, directive.gap ++ directive.delimiter, by simp [Directive.line]⟩
    exact absurd hi (plain.noWord _ directive.word_letters)

/-- A plain text is cut at the first delimiter. -/
theorem cutText_eq (plain : IsPlain text) : cutText escape delimiter .code text =
    (cutAtFirst? delimiter text).map fun (piece, after) => (piece ++ delimiter, after) := by
  induction text with
  | nil => simp [cutAtFirst?]
  | cons b rest ih =>
    have hopening := notFollowed_of_not_isPrefix fun h => plain.noOpening h.isInfix
    have hdashes := notFollowed_of_not_isPrefix fun h => plain.noDashes h.isInfix
    have hhash : b ≠ hash := fun hb => plain.noHash (hb ▸ List.mem_cons_self)
    rw [cutText_code hopening hdashes hhash, plain.noQuote b List.mem_cons_self, cutAtFirst?]
    dsimp only
    split
    next => rfl
    next =>
      rw [ih (plain.of_infix (List.suffix_cons b rest).isInfix)]
      cases cutAtFirst? delimiter rest <;> rfl

/-- One pass over a plain text begins at its first byte that is not a line feed. -/
theorem onePass_eq (plain : IsPlain text) (escape : Option UInt8) (number : Nat)
    (delimiter : Bytes) {bytes : Bytes} (hb : text.dropWhile (· = lineFeed) = bytes) :
    ∃ first, onePass escape number delimiter text =
      if bytes = [] then []
      else statementsOfCut escape delimiter first bytes
        ((cutAtFirst? delimiter bytes).map fun (piece, after) => (piece ++ delimiter, after)) := by
  induction text generalizing number with
  | nil => exact ⟨number, by simp [onePass, ← hb]⟩
  | cons b rest ih =>
    by_cases hfeed : b = lineFeed
    · subst hfeed
      rw [List.dropWhile_cons_of_pos (by simp)] at hb
      rw [onePass_lineFeed]
      exact ih (plain.of_infix (List.suffix_cons _ rest).isInfix) (number + 1) hb
    · have hline : b :: rest.takeWhile (· ≠ lineFeed) <:+: b :: rest :=
        (List.cons_prefix_cons.mpr ⟨rfl, List.takeWhile_prefix _⟩).isInfix
      have hplain := (plain.of_infix hline).newDelimiter?_eq_none
      rw [List.dropWhile_cons_of_neg (by simpa using hfeed)] at hb
      refine ⟨number, ?_⟩
      rw [← hb, if_neg (List.cons_ne_nil b rest), ← plain.cutText_eq]
      exact onePass_cons_plain hfeed hplain

theorem onePass_piece {piece after : Bytes} (plain : IsPlain (piece ++ (delimiter ++ after)))
    (hne : delimiter ≠ []) (hl : lineFeed ∉ delimiter) (hfirst : EndsAtFirst delimiter piece)
    (escape : Option UInt8) (number : Nat) :
    ∃ first last, onePass escape number delimiter
        (withoutLast lineFeed (piece ++ (delimiter ++ after))) =
      ⟨piece.dropWhile (· = lineFeed) ++ delimiter, first, last, .sql⟩ ::
        onePass escape last delimiter (withoutLast lineFeed after) := by
  have hplain := plain.of_infix (withoutLast_isPrefix lineFeed _).isInfix
  -- the line feed that goes at the end of the text is behind the delimiter
  have hfront : (piece ++ delimiter).getLast? ≠ some lineFeed := by
    rw [List.getLast?_append_of_ne_nil _ hne]
    exact fun h => hl (List.mem_of_getLast? h)
  rw [← List.append_assoc, withoutLast_append hfront, List.append_assoc] at hplain ⊢
  obtain ⟨first, hpass⟩ := hplain.onePass_eq escape number delimiter
    (dropWhile_append_delimiter hne hl piece (withoutLast lineFeed after))
  have hcut : cutAtFirst? delimiter (piece.dropWhile (· = lineFeed) ++
      (delimiter ++ withoutLast lineFeed after)) = _ :=
    (cutAtFirst?_eq_some_iff hne).mpr ⟨rfl, hfirst.of_suffix (List.dropWhile_suffix _)⟩
  rw [if_neg (by simp [hne]), hcut, Option.map_some, statementsOfCut] at hpass
  exact ⟨_, _, hpass⟩

theorem onePass_last (plain : IsPlain text) (hne : delimiter ≠ [])
    (huncut : ¬delimiter <:+: text) (escape : Option UInt8) (number : Nat) :
    ∃ first last, onePass escape number delimiter (withoutLast lineFeed text) =
      let bytes := withoutLast lineFeed (text.dropWhile (· = lineFeed))
      if bytes = [] then [] else [⟨bytes, first, last, .sql⟩] := by
  have hplain := plain.of_infix (withoutLast_isPrefix lineFeed text).isInfix
  obtain ⟨first, hpass⟩ := hplain.onePass_eq escape number delimiter (dropWhile_withoutLast text)
  have hlast : withoutLast lineFeed (text.dropWhile (· = lineFeed)) <:+: text :=
    (withoutLast_isPrefix _ _).isInfix.trans (List.dropWhile_suffix _).isInfix
  have hnone := (cutAtFirst?_eq_none_iff hne).mpr fun h => huncut (h.trans hlast)
  rw [hnone, Option.map_none, statementsOfCut] at hpass
  exact ⟨_, _, hpass⟩

/-- One pass over a plain text makes a statement of each piece. -/
theorem onePass_pieces (plain : IsPlain text) (hne : delimiter ≠ []) (hl : lineFeed ∉ delimiter)
    (escape : Option UInt8) (number : Nat) :
    let statements := onePass escape number delimiter (withoutLast lineFeed text)
    (∀ statement ∈ statements, statement.kind = .sql) ∧
      statements.map Statement.bytes =
        statementsBetween delimiter (piecesBetween delimiter text) := by
  intro statements
  fun_induction piecesBetween delimiter text generalizing number with
  | case1 text hcut =>
    obtain ⟨first, last, hpass⟩ :=
      plain.onePass_last hne ((cutAtFirst?_eq_none_iff hne).mp hcut) escape number
    by_cases hnil : withoutLast lineFeed (text.dropWhile (· = lineFeed)) = []
    · simp [statements, hpass, hnil, statementsBetween]
    · simp [statements, hpass, hnil, statementsBetween, Option.filter_some]
  | case2 text piece after hcut ih =>
    obtain ⟨rfl, hfirst⟩ := (cutAtFirst?_eq_some_iff hne).mp hcut
    obtain ⟨first, last, hpass⟩ := plain.onePass_piece hne hl hfirst escape number
    have hafter : after <:+: piece ++ (delimiter ++ after) := ⟨piece ++ delimiter, [], by simp⟩
    obtain ⟨hkinds, hbytes⟩ := ih (plain.of_infix hafter) last
    simp only [statements, hpass]
    refine ⟨List.forall_mem_cons.mpr ⟨rfl, hkinds⟩, ?_⟩
    rw [List.map_cons, hbytes, statementsBetween_cons _ _ (piecesBetween_ne_nil _ _)]

end IsPlain

/-- A plain text is split at its delimiters, for which there is one way to cut it into pieces. -/
theorem drain_plain (access : Access) {settings : Settings}
    (holds : access = .buffered → 1 ≤ settings.capacity) {delimiter text : Bytes}
    (hne : delimiter ≠ []) (oneLine : lineFeed ∉ delimiter) (plain : IsPlain text) :
    let outcome := (ScriptReader.ofScript access settings delimiter text).outcome
    let pieces := piecesBetween delimiter text
    (∀ cut, CutInto delimiter text cut ↔ cut = pieces) ∧
      outcome.statements.map Statement.bytes = statementsBetween delimiter pieces ∧
      (∀ statement ∈ outcome.statements, statement.kind = .sql) ∧ outcome.failure = none := by
  intro outcome pieces
  have houtcome : outcome = _ :=
    ScriptReader.ofScript_outcome_of_holds access settings delimiter holds text
  rw [joinLines_textLines_eq_withoutLast plain.noCarriageReturn,
    usableDelimiter_of_notMem oneLine] at houtcome
  obtain ⟨hkinds, hbytes⟩ := plain.onePass_pieces hne oneLine (usableEscape settings.escape) 1
  rw [houtcome]
  exact ⟨fun cut => cutInto_iff hne, hbytes, hkinds, rfl⟩

/-- Delimiters that overlap, one that stands by itself on a line, and empty lines before, in and
behind the statements. -/
theorem drain_plain_of_overlaps :
    let delimiter := Bytes.ofText "aa"
    let text := Bytes.ofText "\n\naaa\n\nb\naa\n\naa\nc\n\n"
    let outcome := (ScriptReader.ofScript .buffered default delimiter text).outcome
    (Access.buffered = .buffered → 1 ≤ (default : Settings).capacity) ∧ delimiter ≠ [] ∧
      lineFeed ∉ delimiter ∧ IsPlain text ∧
      outcome.statements.map Statement.bytes =
        ["aa", "a\n\nb\naa", "aa", "c\n"].map Bytes.ofText := by
  intro delimiter text outcome
  have holds : Access.buffered = .buffered → 1 ≤ (default : Settings).capacity := by decide
  have hne : delimiter ≠ [] := by decide
  have oneLine : lineFeed ∉ delimiter := by decide
  have plain : IsPlain text := {
    noCarriageReturn := by decide
    noQuote := List.forall_iff_forall_mem.mp (by decide)
    noHash := by decide
    noDashes := by decide
    noOpening := by decide
    noWord := noWord_of_map (by decide) }
  obtain ⟨-, hbytes, -, -⟩ := drain_plain .buffered holds hne oneLine plain
  exact ⟨holds, hne, oneLine, plain, hbytes.trans (by decide +kernel)⟩

end SqlScript

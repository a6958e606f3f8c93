import SqlScript.Proofs.Restart

namespace SqlScript

/-- Whether a delimiter can end nothing: it is empty, it goes over a line end, or it begins as a
quote or a comment does. -/
def IsDead (delimiter : Bytes) : Prop :=
  delimiter = [] ∨ lineFeed ∈ delimiter ∨
    (∃ b ∈ delimiter.head?, b = hash ∨ (Quote.ofByte? b).isSome = true) ∨
    [dash, dash] <+: delimiter ∨ [slash, star] <+: delimiter

instance (delimiter : Bytes) : Decidable (IsDead delimiter) :=
  inferInstanceAs (Decidable (_ ∨ _ ∨ _ ∨ _ ∨ _))

section

variable {escape : Option UInt8} {delimiter : Bytes}

/-- Where a dead delimiter is looked for, a quote or a comment has been looked for before it. -/
theorem IsDead.not_isPrefix (dead : IsDead delimiter) {rest : Bytes} {b : UInt8}
    (hblock : ∀ after, b = slash → rest = star :: after → False)
    (hline : ∀ after, b = dash → rest = dash :: after → False) (hhash : b = hash → False)
    (hquote : Quote.ofByte? b = none) :
    ¬(usableDelimiter delimiter ≠ [] ∧ usableDelimiter delimiter <+: b :: rest) := by
  rintro ⟨hne, hp⟩
  have heq := usableDelimiter_of_ne_nil hne
  have hfree := lineFeed_notMem_usableDelimiter delimiter
  rw [heq] at hne hp hfree
  have htwo : ∀ {first second : UInt8}, [first, second] <+: delimiter →
      b = first ∧ ∃ after, rest = second :: after := by
    intro first second h
    obtain ⟨hfirst, after, hafter⟩ := List.cons_prefix_cons.mp (h.trans hp)
    exact ⟨hfirst.symm, after, hafter.symm⟩
  rcases dead with hnil | hfeed | ⟨c, hc, hstart⟩ | hdashes | hopens
  · exact hne hnil
  · exact hfree hfeed
  · obtain ⟨tail, rfl⟩ := List.head?_eq_some_iff.mp hc
    obtain rfl := (List.cons_prefix_cons.mp hp).1
    rcases hstart with rfl | hstart
    · exact hhash rfl
    · simp [hquote] at hstart
  · obtain ⟨hb, after, hrest⟩ := htwo hdashes
    exact hline after hb hrest
  · obtain ⟨hb, after, hrest⟩ := htwo hopens
    exact hblock after hb hrest

/-- A dead delimiter cuts no text. -/
theorem IsDead.cutText_eq_none (dead : IsDead delimiter) (context : TextContext) (text : Bytes) :
    cutText escape (usableDelimiter delimiter) context text = none := by
  fun_induction cutText escape (usableDelimiter delimiter) context text with
  | case1 => rfl
  | case2 _ _ _ _ ih | case3 _ ih | case4 _ _ _ ih | case5 _ _ ih | case6 _ ih | case7 _ ih
  | case8 _ ih | case9 _ _ _ _ _ _ _ ih | case11 _ _ _ _ _ _ _ ih => rw [ih, keep_none]
  | case10 b rest hblock hline hhash hquote hd =>
    exact absurd hd (dead.not_isPrefix hblock hline hhash hquote)

/-- A delimiter that is not dead is found where it stands in bare SQL by itself. -/
theorem cutText_live (live : ¬IsDead delimiter) :
    cutText escape delimiter .code delimiter = some (delimiter, []) := by
  simp only [IsDead, not_or, not_exists, not_and] at live
  obtain ⟨hne, -, hstart, hdashes, hopens⟩ := live
  obtain ⟨b, rest, rfl⟩ := List.exists_cons_of_ne_nil hne
  obtain ⟨hhash, hquote⟩ := hstart b rfl
  have hnone : Quote.ofByte? b = none := by simpa using hquote
  rw [cutText_code (notFollowed_of_not_isPrefix hopens) (notFollowed_of_not_isPrefix hdashes) hhash,
    hnone]
  simp

/-- A bracket before a delimiter hides it only if the delimiter is dead. -/
theorem cutText_bracket (live : ¬IsDead delimiter) :
    ∃ cut after, cutText escape delimiter .code (40 :: delimiter) = some (cut, after) := by
  rw [cutText_code (fun _ he => absurd he (by decide)) (fun _ he => absurd he (by decide))
    (fun he => absurd he (by decide)), show Quote.ofByte? 40 = none from rfl, cutText_live live]
  by_cases hd : delimiter ≠ [] ∧ delimiter <+: 40 :: delimiter
  · exact ⟨_, _, if_pos hd⟩
  · exact ⟨_, _, if_neg hd⟩

end

/-- Empty lines before a text are passed over. -/
theorem onePass_following_blank (escape : Option UInt8) (number : Nat) (delimiter text : Bytes)
    {blank : List Bytes} (h : ∀ line ∈ blank, line = []) :
    onePass escape number delimiter (following blank ++ text) =
      onePass escape (number + blank.length) delimiter text := by
  induction blank generalizing number with
  | nil => rfl
  | cons line blank ih =>
    rw [List.forall_mem_cons] at h
    obtain ⟨rfl, hblank⟩ := h
    rw [following_cons, List.nil_append, List.cons_append, onePass_lineFeed, ih _ hblank,
      List.length_cons, Nat.add_assoc, Nat.add_comm 1]

/-- A text that is cut nowhere and does not begin with a directive is one statement. -/
theorem onePass_of_uncut {escape : Option UInt8} {number : Nat} {delimiter line : Bytes}
    {later : List Bytes} (uncut : ∀ text, cutText escape delimiter .code text = none)
    (hne : line ≠ []) (hl : ∀ other ∈ line :: later, lineFeed ∉ other)
    (hn : newDelimiter? line = none) :
    onePass escape number delimiter (line ++ following later) =
      [⟨joinLines (line :: later), number, number + later.length, .sql⟩] := by
  rw [List.forall_mem_cons] at hl
  rw [onePass_plain hne hl.1 (following_atLineEnd later) hn, uncut, statementsOfCut,
    List.count_append, List.count_eq_zero_of_not_mem hl.1, count_lineFeed_following hl.2,
    Nat.zero_add, joinLines_cons]

/-- A dead delimiter ends no statement, and any other ends one that a bracket begins. -/
theorem delimiter_ends_unless_dead (access : Access) (settings : Settings) :
    (IsDead settings.delimiter → ∀ source,
      let reader := ScriptReader.opened access source settings
      let lines := reader.lines.linesLeft
      ((∀ line ∈ lines, line = []) → reader.outcome.statements = []) ∧
      ∀ blank line later, lines = blank ++ line :: later → (∀ other ∈ blank, other = []) →
        line ≠ [] → newDelimiter? line = none →
        reader.outcome.statements =
          [⟨joinLines (line :: later), blank.length + 1, lines.length, .sql⟩]) ∧
    (¬IsDead settings.delimiter → (access = .buffered → 1 ≤ settings.capacity) →
      let text := Bytes.ofText "(" ++ settings.delimiter
      let reader := ScriptReader.opened access (Source.ofBytes text) settings
      ∃ first rest, reader.outcome.statements = first :: rest ∧ first.kind = .sql ∧
        settings.delimiter <:+ first.bytes) := by
  refine ⟨?_, ?_⟩
  · intro dead source reader lines
    have hdrain : reader.outcome.statements = onePass (usableEscape settings.escape) 0
        (usableDelimiter settings.delimiter) (following lines) :=
      ScriptReader.opened_drain access source settings
    have hfree : ∀ line ∈ lines, lineFeed ∉ line := LineReader.lineFeed_notMem_linesLeft _
    refine ⟨fun hblank => ?_, fun blank line later hlines hblank hne hn => ?_⟩
    · have hpass := onePass_following_blank (usableEscape settings.escape) 0
        (usableDelimiter settings.delimiter) [] hblank
      rw [List.append_nil] at hpass
      rw [hdrain, hpass, onePass]
    · have hlater : ∀ other ∈ line :: later, lineFeed ∉ other := fun other hm =>
        hfree other (hlines ▸ List.mem_append_right _ hm)
      have hlength : 0 + blank.length + 1 + later.length = lines.length := by
        rw [hlines, List.length_append, List.length_cons]
        omega
      have hfollowing : following lines =
          following blank ++ (lineFeed :: (line ++ following later)) := by
        rw [hlines, following_append, following_cons]
      rw [hdrain, hfollowing, onePass_following_blank _ _ _ _ hblank, onePass_lineFeed,
        onePass_of_uncut (dead.cutText_eq_none .code) hne hlater hn, hlength, Nat.zero_add]
  · intro live holds text reader
    have hfree : lineFeed ∉ settings.delimiter := fun hm => live (.inr (.inl hm))
    have htext : text = 40 :: settings.delimiter := rfl
    have hbracket : lineFeed ≠ 40 := by decide
    have hone : lineFeed ∉ 40 :: settings.delimiter := by simp [hbracket, hfree]
    have hplain : ∀ more, newDelimiter? (40 :: more) = none := fun _ => rfl
    have houtcome := ScriptReader.ofScript_outcome_of_holds access settings settings.delimiter
      holds text
    rw [htext, textLines_of_notMem hone, if_neg (List.cons_ne_nil _ _), joinLines_cons,
      show following [] = [] from rfl, List.append_nil, usableDelimiter_of_notMem hfree,
      onePass_cons_plain (by decide) (hplain _)] at houtcome
    obtain ⟨cut, after, hcut⟩ : ∃ cut after, cutText (usableEscape settings.escape)
        settings.delimiter .code (40 :: settings.delimiter) = some (cut, after) :=
      cutText_bracket live
    rw [hcut, statementsOfCut] at houtcome
    exact ⟨_, _, congrArg Outcome.statements houtcome, rfl, (cutText_suffix hcut).2⟩

example : (["-", "/", "*/", "x--"].map Bytes.ofText).Forall (¬IsDead ·) ∧
    (["--x", "/*", "#;", "';", "a\nb"].map Bytes.ofText).Forall IsDead := by decide

end SqlScript

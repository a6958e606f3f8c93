import SqlScript.Proofs.Restart

namespace SqlScript

/-- A content with the escape before each byte that could end the literal or escape what follows. -/
def Quote.escaped (quote : Quote) (escape : UInt8) (content : Bytes) : Bytes :=
  content.flatMap fun b => if b = quote.byte ∨ b = escape then [escape, b] else [b]

/-- A content with each quote byte of its own kind twice. -/
def Quote.doubled (quote : Quote) (content : Bytes) : Bytes :=
  content.flatMap fun b => if b = quote.byte then [b, b] else [b]

/-- The ways to write a content between quotes; a line feed escapes nothing. -/
inductive Quote.Written (quote : Quote) (escape : UInt8) (content : Bytes) : Bytes → Prop
  | escaped (usable : escape ≠ lineFeed ∨ quote.byte ∉ content) :
      Written quote escape content (quote.escaped escape content)
  | doubled (foreign : escape ∉ content) : Written quote escape content (quote.doubled content)

/-- Whether a byte is nothing but content where it stands in bare SQL, unless a delimiter starts
with it. -/
def IsBare (b : UInt8) : Prop :=
  b ≠ slash ∧ b ≠ dash ∧ b ≠ hash ∧ Quote.ofByte? b = none

instance (b : UInt8) : Decidable (IsBare b) := inferInstanceAs (Decidable (_ ∧ _))

theorem cutText_bare {escape : Option UInt8} {delimiter front : Bytes}
    (bare : ∀ b ∈ front, IsBare b ∧ delimiter.head? ≠ some b) (rest : Bytes) :
    cutText escape delimiter .code (front ++ rest) =
      keep front (cutText escape delimiter .code rest) := by
  refine cutText_content (fun b hb rest => ?_) rest
  obtain ⟨⟨hslash, hdash, hhash, hquote⟩, hstart⟩ := bare b hb
  have hno : ¬(delimiter ≠ [] ∧ delimiter <+: b :: rest) := by
    rintro ⟨hne, hp⟩
    obtain ⟨c, delimiter, rfl⟩ := List.exists_cons_of_ne_nil hne
    exact hstart (congrArg some (List.cons_prefix_cons.mp hp).1)
  rw [cutText_code (fun _ he => absurd he hslash) (fun _ he => absurd he hdash) hhash, hquote]
  exact if_neg hno

section

variable {quote : Quote} {escape : UInt8} {content literal : Bytes}

theorem cutText_escaped (oneLine : lineFeed ∉ content)
    (usable : escape ≠ lineFeed ∨ quote.byte ∉ content) (delimiter rest : Bytes) :
    cutText (usableEscape escape) delimiter (.quoted quote false)
        (quote.escaped escape content ++ rest) =
      keep (quote.escaped escape content)
        (cutText (usableEscape escape) delimiter (.quoted quote false) rest) := by
  refine cutText_flatMap (fun b hm rest => ?_) rest
  have hb : b ≠ lineFeed := fun he => oneLine (he ▸ hm)
  split
  next hq =>
    have hne : escape ≠ lineFeed := by
      rcases usable with hne | hfree
      · exact hne
      · rcases hq with rfl | rfl
        · exact absurd hm hfree
        · exact hb
    exact cutText_quoteEscapes (if_neg hne) hb rest
  next hq =>
    rw [not_or] at hq
    have he : usableEscape escape ≠ some b := fun h => hq.2 (usableEscape_eq_some h).symm
    exact cutText_quoteStays he hq.1 rest

theorem cutText_doubled (own : escape ≠ quote.byte) (foreign : escape ∉ content)
    (delimiter rest : Bytes) :
    cutText (usableEscape escape) delimiter (.quoted quote false)
        (quote.doubled content ++ rest) =
      keep (quote.doubled content)
        (cutText (usableEscape escape) delimiter (.quoted quote false) rest) := by
  refine cutText_flatMap (fun b hm rest => ?_) rest
  split
  next hb =>
    -- the first of the two closes the literal, and the second opens it again
    have he : usableEscape escape ≠ some quote.byte := fun h => own (usableEscape_eq_some h)
    subst hb
    simp only [List.cons_append, List.nil_append]
    rw [cutText_quoteCloses he, cutText_quoteOpens, keep_keep]
    rfl
  next hb =>
    have he : usableEscape escape ≠ some b := fun h => foreign ((usableEscape_eq_some h) ▸ hm)
    exact cutText_quoteStays he hb rest

namespace Quote.Written

/-- A content written between quotes does not close them. -/
theorem cutText_literal (written : quote.Written escape content literal)
    (own : escape ≠ quote.byte) (oneLine : lineFeed ∉ content) (delimiter rest : Bytes) :
    cutText (usableEscape escape) delimiter (.quoted quote false) (literal ++ rest) =
      keep literal (cutText (usableEscape escape) delimiter (.quoted quote false) rest) := by
  cases written with
  | escaped usable => exact cutText_escaped oneLine usable delimiter rest
  | doubled foreign => exact cutText_doubled own foreign delimiter rest

theorem oneLine (written : quote.Written escape content literal) (h : lineFeed ∉ content) :
    lineFeed ∉ literal := by
  intro hm
  cases written with
  | escaped usable =>
    obtain ⟨b, hb, hm⟩ := List.mem_flatMap.mp hm
    have hne : lineFeed ≠ b := fun he => h (he ▸ hb)
    split at hm
    next hq =>
      obtain rfl : lineFeed = escape := by simpa [hne] using hm
      rcases usable with hnot | hnot
      · exact hnot rfl
      · rcases hq with rfl | rfl
        · exact hnot hb
        · exact hne rfl
    next => exact hne (by simpa using hm)
  | doubled foreign =>
    obtain ⟨b, hb, hm⟩ := List.mem_flatMap.mp hm
    have hne : lineFeed ≠ b := fun he => h (he ▸ hb)
    split at hm <;> exact hne (by simpa using hm)

end Quote.Written

end

/-- A statement with a literal in it, and the semicolon that ends it. -/
def Quote.select (quote : Quote) (literal : Bytes) : Bytes :=
  Bytes.ofText "select " ++ quote.byte :: (literal ++ [quote.byte, 59])

section

variable {quote : Quote} {escape : UInt8} {content literal : Bytes}

theorem Quote.getLast?_select (quote : Quote) (literal : Bytes) :
    (quote.select literal).getLast? = some 59 := by
  rw [show quote.select literal =
    (Bytes.ofText "select " ++ quote.byte :: (literal ++ [quote.byte])) ++ [59] by simp [select],
    List.getLast?_concat]

namespace Quote.Written

theorem oneLine_select (written : quote.Written escape content literal) (h : lineFeed ∉ content) :
    lineFeed ∉ quote.select literal := by
  have hbegin : lineFeed ∉ Bytes.ofText "select " := by decide
  have hquote := Ne.symm quote.byte_ne_lineFeed
  have hend : lineFeed ≠ 59 := by decide
  simp [select, hbegin, hquote, hend, written.oneLine h]

/-- The first semicolon in bare SQL is the one after the literal. -/
theorem cutText_select (written : quote.Written escape content literal)
    (own : escape ≠ quote.byte) (oneLine : lineFeed ∉ content) (rest : Bytes) :
    cutText (usableEscape escape) [59] .code (quote.select literal ++ rest) =
      some (quote.select literal, rest) := by
  have hclose : usableEscape escape ≠ some quote.byte := fun h => own (usableEscape_eq_some h)
  have hend : cutText (usableEscape escape) [59] .code (59 :: rest) = some ([59], rest) := by
    rw [cutText_code (fun _ he => absurd he (by decide)) (fun _ he => absurd he (by decide))
      (fun he => absurd he (by decide)), show Quote.ofByte? 59 = none from rfl]
    simp
  simp only [select, List.append_assoc, List.cons_append, List.nil_append]
  rw [cutText_bare (by decide +kernel), cutText_quoteOpens, written.cutText_literal own oneLine,
    cutText_quoteCloses hclose, hend]
  simp

theorem onePass_select (written : quote.Written escape content literal)
    (own : escape ≠ quote.byte) (oneLine : lineFeed ∉ content) (rest : Bytes) :
    onePass (usableEscape escape) 1 [59] (quote.select literal ++ rest) =
      ⟨quote.select literal, 1, 1, .sql⟩ :: onePass (usableEscape escape) 1 [59] rest := by
  have hbegins : quote.select literal = 115 :: (quote.select literal).tail := rfl
  have hfirst : ∀ more, newDelimiter? (115 :: more) = none := fun _ => rfl
  have hpass : onePass (usableEscape escape) 1 [59] (115 :: ((quote.select literal).tail ++ rest)) =
      statementsOfCut (usableEscape escape) [59] 1 _ _ :=
    onePass_cons_plain (by decide) (hfirst _)
  rw [← List.cons_append, ← hbegins, written.cutText_select own oneLine, statementsOfCut,
    List.count_eq_zero_of_not_mem (written.oneLine_select oneLine)] at hpass
  exact hpass

end Quote.Written

end

/-- A literal is kept as it is, whatever it holds, and what follows it is split as if it were alone.
-/
theorem drain_literal (access : Access) {settings : Settings}
    (holds : access = .buffered → 1 ≤ settings.capacity) {quote : Quote} {content literal : Bytes}
    (own : settings.escape ≠ quote.byte) (oneLine : lineFeed ∉ content)
    (written : quote.Written settings.escape content literal) (after : Bytes) :
    let script := ScriptReader.ofScript access settings [59]
    (script (quote.select literal ++ after)).outcome =
      ⟨⟨quote.select literal, 1, 1, .sql⟩ :: (script after).outcome.statements, none⟩ := by
  intro script
  have hdelimiter : usableDelimiter [59] = [59] := by decide
  have hne : quote.select literal ≠ [] := by simp [Quote.select]
  have hlast : (quote.select literal).getLast? ≠ some carriageReturn := by
    rw [quote.getLast?_select]
    decide
  have htext : joinLines (textLines (quote.select literal ++ after)) =
      quote.select literal ++ joinLines (textLines after) :=
    joinLines_textLines_append hne (written.oneLine_select oneLine) hlast after
  simp only [script, ScriptReader.ofScript_outcome_of_holds access settings _ holds, hdelimiter,
    htext, written.onePass_select own oneLine]

/-- A content of quotes, delimiters, comment marks and the escape, with a directive after it. -/
theorem drain_literal_of_marks :
    let content := Bytes.ofText "';\\'--/*#\""
    let literal := Quote.single.escaped 92 content
    let after := Bytes.ofText "delimiter $\na$"
    let script := ScriptReader.ofScript .buffered default [59]
    let statement := Quote.single.select literal
    (Access.buffered = .buffered → 1 ≤ (default : Settings).capacity) ∧
      (default : Settings).escape ≠ Quote.single.byte ∧ lineFeed ∉ content ∧
      Quote.single.Written (default : Settings).escape content literal ∧
      (script (statement ++ after)).outcome =
        ⟨[⟨statement, 1, 1, .sql⟩, ⟨Bytes.ofText "delimiter $", 1, 1, .directive⟩,
          ⟨Bytes.ofText "a$", 2, 2, .sql⟩], none⟩ := by
  intro content literal after script statement
  have holds : Access.buffered = .buffered → 1 ≤ (default : Settings).capacity := by decide
  have own : (default : Settings).escape ≠ Quote.single.byte := by decide
  have oneLine : lineFeed ∉ content := by decide
  have written : Quote.single.Written (default : Settings).escape content literal :=
    .escaped (.inl (by decide))
  have hafter : (script after).outcome.statements =
      [⟨Bytes.ofText "delimiter $", 1, 1, .directive⟩, ⟨Bytes.ofText "a$", 2, 2, .sql⟩] := by
    decide +kernel
  refine ⟨holds, own, oneLine, written, ?_⟩
  rw [← hafter]
  exact drain_literal .buffered holds own oneLine written after

/-- With a line feed as the escape, a quote byte after it closes the literal. -/
theorem drain_literal_escaped_by_lineFeed :
    let settings := Settings.withEscape default lineFeed
    let content := Bytes.ofText "'"
    let literal := Quote.single.escaped settings.escape content
    let statement := Quote.single.select literal
    let after := Bytes.ofText "x;"
    let script := fun text => (ScriptReader.ofScript .buffered settings [59] text).outcome
    Quote.ofByte? settings.escape = none ∧ 1 ≤ settings.capacity ∧ lineFeed ∉ content ∧
      (script (statement ++ after)).statements ≠
        ⟨statement, 1, 1, .sql⟩ :: (script after).statements := by
  decide +kernel

end SqlScript

import Mathlib.Data.List.Forall2
import SqlScript.Proofs.Directives

namespace SqlScript

/-- Tab, line feed, vertical tab, form feed, carriage return and space. -/
def spaces : Bytes := [9, 10, 11, 12, 13, 32]

/-- Whether bytes are the word of a directive, each letter of it a small or a capital one. -/
def IsDirectiveWord (word : Bytes) : Prop :=
  List.Forall₂ (fun b letters => b = letters.1 ∨ b = letters.2) word
    ((Bytes.ofText "delimiter").zip (Bytes.ofText "DELIMITER"))

/-- A line cut into white space, the word of a directive, white space, and the delimiter, which is
all that is left. -/
@[ext]
structure Directive where
  indent : Bytes
  word : Bytes
  gap : Bytes
  delimiter : Bytes
  indent_spaces : ∀ b ∈ indent, b ∈ spaces
  word_letters : IsDirectiveWord word
  gap_ne_nil : gap ≠ []
  gap_spaces : ∀ b ∈ gap, b ∈ spaces
  delimiter_begins : ∃ b ∈ delimiter.head?, b ∉ spaces

def Directive.line (directive : Directive) : Bytes :=
  directive.indent ++ (directive.word ++ (directive.gap ++ directive.delimiter))

theorem mem_spaces_iff {b : UInt8} : b ∈ spaces ↔ isSpace b = true := by
  simp [spaces, isSpace_iff]

/-- Only a letter goes to a small letter, from either case. -/
theorem smallLetter_eq_iff {b small capital : UInt8} (letter : 97 ≤ small ∧ small ≤ 122)
    (pair : small = capital + 32) : smallLetter b = small ↔ b = small ∨ b = capital := by
  have hb := b.toNat_lt
  have hc := capital.toNat_lt
  subst pair
  simp only [UInt8.le_iff_toNat_le, UInt8.toNat_add, UInt8.reduceToNat] at letter
  simp only [smallLetter, Bool.and_eq_true, decide_eq_true_eq, UInt8.le_iff_toNat_le,
    ← UInt8.toNat_inj, UInt8.toNat_add, UInt8.reduceToNat]
  split
  next =>
    simp only [UInt8.toNat_add, UInt8.reduceToNat]
    omega
  next => omega

theorem map_smallLetter_eq_iff {letters : List (UInt8 × UInt8)} {word : Bytes}
    (pairs : ∀ pair ∈ letters, (97 ≤ pair.1 ∧ pair.1 ≤ 122) ∧ pair.1 = pair.2 + 32) :
    word.map smallLetter = letters.map Prod.fst ↔
      List.Forall₂ (fun b pair => b = pair.1 ∨ b = pair.2) word letters := by
  rw [← List.forall₂_eq_eq_eq, List.forall₂_map_left_iff, List.forall₂_map_right_iff]
  induction letters generalizing word with
  | nil => simp
  | cons pair letters ih =>
    rw [List.forall_mem_cons] at pairs
    obtain ⟨⟨letter, capital⟩, hpairs⟩ := pairs
    simp only [List.forall₂_cons_right_iff, smallLetter_eq_iff letter capital, ih hpairs]

theorem isDirectiveWord_iff {word : Bytes} :
    IsDirectiveWord word ↔ word.map smallLetter = directiveWord := by
  have pairs : ((Bytes.ofText "delimiter").zip (Bytes.ofText "DELIMITER")).Forall
      fun pair => (97 ≤ pair.1 ∧ pair.1 ≤ 122) ∧ pair.1 = pair.2 + 32 := by decide
  exact (map_smallLetter_eq_iff (List.forall_iff_forall_mem.mp pairs)).symm

theorem afterWord?_eq_some_iff {word bytes rest : Bytes} :
    afterWord? word bytes = some rest ↔
      ∃ front, bytes = front ++ rest ∧ front.map smallLetter = word := by
  fun_induction afterWord? word bytes with
  | case1 bytes => simp
  | case2 w word => simp
  | case3 word b bytes ih =>
    rw [ih]
    constructor
    · rintro ⟨front, rfl, rfl⟩
      exact ⟨b :: front, rfl, rfl⟩
    · rintro ⟨front, hbytes, hfront⟩
      cases front with
      | nil => simp at hfront
      | cons c front =>
        exact ⟨front, (List.cons.inj hbytes).2, (List.cons.inj hfront).2⟩
  | case4 w word b bytes hb =>
    refine iff_of_false (by simp) ?_
    rintro ⟨front, hbytes, hfront⟩
    cases front with
    | nil => simp at hfront
    | cons c front =>
      rw [(List.cons.inj hbytes).1] at hb
      exact hb (List.cons.inj hfront).1

/-- White space ends where it is followed by something else. -/
theorem spaces_append {gap rest : Bytes} (hg : ∀ b ∈ gap, b ∈ spaces)
    (hr : ∃ b ∈ rest.head?, b ∉ spaces) :
    (gap ++ rest).takeWhile isSpace = gap ∧ (gap ++ rest).dropWhile isSpace = rest := by
  have hall : ∀ b ∈ gap, isSpace b = true := fun b hb => mem_spaces_iff.mp (hg b hb)
  obtain ⟨b, hb, hspace⟩ := hr
  obtain ⟨rest, rfl⟩ := List.head?_eq_some_iff.mp hb
  have hnot : isSpace b ≠ true := fun h => hspace (mem_spaces_iff.mpr h)
  rw [List.takeWhile_append_of_pos hall, List.dropWhile_append_of_pos hall,
    List.takeWhile_cons_of_neg hnot, List.dropWhile_cons_of_neg hnot, List.append_nil]
  exact ⟨rfl, rfl⟩

namespace Directive

variable (directive : Directive)

theorem length_word : directive.word.length = 9 := directive.word_letters.length_eq

theorem word_begins (rest : Bytes) : ∃ b ∈ (directive.word ++ rest).head?, b ∉ spaces := by
  obtain ⟨indent, word, gap, delimiter, -, letters, -, -, -⟩ := directive
  cases letters with
  | cons first letters =>
    refine ⟨_, rfl, ?_⟩
    rcases first with rfl | rfl <;> decide

theorem indent_eq : directive.indent = directive.line.takeWhile isSpace :=
  (spaces_append directive.indent_spaces (directive.word_begins _)).1.symm

theorem dropWhile_line : directive.line.dropWhile isSpace =
    directive.word ++ (directive.gap ++ directive.delimiter) :=
  (spaces_append directive.indent_spaces (directive.word_begins _)).2

theorem word_eq : directive.word = (directive.line.dropWhile isSpace).take 9 := by
  rw [dropWhile_line, List.take_left' directive.length_word]

theorem drop_line : (directive.line.dropWhile isSpace).drop 9 =
    directive.gap ++ directive.delimiter := by
  rw [dropWhile_line, List.drop_left' directive.length_word]

/-- A line is cut into a directive in one way only. -/
theorem eq_of_line_eq {first second : Directive} (h : first.line = second.line) :
    first = second := by
  have hgap := spaces_append first.gap_spaces first.delimiter_begins
  have hgap' := spaces_append second.gap_spaces second.delimiter_begins
  rw [← drop_line, h, drop_line] at hgap
  ext1
  · rw [indent_eq, h, indent_eq]
  · rw [word_eq, h, word_eq]
  · rw [← hgap.1, hgap'.1]
  · rw [← hgap.2, hgap'.2]

theorem newDelimiter?_line : newDelimiter? directive.line = some directive.delimiter := by
  have hword : afterWord? directiveWord (directive.line.dropWhile isSpace) =
      some (directive.gap ++ directive.delimiter) :=
    afterWord?_eq_some_iff.mpr ⟨directive.word, directive.dropWhile_line,
      isDirectiveWord_iff.mp directive.word_letters⟩
  obtain ⟨b, gap, hgap⟩ := List.exists_cons_of_ne_nil directive.gap_ne_nil
  have hspaces := directive.gap_spaces
  rw [hgap, List.forall_mem_cons] at hspaces
  have hrest := (spaces_append hspaces.2 directive.delimiter_begins).2
  have hne : directive.delimiter ≠ [] := by
    obtain ⟨c, hc, -⟩ := directive.delimiter_begins
    rintro hnil
    simp [hnil] at hc
  rw [newDelimiter?, hword, Option.bind_some, hgap]
  exact afterSpaces?_eq_some_iff.mpr ⟨b, gap ++ directive.delimiter, rfl,
    mem_spaces_iff.mp hspaces.1, hrest, hne⟩

end Directive

/-- What is left when white space is dropped does not begin with white space. -/
theorem dropWhile_begins {bytes : Bytes} (hne : bytes.dropWhile isSpace ≠ []) :
    ∃ b ∈ (bytes.dropWhile isSpace).head?, b ∉ spaces := by
  obtain ⟨b, rest, heq⟩ := List.exists_cons_of_ne_nil hne
  have hnot := List.head?_dropWhile_not isSpace bytes
  rw [heq, List.head?_cons] at hnot
  refine ⟨b, by rw [heq]; rfl, fun hb => ?_⟩
  simp [mem_spaces_iff.mp hb] at hnot

theorem exists_directive {line delimiter : Bytes} (h : newDelimiter? line = some delimiter) :
    ∃ directive : Directive, directive.line = line ∧ directive.delimiter = delimiter := by
  obtain ⟨rest, hword, hspaces⟩ := Option.bind_eq_some_iff.mp h
  obtain ⟨front, hline, hfront⟩ := afterWord?_eq_some_iff.mp hword
  obtain ⟨b, gap, rfl, hb, rfl, hne⟩ := afterSpaces?_eq_some_iff.mp hspaces
  have htaken : ∀ {bytes : Bytes}, ∀ c ∈ bytes.takeWhile isSpace, c ∈ spaces := fun c hc =>
    mem_spaces_iff.mpr (List.all_eq_true.mp List.all_takeWhile c hc)
  have hgap : ∀ c ∈ b :: gap.takeWhile isSpace, c ∈ spaces :=
    List.forall_mem_cons.mpr ⟨mem_spaces_iff.mpr hb, htaken⟩
  refine ⟨⟨line.takeWhile isSpace, front, b :: gap.takeWhile isSpace, gap.dropWhile isSpace,
    htaken, isDirectiveWord_iff.mpr hfront, List.cons_ne_nil _ _, hgap, dropWhile_begins hne⟩,
    ?_, rfl⟩
  rw [Directive.line, List.cons_append, List.takeWhile_append_dropWhile, ← hline,
    List.takeWhile_append_dropWhile]

/-- A line sets a delimiter where it is a directive with it, which it is in one way at most. -/
theorem newDelimiter?_reads_directives (line delimiter : Bytes) :
    (newDelimiter? line = some delimiter ↔
      ∃ directive : Directive, directive.line = line ∧ directive.delimiter = delimiter) ∧
    (∀ first second : Directive, first.line = line → second.line = line → first = second) ∧
    (newDelimiter? line = some delimiter →
      ∀ more, newDelimiter? (line ++ more) = some (delimiter ++ more)) := by
  refine ⟨⟨exists_directive, ?_⟩, ?_, newDelimiter?_append⟩
  · rintro ⟨directive, rfl, rfl⟩
    exact directive.newDelimiter?_line
  · intro first second hfirst hsecond
    exact Directive.eq_of_line_eq (hfirst.trans hsecond.symm)

example : newDelimiter? (Bytes.ofText "\x0b\tDeLiMiTeR\r $$ ") = some (Bytes.ofText "$$ ") := by
  decide

end SqlScript

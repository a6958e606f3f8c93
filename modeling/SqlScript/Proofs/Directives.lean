import Mathlib.Data.List.Basic
import SqlScript.Delimiter

namespace SqlScript

theorem afterWord?_suffix {word bytes rest : Bytes} (h : afterWord? word bytes = some rest) :
    rest <:+ bytes := by
  fun_induction afterWord? word bytes with
  | case1 bytes => cases h; exact List.suffix_refl _
  | case2 => simp at h
  | case3 word b bytes ih => exact (ih h).trans (List.suffix_cons b bytes)
  | case4 => simp at h

theorem afterWord?_append {word bytes rest : Bytes} (h : afterWord? word bytes = some rest)
    (more : Bytes) : afterWord? word (bytes ++ more) = some (rest ++ more) := by
  fun_induction afterWord? word bytes with
  | case1 bytes => cases h; rfl
  | case2 => simp at h
  | case3 word b bytes ih => simpa [afterWord?] using ih h
  | case4 => simp at h

/-- After spaces stands what is left when all of them are dropped, if anything is. -/
theorem afterSpaces?_eq_some_iff {bytes delimiter : Bytes} :
    afterSpaces? bytes = some delimiter ↔
      ∃ b rest, bytes = b :: rest ∧ isSpace b = true ∧ rest.dropWhile isSpace = delimiter ∧
        delimiter ≠ [] := by
  cases bytes with
  | nil => simp [afterSpaces?]
  | cons b rest =>
    simp only [afterSpaces?]
    constructor
    · intro h
      split at h
      next hb =>
        split at h
        next => simp at h
        next hne =>
          cases h
          exact ⟨b, rest, rfl, hb, rfl, hne⟩
      next => simp at h
    · rintro ⟨_, _, heq, hb, rfl, hne⟩
      obtain ⟨rfl, rfl⟩ := List.cons.inj heq
      rw [if_pos hb]
      split
      next hnil => exact absurd hnil hne
      next => rfl

theorem afterSpaces?_append {bytes delimiter : Bytes} (h : afterSpaces? bytes = some delimiter)
    (more : Bytes) : afterSpaces? (bytes ++ more) = some (delimiter ++ more) := by
  obtain ⟨b, rest, rfl, hb, rfl, hne⟩ := afterSpaces?_eq_some_iff.mp h
  have hsome : ¬(rest.dropWhile isSpace).isEmpty := by simpa using hne
  refine afterSpaces?_eq_some_iff.mpr ⟨b, rest ++ more, rfl, hb, ?_, by simp [hne]⟩
  rw [List.dropWhile_append, if_neg hsome]

theorem newDelimiter?_nil : newDelimiter? [] = none := by decide

/-- The delimiter that a directive sets has bytes and is what stands after a run of spaces. -/
theorem newDelimiter?_after_spaces {line delimiter : Bytes}
    (h : newDelimiter? line = some delimiter) :
    delimiter ≠ [] ∧ ∃ front spaces, line = front ++ (spaces ++ delimiter) ∧ spaces ≠ [] ∧
      ∀ b ∈ spaces, isSpace b = true := by
  obtain ⟨rest, hword, hspaces⟩ := Option.bind_eq_some_iff.mp h
  obtain ⟨b, rest, rfl, hb, rfl, hne⟩ := afterSpaces?_eq_some_iff.mp hspaces
  obtain ⟨front, rfl⟩ : b :: rest <:+ line :=
    (afterWord?_suffix hword).trans (List.dropWhile_suffix _)
  refine ⟨hne, front, b :: rest.takeWhile isSpace, ?_, List.cons_ne_nil _ _, ?_⟩
  · rw [List.cons_append, List.takeWhile_append_dropWhile]
  · rw [List.forall_mem_cons]
    exact ⟨hb, List.all_eq_true.mp List.all_takeWhile⟩

theorem newDelimiter?_ne_nil {line delimiter : Bytes} (h : newDelimiter? line = some delimiter) :
    delimiter ≠ [] :=
  (newDelimiter?_after_spaces h).1

theorem newDelimiter?_suffix {line delimiter : Bytes} (h : newDelimiter? line = some delimiter) :
    delimiter <:+ line := by
  obtain ⟨-, front, spaces, rfl, -, -⟩ := newDelimiter?_after_spaces h
  exact ⟨front ++ spaces, List.append_assoc _ _ _⟩

/-- A line that begins with a directive is one, and all that stands after it goes to the
delimiter. -/
theorem newDelimiter?_append {line delimiter : Bytes} (h : newDelimiter? line = some delimiter)
    (more : Bytes) : newDelimiter? (line ++ more) = some (delimiter ++ more) := by
  obtain ⟨rest, hword, hspaces⟩ := Option.bind_eq_some_iff.mp h
  have hne : ¬(line.dropWhile isSpace).isEmpty := by
    intro he
    rw [List.isEmpty_iff.mp he] at hword
    simp [directiveWord, afterWord?] at hword
  rw [newDelimiter?, List.dropWhile_append, if_neg hne, afterWord?_append hword]
  exact afterSpaces?_append hspaces more

theorem newDelimiter?_of_isPrefix {first line : Bytes} (h : newDelimiter? line = none)
    (hp : first <+: line) : newDelimiter? first = none := by
  obtain ⟨more, rfl⟩ := hp
  cases hf : newDelimiter? first with
  | none => rfl
  | some delimiter => simp [newDelimiter?_append hf more] at h

end SqlScript

import SqlScript.Pull
import SqlScript.Proofs.Lines

namespace SqlScript

def Draft.cleared (draft : Draft) (pending : Option Bytes) : Draft :=
  { draft with context := .code, pending, scanned := [], inProgress := false }

@[simp] theorem Draft.onLine_delimiter (draft : Draft) :
    draft.onLine.delimiter = draft.delimiter := by
  unfold onLine
  split <;> rfl

@[simp] theorem Draft.onLine_lineNumber (draft : Draft) :
    draft.onLine.lineNumber = draft.lineNumber := by
  unfold onLine
  split <;> rfl

/-- What a step comes to, with all that it depends on. -/
inductive StepOf (reader : ScriptReader) : Step → Prop
  | directive {line delimiter : Bytes} (pending : reader.draft.pending = some line)
      (idle : reader.draft.scanned = []) (code : reader.draft.context = .code)
      (parsed : newDelimiter? line = some delimiter) :
      StepOf reader (.found ({ reader with
        draft := { reader.draft with
          delimiter, firstLine := reader.draft.lineNumber }.cleared none }.holdDirective
        ⟨line, reader.draft.lineNumber, reader.draft.lineNumber, .directive⟩))
  | delimiter {line scanned rest : Bytes} (pending : reader.draft.pending = some line)
      (plain : reader.draft.takeDirective? line = none)
      (cut : scan reader.escape reader.draft.delimiter reader.draft.onLine.scanned
        reader.draft.context line = .delimiter scanned rest) :
      StepOf reader (.found ({ reader with
        draft := reader.draft.onLine.cleared (if rest.isEmpty then none else some rest) }.hold
        ⟨scanned.reverse, reader.draft.onLine.firstLine, reader.draft.lineNumber, .sql⟩))
  | lineEnd {line scanned : Bytes} {context : Context}
      (pending : reader.draft.pending = some line)
      (plain : reader.draft.takeDirective? line = none)
      (cut : scan reader.escape reader.draft.delimiter reader.draft.onLine.scanned
        reader.draft.context line = .lineEnd scanned context) :
      StepOf reader (.more { reader with
        draft := { reader.draft.onLine with
          scanned, context, pending := none, inProgress := true } })
  | line {line : Bytes} (pending : reader.draft.pending = none) (input : reader.input = .reading)
      (read : reader.lines.next.line = .ok (some line)) :
      StepOf reader (.more { reader with
        lines := reader.lines.next.reader
        log := reader.log ++ reader.lines.next.log
        draft := reader.draft.loadLine line reader.lines.next.reader.linesRead })
  | inputEnd (failure : Option Failure) (pending : reader.draft.pending = none)
      (input : reader.input = .reading)
      (read : reader.lines.next.line =
        match failure with
        | none => .ok none
        | some failure => .error failure) :
      StepOf reader (.more { reader with
        lines := reader.lines.next.reader
        log := reader.log ++ reader.lines.next.log
        input := .ended failure false })
  | remainder {failure : Option Failure} {asked : Bool} (pending : reader.draft.pending = none)
      (input : reader.input = .ended failure asked) (begun : reader.draft.scanned ≠ []) :
      StepOf reader (.found ({ reader with
        draft := { reader.draft with scanned := [], inProgress := false } }.hold
        ⟨reader.draft.bytes, reader.draft.firstLine, reader.draft.lineNumber, .sql⟩))
  | nothingLeft {failure : Option Failure} {asked : Bool} (pending : reader.draft.pending = none)
      (input : reader.input = .ended failure asked) (idle : reader.draft.scanned = []) :
      StepOf reader (.nothingLeft { reader with
        draft := { reader.draft with inProgress := false } })

theorem LineReader.noLine_of_end {reader : LineReader} {failure : Option Failure}
    (h : reader.next.line =
      match failure with
      | none => .ok none
      | some failure => .error failure) (line : Bytes) : reader.next.line ≠ .ok (some line) := by
  cases failure <;> simp [h]

theorem Draft.takeDirective?_eq_some {draft draft' : Draft} {line : Bytes} {statement : Statement}
    (h : draft.takeDirective? line = some (statement, draft')) :
    draft.scanned = [] ∧ draft.context = .code ∧ ∃ delimiter, newDelimiter? line = some delimiter ∧
      statement = ⟨line, draft.lineNumber, draft.lineNumber, .directive⟩ ∧
      draft' = { draft with delimiter, firstLine := draft.lineNumber }.cleared none := by
  unfold takeDirective? at h
  split at h
  next hc =>
    obtain ⟨delimiter, hd, h⟩ := Option.map_eq_some_iff.mp h
    obtain ⟨rfl, rfl⟩ := Prod.mk.inj h
    refine ⟨List.isEmpty_iff.mp hc.1, hc.2, delimiter, hd, ?_, ?_⟩
    · simp [Draft.bytes]
    · simp [cleared, hc.2]
  next => simp at h

theorem ScriptReader.stepOf (reader : ScriptReader) : StepOf reader reader.step := by
  unfold step
  split
  next line hp =>
    split
    next statement draft hd =>
      obtain ⟨hs, hc, delimiter, hn, rfl, rfl⟩ := Draft.takeDirective?_eq_some hd
      exact .directive hp hs hc hn
    next hd =>
      split
      next statement draft hs =>
        simp only [Draft.scanLine] at hs
        split at hs
        next scanned rest hcut =>
          obtain ⟨hst, rfl⟩ := Prod.mk.inj hs
          cases hst
          have h := StepOf.delimiter hp hd hcut
          rwa [← Draft.onLine_lineNumber] at h
        next => simp at hs
      next draft hs =>
        simp only [Draft.scanLine] at hs
        split at hs
        next => simp at hs
        next scanned context hcut =>
          obtain ⟨-, rfl⟩ := Prod.mk.inj hs
          exact .lineEnd hp hd hcut
  next hp =>
    split
    next hi =>
      unfold pullLine
      dsimp only
      split
      next line hl => exact .line hp hi hl
      next hl => exact .inputEnd none hp hi hl
      next failure hl => exact .inputEnd (some failure) hp hi hl
    next failure asked hi =>
      split
      next statement draft hr =>
        unfold Draft.takeRemainder at hr
        split at hr
        next => simp at hr
        next he =>
          obtain ⟨hs, rfl⟩ := Prod.mk.inj hr
          cases hs
          exact .remainder hp hi (by simpa using he)
      next draft hr =>
        unfold Draft.takeRemainder at hr
        split at hr
        next he =>
          obtain ⟨-, rfl⟩ := Prod.mk.inj hr
          exact .nothingLeft hp hi (by simpa using he)
        next => simp at hr

end SqlScript

import SqlScript.Delimiter
import SqlScript.Scan
import SqlScript.Statement

namespace SqlScript

/-- A statement in the making, with the delimiter in force and the part of the current line that is
still to be scanned. -/
structure Draft where
  delimiter : Bytes
  /-- What the last byte of the statement stands in. -/
  context : Context
  /-- What is left of the current line; `none` once all of it is scanned. -/
  pending : Option Bytes
  /-- The bytes of the statement so far, last one first. -/
  scanned : Bytes
  /-- Whether a line has been scanned since the last statement was finished. -/
  inProgress : Bool
  /-- The number of the current line. -/
  lineNumber : Nat
  /-- The number of the line on which the statement starts. -/
  firstLine : Nat

def Draft.withDelimiter (delimiter : Bytes) : Draft := ⟨delimiter, .code, none, [], false, 0, 0⟩

def Draft.bytes (draft : Draft) : Bytes := draft.scanned.reverse

theorem Draft.bytes_eq_nil_iff {draft : Draft} : draft.bytes = [] ↔ draft.scanned = [] :=
  List.reverse_eq_nil_iff

def Draft.loadLine (draft : Draft) (line : Bytes) (lineNumber : Nat) : Draft :=
  { draft with pending := some line, lineNumber }

/-- The draft as the current line goes on it: a statement without bytes starts on the line, any
other goes on after a line feed. -/
def Draft.onLine (draft : Draft) : Draft :=
  if draft.scanned.isEmpty then { draft with firstLine := draft.lineNumber }
  else { draft with scanned := lineFeed :: draft.scanned }

/-- The statement as it is, and a draft without one. -/
def Draft.finish (draft : Draft) (kind : StatementKind) : Statement × Draft :=
  (⟨draft.bytes, draft.firstLine, draft.lineNumber, kind⟩,
    { draft with scanned := [], inProgress := false })

/-- The statement that a directive makes of the pending line, which it is only where no statement
has begun. -/
def Draft.takeDirective? (draft : Draft) (line : Bytes) : Option (Statement × Draft) :=
  if draft.scanned.isEmpty ∧ draft.context = .code then
    (newDelimiter? line).map fun delimiter =>
      { draft with
        delimiter, pending := none, firstLine := draft.lineNumber,
        scanned := line.reverse }.finish .directive
  else none

/-- Scans the pending line: the statement that it ends, if it does, and the draft after that. -/
def Draft.scanLine (draft : Draft) (escape : UInt8) (line : Bytes) : Option Statement × Draft :=
  let begun := draft.onLine
  match scan escape draft.delimiter begun.scanned draft.context line with
  | .delimiter scanned rest =>
    let done :=
      { begun with
        scanned, context := .code, pending := if rest.isEmpty then none else some rest }.finish .sql
    (some done.1, done.2)
  | .lineEnd scanned context =>
    (none, { begun with scanned, context, pending := none, inProgress := true })

/-- The statement that the end of input leaves without a delimiter. -/
def Draft.takeRemainder (draft : Draft) : Option Statement × Draft :=
  if draft.scanned.isEmpty then (none, { draft with inProgress := false })
  else (some (draft.finish .sql).1, (draft.finish .sql).2)

/-- A bound on what can still be made of a draft without another line. -/
def Draft.weight (draft : Draft) : Nat :=
  (match draft.pending with
    | none => 0
    | some line => line.length + 2) +
  if draft.scanned.isEmpty then 0 else 1

theorem Draft.weight_of_pending_none {draft : Draft} (hp : draft.pending = none) :
    draft.weight ≤ 1 := by
  simp only [weight, hp]
  split <;> omega

theorem Draft.weight_of_pending_some {draft : Draft} {line : Bytes}
    (hp : draft.pending = some line) : line.length + 2 ≤ draft.weight := by
  simp only [weight, hp]
  omega

theorem Draft.weight_finish_of_pending_some {draft : Draft} {rest : Bytes}
    (hp : draft.pending = some rest) (kind : StatementKind) :
    (draft.finish kind).2.weight = rest.length + 2 := by
  simp [weight, finish, hp]

theorem Draft.loadLine_weight {draft : Draft} (hp : draft.pending = none) (line : Bytes)
    (lineNumber : Nat) :
    (draft.loadLine line lineNumber).weight = draft.weight + line.length + 2 := by
  change line.length + 2 + (if draft.scanned.isEmpty then 0 else 1) = _
  simp only [weight, hp]
  omega

theorem Draft.takeDirective?_weight {draft draft' : Draft} {line : Bytes} {statement : Statement}
    (hp : draft.pending = some line)
    (h : draft.takeDirective? line = some (statement, draft')) : draft'.weight < draft.weight := by
  have hw := weight_of_pending_some hp
  unfold takeDirective? at h
  split at h
  · obtain ⟨_, -, h⟩ := Option.map_eq_some_iff.mp h
    obtain ⟨-, rfl⟩ := Prod.mk.inj h
    exact Nat.lt_of_le_of_lt (weight_of_pending_none rfl) (by omega)
  · simp at h

theorem Draft.scanLine_weight (draft : Draft) (escape : UInt8) {line : Bytes}
    (hp : draft.pending = some line) : (draft.scanLine escape line).2.weight < draft.weight := by
  have hw := weight_of_pending_some hp
  unfold scanLine
  dsimp only
  split
  · next scanned rest h =>
    have hlt := (scan_delimiter h).2
    split
    · exact Nat.lt_of_le_of_lt (weight_of_pending_none rfl) (by omega)
    · rw [weight_finish_of_pending_some rfl]
      omega
  · exact Nat.lt_of_le_of_lt (weight_of_pending_none rfl) (by omega)

theorem Draft.takeRemainder_weight (draft : Draft) :
    draft.takeRemainder.2.weight ≤ draft.weight := by
  unfold takeRemainder
  split
  · exact Nat.le_refl _
  · simp only [finish, weight, List.isEmpty_nil, ↓reduceIte]
    omega

theorem Draft.takeRemainder_weight_some {draft : Draft} {statement : Statement}
    (h : draft.takeRemainder.1 = some statement) :
    draft.takeRemainder.2.weight < draft.weight := by
  unfold takeRemainder at h ⊢
  split
  · next he => simp [he] at h
  · next he => simp [he, finish, weight]

end SqlScript

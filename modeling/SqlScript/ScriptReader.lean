import SqlScript.Draft
import SqlScript.LineReader
import SqlScript.Settings

namespace SqlScript

/-- Whether there are lines to come, and if not, how the input ended and whether a failure has been
asked for. -/
inductive InputState
  | reading
  | ended (failure : Option Failure) (asked : Bool)

structure ScriptReader where
  dialect : Dialect
  escape : UInt8
  lines : LineReader
  draft : Draft
  input : InputState
  /-- The statement found last, until it is taken. -/
  ready : Option Statement
  /-- All log entries so far, first one first. -/
  log : Array LogEntry

def ScriptReader.unbuffered (source : Source) (settings : Settings) : ScriptReader where
  dialect := settings.dialect
  escape := settings.escape
  lines := .ofSource source
  draft := .withDelimiter settings.delimiter
  input := .reading
  ready := none
  log := #[]

def ScriptReader.buffered (source : Source) (settings : Settings) : ScriptReader :=
  .unbuffered (Source.buffered settings.capacity source) settings

/-- A script in memory, read by the settings that hold if nothing else is said. -/
def ScriptReader.ofText (text : String) : ScriptReader :=
  .buffered (Source.ofBytes (Bytes.ofText text)) default

def ScriptReader.lineNumber (reader : ScriptReader) : Nat := reader.lines.linesRead

def ScriptReader.delimiter (reader : ScriptReader) : Bytes := reader.draft.delimiter

def ScriptReader.failure (reader : ScriptReader) : Option Failure :=
  match reader.input with
  | .reading => none
  | .ended failure _ => failure

def ScriptReader.isExhausted (reader : ScriptReader) : Bool :=
  match reader.input with
  | .reading => false
  | .ended .. => true

def ScriptReader.pullLine (reader : ScriptReader) : ScriptReader :=
  let read := reader.lines.next
  let reader := { reader with lines := read.reader, log := reader.log ++ read.log }
  match read.line with
  | .ok (some line) => { reader with draft := reader.draft.loadLine line read.reader.linesRead }
  | .ok none => { reader with input := .ended none false }
  | .error failure => { reader with input := .ended (some failure) false }

def ScriptReader.hold (reader : ScriptReader) (statement : Statement) : ScriptReader :=
  { reader with
    ready := some statement
    log := reader.log.push
      (.statementReady statement.firstLine statement.lastLine statement.length) }

/-- Holds a directive ready, which has set the delimiter. -/
def ScriptReader.holdDirective (reader : ScriptReader) (statement : Statement) : ScriptReader :=
  { reader with
    log := reader.log.push (.delimiterChanged statement.lastLine reader.delimiter) }.hold statement

inductive Step
  | found (reader : ScriptReader)
  | nothingLeft (reader : ScriptReader)
  | more (reader : ScriptReader)

/-- One step towards the next statement: a pending line is taken or scanned, else one is read. -/
def ScriptReader.step (reader : ScriptReader) : Step :=
  match reader.draft.pending with
  | some line =>
    match reader.draft.takeDirective? line with
    | some (statement, draft) => .found ({ reader with draft }.holdDirective statement)
    | none =>
      match reader.draft.scanLine reader.escape line with
      | (some statement, draft) => .found ({ reader with draft }.hold statement)
      | (none, draft) => .more { reader with draft }
  | none =>
    match reader.input with
    | .reading => .more reader.pullLine
    | .ended .. =>
      match reader.draft.takeRemainder with
      | (some statement, draft) => .found ({ reader with draft }.hold statement)
      | (none, draft) => .nothingLeft { reader with draft }

/-- How much an end of input still holds: itself, and the question for its failure. -/
def InputState.weight : InputState → Nat
  | .reading => 2
  | .ended _ false => 1
  | .ended _ true => 0

/-- A bound on the steps, statements and questions that a reader can still go through. -/
def ScriptReader.weight (reader : ScriptReader) : Nat :=
  3 * reader.lines.weight + reader.draft.weight + reader.input.weight +
    if reader.ready.isSome then 1 else 0

theorem ScriptReader.pullLine_weight {reader : ScriptReader} (hp : reader.draft.pending = none)
    (hi : reader.input = .reading) : reader.pullLine.weight < reader.weight := by
  unfold pullLine
  dsimp only
  split
  · next line h =>
    have := LineReader.next_weight h
    simp only [weight, Draft.loadLine_weight hp]
    omega
  all_goals
    have := LineReader.next_weight_le reader.lines
    simp only [weight, hi, InputState.weight]
    omega

theorem ScriptReader.step_more {reader next : ScriptReader} (h : reader.step = .more next) :
    next.weight < reader.weight := by
  unfold step at h
  split at h
  · next line hp =>
    split at h
    · simp at h
    · split at h
      · simp at h
      · next draft hs =>
        cases h
        have := reader.draft.scanLine_weight reader.escape hp
        simp only [hs] at this
        simp only [weight]
        omega
  · next hp =>
    split at h
    · next hi => cases h; exact pullLine_weight hp hi
    · split at h <;> simp at h

theorem ScriptReader.step_found {reader next : ScriptReader} (h : reader.step = .found next) :
    { next with ready := none }.weight < reader.weight := by
  unfold step at h
  split at h
  · next line hp =>
    split at h
    · next statement draft hd =>
      cases h
      have := Draft.takeDirective?_weight hp hd
      simp only [weight, holdDirective, hold, Option.isSome_none, Bool.false_eq_true, ↓reduceIte]
      omega
    · split at h
      · next statement draft hs =>
        cases h
        have := reader.draft.scanLine_weight reader.escape hp
        simp only [hs] at this
        simp only [weight, hold, Option.isSome_none, Bool.false_eq_true, ↓reduceIte]
        omega
      · simp at h
  · split at h
    · simp at h
    · split at h
      · next statement draft hr =>
        cases h
        have := Draft.takeRemainder_weight_some (congrArg Prod.fst hr)
        simp only [hr] at this
        simp only [weight, hold, Option.isSome_none, Bool.false_eq_true, ↓reduceIte]
        omega
      · simp at h

theorem ScriptReader.step_nothingLeft {reader next : ScriptReader}
    (h : reader.step = .nothingLeft next) : next.weight ≤ reader.weight := by
  unfold step at h
  split at h
  · split at h
    · simp at h
    · split at h <;> simp at h
  · split at h
    · simp at h
    · split at h
      · simp at h
      · next draft hr =>
        cases h
        have := reader.draft.takeRemainder_weight
        simp only [hr] at this
        simp only [weight]
        omega

/-- Makes the next statement ready, unless one is; tells whether there is one. -/
def ScriptReader.advance (reader : ScriptReader) : Bool × ScriptReader :=
  if reader.ready.isSome then (true, reader)
  else
    match _ : reader.step with
    | .found next => (true, next)
    | .nothingLeft next => (false, next)
    | .more next => next.advance
termination_by reader.weight
decreasing_by exact step_more ‹_›

/-- Gives out the statement that is ready, or an empty one if none is. -/
def ScriptReader.take (reader : ScriptReader) : Statement × ScriptReader :=
  (reader.ready.getD default, { reader with ready := none })

theorem ScriptReader.advance_weight {reader next : ScriptReader}
    (h : reader.advance = (true, next)) : next.take.2.weight < reader.weight := by
  fun_induction advance reader with
  | case1 reader hr =>
    cases h
    simp [take, weight, hr]
  | case2 reader _ _ hs => cases h; exact step_found hs
  | case3 => simp at h
  | case4 reader _ next' hs ih => exact Nat.lt_trans (ih h) (step_more hs)

theorem ScriptReader.advance_weight_le {reader next : ScriptReader}
    (h : reader.advance = (false, next)) : next.weight ≤ reader.weight := by
  fun_induction advance reader with
  | case1 => simp at h
  | case2 => simp at h
  | case3 _ _ _ hs => cases h; exact step_nothingLeft hs
  | case4 _ _ _ hs ih => exact Nat.le_trans (ih h) (Nat.le_of_lt (step_more hs))

end SqlScript

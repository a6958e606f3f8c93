import SqlScript.QuotedText
import SqlScript.Utf8

namespace SqlScript

/-- What is worth telling about a script while it is read. -/
inductive LogEntry
  /-- The directive on this line set this delimiter. -/
  | delimiterChanged (line : Nat) (delimiter : Bytes)
  /-- A statement of so many bytes, on these lines, is ready. -/
  | statementReady (firstLine lastLine length : Nat)
  /-- Reading failed for this cause after so many lines. -/
  | readFailed (linesRead : Nat) (cause : String)
  deriving DecidableEq, Repr

/-- How much an entry matters, by the usual names of log levels. -/
def LogEntry.level : LogEntry → String
  | .delimiterChanged .. => "DEBUG"
  | .statementReady .. => "TRACE"
  | .readFailed .. => "WARN"

def LogEntry.text : LogEntry → String
  | .delimiterChanged line delimiter =>
    s!"line {line}: delimiter changed to {quotedText (lossyText delimiter)}"
  | .statementReady firstLine lastLine length =>
    s!"statement at lines {firstLine}-{lastLine} ({length} bytes)"
  | .readFailed linesRead cause => s!"line source failed after {linesRead} lines: {cause}"

end SqlScript

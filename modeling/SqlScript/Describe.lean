import SqlScript.ScriptReader

namespace SqlScript

def listText (items : List String) : String := "[" ++ ", ".intercalate items ++ "]"

/-- Bytes as decimal numbers in brackets. -/
def bytesText (bytes : Bytes) : String := listText (bytes.map fun b => toString b.toNat)

def optionText : Option String → String
  | none => "None"
  | some text => "Some(" ++ text ++ ")"

/-- A name and, in braces, fields with their values. -/
def recordText (name : String) (fields : List (String × String)) : String :=
  name ++ " \x7b " ++ ", ".intercalate (fields.map fun (field, value) => field ++ ": " ++ value) ++
    " \x7d"

def Quote.name : Quote → String
  | .single => "Single"
  | .double => "Double"
  | .backtick => "Backtick"

def Context.quote? : Context → Option Quote
  | .quoted quote _ => some quote
  | _ => none

/-- Whether the next byte is literal because an escape stands right before it. -/
def Context.isEscaped : Context → Bool
  | .quoted _ escaped => escaped
  | _ => false

def Context.isComment : Context → Bool
  | .comment => true
  | _ => false

def Failure.describe : Failure → String
  | .unopened what => recordText "FileNotFound" [("path", quotedText what)]
  | .unread cause => "IoError(" ++ quotedText cause ++ ")"
  | .unknownDialect name => "UnknownDialect(" ++ quotedText name ++ ")"

def Draft.describe (draft : Draft) : String :=
  recordText "SplitState" [
    ("delimiter", bytesText draft.delimiter),
    ("quote", optionText (draft.context.quote?.map Quote.name)),
    ("in_comment", toString draft.context.isComment),
    ("escape_pending", toString draft.context.isEscaped),
    ("pending", optionText (draft.pending.map bytesText)),
    ("statement", bytesText draft.bytes),
    ("in_progress", toString draft.inProgress),
    ("line_number", toString draft.lineNumber),
    ("first_line", toString draft.firstLine)]

/-- The state of a reader on one line, for finding faults. The statement that is ready is not part
of it. -/
def ScriptReader.describe (reader : ScriptReader) : String :=
  recordText "StatementCursor" [
    ("dialect", reader.dialect.name),
    ("state", reader.draft.describe),
    ("exhausted", toString reader.isExhausted),
    ("error", optionText (reader.failure.map Failure.describe))]

end SqlScript

import SqlScript.Utf8

namespace SqlScript

/-- Whether a statement is SQL or a line that changes the delimiter. -/
inductive StatementKind
  | sql
  | directive
  deriving DecidableEq, Repr

instance : Inhabited StatementKind := ⟨.sql⟩

/-- A statement as it stands in a script, its lines joined by line feeds, with the numbers of its
first and its last line. -/
structure Statement where
  bytes : Bytes
  firstLine : Nat
  lastLine : Nat
  kind : StatementKind
  deriving DecidableEq, Repr, Inhabited

def Statement.strictText (statement : Statement) : Except Utf8Fault String :=
  utf8Text statement.bytes

/-- The text, with U+FFFD wherever the bytes are not UTF-8. -/
def Statement.text (statement : Statement) : String := lossyText statement.bytes

instance : ToString Statement := ⟨Statement.text⟩

/-- The text taken strictly where that succeeds and with U+FFFD where it does not. -/
def Statement.ownText (statement : Statement) : String :=
  match utf8Text statement.bytes with
  | .ok text => text
  | .error _ => lossyText statement.bytes

/-- The text of a statement is that of its bytes, whichever way it is asked for. -/
theorem Statement.ownText_eq_text (statement : Statement) : statement.ownText = statement.text := by
  unfold ownText text
  split
  · next text h => exact (lossyText_of_utf8Text h).symm
  · rfl

def Statement.isDirective (statement : Statement) : Bool := statement.kind == .directive

def Statement.isBlank (statement : Statement) : Bool := statement.bytes.all isBlankByte

def Statement.length (statement : Statement) : Nat := statement.bytes.length

def Statement.isEmpty (statement : Statement) : Bool := statement.bytes.isEmpty

end SqlScript

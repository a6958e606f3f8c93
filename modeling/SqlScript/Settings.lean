import SqlScript.Bytes
import SqlScript.Dialect

namespace SqlScript

structure Settings where
  dialect : Dialect
  /-- The byte that makes the next one literal inside quotes. -/
  escape : UInt8
  /-- The bytes that end a statement until a directive changes them; if there are none, nothing
  ends one but the end of input. -/
  delimiter : Bytes
  /-- The largest number of bytes taken from the input in one read. -/
  capacity : Nat
  deriving DecidableEq, Repr

/-- A backslash escapes, a semicolon ends a statement, and 64 KiB are read at once. -/
def Settings.forDialect (dialect : Dialect) : Settings := ⟨dialect, 92, [59], 65536⟩

instance : Inhabited Settings := ⟨.forDialect default⟩

def Settings.withEscape (settings : Settings) (escape : UInt8) : Settings :=
  { settings with escape }

/-- The settings with another delimiter; an empty one leaves them as they are. -/
def Settings.withDelimiter (settings : Settings) (delimiter : Bytes) : Settings :=
  if delimiter.isEmpty then settings else { settings with delimiter }

/-- The settings with another capacity; zero counts as one. -/
def Settings.withCapacity (settings : Settings) (capacity : Nat) : Settings :=
  { settings with capacity := max capacity 1 }

end SqlScript

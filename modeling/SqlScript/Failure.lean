namespace SqlScript

/-- Why a script could not be split, or not to its end. -/
inductive Failure
  /-- The file cannot be opened; the text names the path and the cause. -/
  | unopened (what : String)
  | unread (cause : String)
  | unknownDialect (name : String)
  deriving DecidableEq, Repr

def Failure.message : Failure → String
  | .unopened what => "file not found or inaccessible: " ++ what
  | .unread cause => "I/O error: " ++ cause
  | .unknownDialect name => "unknown dialect: " ++ name

instance : ToString Failure := ⟨Failure.message⟩

end SqlScript

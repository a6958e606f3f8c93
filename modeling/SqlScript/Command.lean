import SqlScript.Split

namespace SqlScript

structure Report where
  exitCode : UInt8
  output : String
  errors : String
  deriving DecidableEq, Repr

/-- What the command is asked for: the file at a path, split for a dialect. -/
structure Invocation where
  path : String
  dialect : Dialect
  deriving DecidableEq, Repr

/-- What is shown where no path is given. -/
def usage : String := "usage: split_file <path> [dialect]"

/-- Reads the arguments: a path and, if there are more, a dialect; all further ones are passed
over. -/
def Invocation.ofArguments : List String → Except Report Invocation
  | [] => .error ⟨2, "", usage ++ "\n"⟩
  | [path] => .ok ⟨path, default⟩
  | path :: name :: _ =>
    match Dialect.ofName name with
    | .ok dialect => .ok ⟨path, dialect⟩
    | .error failure => .error ⟨2, "", failure.message ++ "\n"⟩

def numberedLine (number : Nat) (statement : Statement) : String :=
  s!"{number} {statement}\n"

/-- Prints every statement with its number, and the failure that ended the input, if one did. -/
def Invocation.run (invocation : Invocation) (opened : Except String Source) : Report :=
  match readerOf invocation.path opened (.forDialect invocation.dialect) with
  | .error failure => ⟨1, "", failure.message ++ "\n"⟩
  | .ok reader =>
    let printed := reader.fold
      (fun (output, number) statement => (output ++ numberedLine number statement, number + 1))
      ("", 1)
    match printed.2.failure with
    | none => ⟨0, printed.1.1, ""⟩
    | some failure => ⟨1, printed.1.1, failure.message ++ "\n"⟩

/-- Answers arguments, with the file that they name opened by `openPath`. -/
def respond {m : Type → Type} [Monad m] (openPath : String → m (Except String Source))
    (arguments : List String) : m Report := do
  match Invocation.ofArguments arguments with
  | .error report => return report
  | .ok invocation => return invocation.run (← openPath invocation.path)

section

variable {m : Type → Type} [Monad m] (openPath : String → m (Except String Source))
  {arguments : List String}

end

def FileTree.runCommand (tree : FileTree) (arguments : List String) : Report :=
  Id.run (respond (fun path => pure ((tree.openPath path).mapError OpenFault.text)) arguments)

end SqlScript

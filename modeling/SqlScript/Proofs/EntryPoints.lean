import SqlScript.Command
import SqlScript.Proofs.Delivery

namespace SqlScript

/-- The count of statements, or the failure in its place. -/
def Outcome.count (outcome : Outcome) : Except Failure Nat :=
  match outcome.failure with
  | none => .ok outcome.statements.length
  | some failure => .error failure

/-- Statements as they are printed, each on a line that its number begins. -/
def printedFrom (number : Nat) : List Statement → String
  | [] => ""
  | statement :: statements =>
    toString number ++ " " ++ statement.text ++ "\n" ++ printedFrom (number + 1) statements

/-- What the command shows of an input that has come to this. -/
def Outcome.report (outcome : Outcome) : Report :=
  match outcome.failure with
  | none => ⟨0, printedFrom 1 outcome.statements, ""⟩
  | some failure => ⟨1, printedFrom 1 outcome.statements, failure.message ++ "\n"⟩

/-- What there is to drain at a path. -/
def FileTree.drained (tree : FileTree) (dialect : Dialect) (path : String) :
    Except Failure Outcome :=
  match tree.openPath path with
  | .ok source => .ok (ScriptReader.buffered source (.forDialect dialect)).outcome
  | .error fault => .error (.unopened (path ++ ": " ++ fault.text))

namespace ScriptReader

end ScriptReader

namespace Invocation

end Invocation

namespace FileTree

variable (tree : FileTree) (dialect : Dialect) (path : String)

end FileTree

end SqlScript

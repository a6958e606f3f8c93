import SqlScript.Consume
import SqlScript.FileTree

namespace SqlScript

/-- The statements of a script in memory, as texts. -/
def splitText (text : String) : List String :=
  (ScriptReader.ofText text).drain.1.map Statement.ownText

/-- Hands every statement of a script to `f` and counts them; a failure takes the place of the
count. -/
def foldStatements {α : Type} (f : α → Statement → α) (value : α) (source : Source)
    (dialect : Dialect) : α × Except Failure Nat :=
  let folded := (ScriptReader.buffered source (.forDialect dialect)).fold
    (fun (value, count) statement => (f value statement, count + 1)) (value, 0)
  (folded.1.1,
    match folded.2.failure with
    | none => .ok folded.1.2
    | some failure => .error failure)

/-- A script reader on an opened input, or a failure that names the path. -/
def readerOf (path : String) (opened : Except String Source) (settings : Settings) :
    Except Failure ScriptReader :=
  match opened with
  | .ok source => .ok (.buffered source settings)
  | .error cause => .error (.unopened (path ++ ": " ++ cause))

def FileTree.reader (tree : FileTree) (path : String) (settings : Settings) :
    Except Failure ScriptReader :=
  readerOf path ((tree.openPath path).mapError OpenFault.text) settings

def FileTree.splitFile (tree : FileTree) (path : String) : Except Failure Outcome :=
  (tree.reader path default).map ScriptReader.outcome

/-- The statements of the file at a path as items, of which the last is a failure if reading
fails. -/
def FileTree.iterate (tree : FileTree) (path : String) :
    Except Failure (List (Except Failure Statement)) :=
  (tree.reader path default).map fun reader => reader.rest.1

/-- What splitting comes to for each of the paths, in their order. -/
def FileTree.splitFiles (tree : FileTree) (paths : List String) (dialect : Dialect) :
    List (Except Failure Outcome) :=
  paths.map fun path => (tree.reader path (.forDialect dialect)).map ScriptReader.outcome

end SqlScript

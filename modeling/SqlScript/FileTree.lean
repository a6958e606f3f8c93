import SqlScript.Source

namespace SqlScript

/-- What a name in a directory stands for; directories in it are empty. -/
inductive FileEntry
  | file (bytes : Bytes)
  | directory
  deriving DecidableEq, Repr

/-- A working directory as the names in it with what they stand for. -/
abbrev FileTree := List (String × FileEntry)

/-- Why a path cannot be opened. -/
inductive OpenFault
  | notFound
  | notDirectory
  | nameTooLong
  | nullInPath
  deriving DecidableEq, Repr

def OpenFault.text : OpenFault → String
  | .notFound => "No such file or directory (os error 2)"
  | .notDirectory => "Not a directory (os error 20)"
  | .nameTooLong => "File name too long (os error 36)"
  | .nullInPath => "file name contained an unexpected NUL byte"

/-- The cause of the failure that every read of a directory comes to. -/
def directoryReadFault : String := "Is a directory (os error 21)"

/-- Where a path has led so far. Outside of the working directory there is nothing but the way
up. -/
inductive Place
  | outside
  | working
  | inner
  | file (bytes : Bytes)

def FileTree.enter (tree : FileTree) (place : Place) (name : String) : Except OpenFault Place :=
  match place with
  | .file _ => .error .notDirectory
  | place =>
    if name = "" ∨ name = "." then .ok place
    else if name = ".." then
      match place with
      | .inner => .ok .working
      | _ => .ok .outside
    else if 255 < name.utf8ByteSize then .error .nameTooLong
    else
      match place with
      | .working =>
        match tree.lookup name with
        | some (.file bytes) => .ok (.file bytes)
        | some .directory => .ok .inner
        | none => .error .notFound
      | _ => .error .notFound

def pathNames (path : String) : List String := (path.toList.splitOn '/').map String.ofList

/-- Follows a path from the working directory, or from outside if it starts with a slash. -/
def FileTree.follow (tree : FileTree) (path : String) : Except OpenFault Place :=
  if path.toList.contains (Char.ofNat 0) then .error .nullInPath
  else if path = "" then .error .notFound
  else if 4096 ≤ path.utf8ByteSize then .error .nameTooLong
  else
    (pathNames path).foldlM tree.enter (if path.toList.head? = some '/' then .outside else .working)

/-- The input that a path opens. A directory opens too, but fails to be read. -/
def FileTree.openPath (tree : FileTree) (path : String) : Except OpenFault Source :=
  (tree.follow path).map fun place =>
    match place with
    | .file bytes => Source.ofBytes bytes
    | _ => [.failed directoryReadFault]

end SqlScript

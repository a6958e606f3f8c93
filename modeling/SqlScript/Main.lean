import SqlScript.Command

namespace SqlScript

/-- What the system says of a fault, told by its number where that is known. -/
def faultText : IO.Error → String
  | .noFileOrDirectory _ 2 _ => OpenFault.notFound.text
  | .inappropriateType _ 20 _ => OpenFault.notDirectory.text
  | .inappropriateType _ 21 _ => directoryReadFault
  | .invalidArgument _ 36 _ => OpenFault.nameTooLong.text
  | fault => toString fault

/-- The bytes of a file as one read; a failure to read it is part of the input. -/
def openFile (path : String) : IO (Except String Source) := do
  match ← (IO.FS.Handle.mk path .read).toBaseIO with
  | .error fault => return .error (faultText fault)
  | .ok handle =>
    match ← handle.readBinToEnd.toBaseIO with
    | .ok bytes => return .ok (Source.ofBytes bytes.data.toList)
    | .error fault => return .ok [.failed (faultText fault)]

end SqlScript

def main (arguments : List String) : IO UInt32 := do
  let report ← SqlScript.respond SqlScript.openFile arguments
  IO.print report.output
  IO.eprint report.errors
  return report.exitCode.toUInt32

import HamlTree.CommandLine

/-!
# Main -- the program on the file system

The program reads files and prints what `CommandLine.run` says.
-/

set_option autoImplicit false

namespace HamlTree

/-- A system error has this number, which may come with its sign turned. -/
def isErrorNumber (code number : UInt32) : Bool :=
  code == number || code == 0 - number

/-- Why the system could not read a file. -/
def FileError.ofIO : IO.Error → FileError
  | .noFileOrDirectory .. => .notFound
  | .inappropriateType _ code _ => if isErrorNumber code 20 then .notDirectory else .isDirectory
  | .invalidArgument _ code _ =>
    if isErrorNumber code 36 then .nameTooLong else .other "Invalid argument (os error 22)"
  | .permissionDenied .. => .other "Permission denied (os error 13)"
  | error => .other error.toString

/-- Read a file of the file system. -/
def readSystemFile (path : String) : IO FileContent := do
  try
    let bytes ← IO.FS.readBinFile path
    return .ok bytes.toList
  catch error => return .error (.ofIO error)

end HamlTree

open HamlTree in
/-- Run the program on the arguments it was started with. -/
def main (arguments : List String) : IO UInt32 := do
  let outcome ← CommandLine.run readSystemFile arguments
  (← IO.getStdout).putStr (String.ofList outcome.stdout)
  (← IO.getStderr).putStr (String.ofList outcome.stderr)
  return outcome.exit.toUInt32

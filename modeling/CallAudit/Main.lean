import CallAudit.CommandLine.Report

/-!
# The program

Reads the files that a command names, and prints its report.
-/

namespace CallAudit.CommandLine

/-- The files that a command reads. -/
def Task.paths : Task → List String
  | .query command => [command.calls]
  | .check command => [command.checks, command.calls]

/-- What is found at a path in the file system. A directory can be opened and then not be read, so its
    path is not part of the error; it is if a file stands in the way. -/
def viewPath (path : String) : IO FileView := do
  try
    return .file (← IO.FS.readBinFile path).toList
  catch
    | .inappropriateType none _ _ => return .unreadable .isADirectory
    | .inappropriateType (some _) _ _ => return .unreadable .notADirectory
    | _ => return .unreadable .noSuchFile

/-- Reads the files that a command names, and prints its report. -/
def run (arguments : List String) : IO UInt32 := do
  let paths := match Command.parse arguments with
    | .ok command => command.task.paths
    | .error _ => []
  let views ← paths.mapM fun path => return (path, ← viewPath path)
  let files : Files := fun path => (views.lookup path).getD (.unreadable .noSuchFile)
  let report := report arguments files
  (← IO.getStdout).putStr report.output
  (← IO.getStderr).putStr report.errors
  match report.ending with
  | .exit code => return code.toUInt32
  | .abort _ => return 1

end CallAudit.CommandLine

def main (arguments : List String) : IO UInt32 := CallAudit.CommandLine.run arguments

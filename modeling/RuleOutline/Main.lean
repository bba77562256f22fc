import RuleOutline.Command

/-! The program: it looks at the files that the command line names, and prints what comes of
it. -/
namespace RuleOutline

/-- Looks at what a path leads to. A directory can be opened but not read; an error that names the
file comes from opening it. -/
def lookAt (path : String) : IO (String × Except PathError FileEntry) := do
  try
    return (path, .ok (.file (← IO.FS.readBinFile path)))
  catch
    | .inappropriateType none .. => return (path, .ok .directory)
    | .inappropriateType (some _) .. => return (path, .error .blocked)
    | .invalidArgument .. => return (path, .error .tooLong)
    | _ => return (path, .error .missing)

end RuleOutline

/-- Runs the program on the files of the system. -/
def main (line : List String) : IO UInt32 := do
  let seen ← (RuleOutline.pathsOf line).mapM RuleOutline.lookAt
  let files : RuleOutline.Files := fun path => (seen.lookup path).getD (.error .missing)
  let outcome := RuleOutline.run files line
  (← IO.getStdout).putStr outcome.output
  (← IO.getStderr).putStr outcome.errors
  return outcome.code.toUInt32

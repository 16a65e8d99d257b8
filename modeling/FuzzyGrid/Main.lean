import FuzzyGrid.CommandLine

/-!
# The program

Reads the files that the arguments name, runs the command line on them, and
leaves behind what the run printed and the files it wrote.
-/

namespace FuzzyGrid.Program

/-- The text of a file, if it can be read. -/
def readFile? (path : String) : IO (Option String) := do
  try
    return some (← IO.FS.readFile path)
  catch _ =>
    return none

/-- Whether a path leads to a folder. -/
def isFolder (path : String) : IO Bool := do
  try
    let _ ← IO.FS.realPath (path ++ "/.")
    return true
  catch _ =>
    return false

/-- The path of every folder and of the file on the way of a path, from the
outermost on. -/
def stations (path : String) : List String :=
  let segments := path.splitOn "/"
  let start := if segments.head? = some "" then "/" else ""
  let names := segments.filter fun segment => segment != "" && segment != "."
  (names.foldl
    (fun (passed : String × List String) name =>
      let next := Workspace.entryPath passed.1 name
      (next, passed.2 ++ [next]))
    (start, [])).2

/-- Add what is found at a path to the known folders or files. -/
def explore (workspace : Workspace) (path : String) : IO Workspace := do
  if ← isFolder path then
    return { workspace with folders := workspace.folders ++ [path] }
  match ← readFile? path with
  | some text => return { workspace with files := workspace.files.insert path text }
  | none => return workspace

/-- Add what is found on the way of every path. -/
def exploreAll (workspace : Workspace) (paths : List String) : IO Workspace :=
  (paths.flatMap stations).foldlM explore workspace

/-- The files that the commands of a model may write. -/
def destinations (file : ModelFile Float) : List String :=
  file.commands.filterMap fun command => do
    match command.get? "OutFileName" with
    | some (.text path) => some path
    | _ => none

/-- What the run can see: the named files and the way to every destination. -/
def survey (args : List String) : IO Workspace := do
  let named ← exploreAll (Workspace.ofFiles []) (args.take 2)
  match CommandLine.load args named with
  | .ok (_, file) => exploreAll named (destinations file)
  | .error _ => return named

/-- Write a file if the run made or changed it. -/
def writeBack (before : Workspace) (entry : String × String) : IO Unit := do
  if before.files.get? entry.1 != some entry.2 then
    IO.FS.writeFile entry.1 entry.2

/-- Print the text of a run and write its files. -/
def leave (before after : Workspace) : IO Unit := do
  IO.print after.printed
  (← IO.getStdout).flush
  after.files.entries.forM (writeBack before)

/-- Leave a run that failed. -/
def fail (before after : Workspace) (fault : RunFault) : IO UInt32 := do
  leave before after
  IO.eprintln fault.display
  return fault.status

end FuzzyGrid.Program

open FuzzyGrid in
/-- Run the command line on the files of the system. -/
def main (args : List String) : IO UInt32 := do
  let before ← Program.survey args
  let start ← IO.monoMsNow
  match CommandLine.compute args before with
  | (after, .error fault) => Program.fail before after fault
  | (after, .ok evaluation) =>
    let time ← IO.monoMsNow
    match evaluation.print (", " ++ toString (time - start) ++ "ms") after with
    | (final, .error fault) => Program.fail before final fault
    | (final, .ok _) =>
      Program.leave before final
      return 0

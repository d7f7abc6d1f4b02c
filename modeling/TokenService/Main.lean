import TokenService.Startup

/-!
# The program

Starts the service with the variables of the process and those of the nearest file `.env`, logs what
it reports, and stops at the end of the standard input.
-/

set_option autoImplicit false
set_option relaxedAutoImplicit false

namespace TokenService.Main

/-- What is found at a path. -/
inductive Found
  | content (bytes : Bytes)
  | nothing
  | unreadable

/-- Looks for a file. A directory is none. -/
def lookFor (path : String) : IO Found := do
  try
    let content ← IO.FS.readBinFile path
    return .content content.toList
  catch
    | .noFileOrDirectory .. | .inappropriateType .. => return .nothing
    | _ => return .unreadable

/-- The variables of the process. -/
def readEnvironment : IO Environment := do
  match ← lookFor "/proc/self/environ" with
  | .content block => return .ofBlock block
  | .nothing | .unreadable => return []

/-- The path of the variable file of a directory, which the names on the way to it give from the
innermost on. -/
def filePath (names : List String) : String :=
  names.foldl (fun path name ↦ "/" ++ name ++ path) "/.env"

/-- The content of the nearest variable file: that of a directory, or else of those above it. -/
def findFile? (names : List String) : IO (Option Bytes) := do
  match ← lookFor (filePath names), names with
  | .content bytes, _ => return some bytes
  | .unreadable, _ => return none
  | .nothing, [] => return none
  | .nothing, _ :: above => findFile? above

/-- The names on the way to the directory of the process, from the innermost on. -/
def readDirectory : IO (List String) := do
  let path := toString (← IO.currentDir)
  return ((path.splitOn "/").filter fun name ↦ !name.isEmpty).reverse

/-- Waits for the end of the standard input. -/
partial def waitForEnd (input : IO.FS.Stream) : IO Unit := do
  let line ← input.getLine
  if line.isEmpty then return
  waitForEnd input

/-- Logs the events that pass a filter. -/
def log (filter : Event.Filter) (events : List Event) : IO Unit :=
  (Startup.logged filter events).forM fun line ↦ IO.println line

end TokenService.Main

open TokenService in
/-- Runs the service. -/
def main : IO UInt32 := do
  let file ← Main.findFile? (← Main.readDirectory)
  match Startup.launch (← Main.readEnvironment) file with
  | .error fault =>
    IO.eprintln fault.message
    return Startup.crashCode.toUInt32
  | .ok start =>
    Main.log start.filter start.events
    match start.outcome with
    | .error fault =>
      IO.eprint (Startup.complaint fault)
      return 1
    | .ok _ =>
      Main.waitForEnd (← IO.getStdin)
      Main.log start.filter Startup.stopping
      return 0

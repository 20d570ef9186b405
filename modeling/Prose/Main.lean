import Prose.Command.Run

/-!
# Command line

Everything that touches the world: the arguments, the environment and the files are read, the
command runs on them, and its report is printed. Only the files that the command needs are read.
-/

namespace Prose

/-- What is found at a path. -/
def lookUp (path : Text) : IO (Option Entry) := do
  if path.isEmpty then return none
  let place := (← IO.currentDir) / String.ofList path
  unless ← place.pathExists do return none
  if ← place.isDir then return some .directory
  try
    match String.fromUTF8? (← IO.FS.readBinFile place) with
    | some content => return some (.file content.toList)
    | none => return some (.unreadable "stream did not contain valid UTF-8".toList)
  catch e => return some (.unreadable (toString e).toList)

/-- The files at some paths. -/
def lookUpAll (paths : List Text) : IO Files := do
  let found ← paths.filterMapM fun path => do
    return (← lookUp path).map fun entry => (path, entry)
  return .ofList found

/-- The variables of the process. -/
def readEnvironment : IO Environment := do
  let block ← try IO.FS.readBinFile "/proc/self/environ" catch _ => pure ByteArray.empty
  let block := Text.fields (· = '\x00') ((String.fromUTF8? block).getD "").toList
  return block.map fun t => (t.takeWhile (· ≠ '='), (t.dropWhile (· ≠ '=')).drop 1)

/-- The home directory in the system's record of the user. -/
def readRecordedHome : IO (Option Text) := do
  let lines (path : String) : IO (List String) := do
    let content ← try IO.FS.readFile path catch _ => pure ""
    return content.splitOn "\n"
  let user := (← lines "/proc/self/status").findSome? fun line =>
    match line.splitOn "\t" with
    | "Uid:" :: user :: _ => some user
    | _ => none
  return (← lines "/etc/passwd").findSome? fun line =>
    match line.splitOn ":" with
    | [_, _, id, _, _, home, _] =>
      if some id = user && !home.isEmpty then some home.toList else none
    | _ => none

/-- Runs a command line and gives its exit code. -/
def runLine (line : CommandLine) : IO UInt32 := do
  let environment ← readEnvironment
  let directory := (← IO.currentDir).toString.toList
  let terminal ← (← IO.getStdout).isTty
  let colored := wantsColors (fun name => environment.lookup name.toList) terminal
  let host := { Host.builtin with recordedHome := ← readRecordedHome }
  let w : Surroundings :=
    { files := fun _ => none, environment, directory := some directory, colored, host }
  let home := environment.home? host.recordedHome
  let sources := Settings.sources environment home (w.settingsDir line)
  let w := { w with files := ← lookUpAll sources }
  let w := { w with files := ← lookUpAll (sources ++ (w.input? line).toList) }
  let outcome := w.run line
  (← IO.getStdout).putStr (String.ofList outcome.report.out)
  (← IO.getStderr).putStr (String.ofList outcome.report.err)
  return outcome.code.toUInt32

end Prose

def main (arguments : List String) : IO UInt32 := do
  match Prose.CommandLine.ofArguments (arguments.map String.toList) with
  | .ok line => Prose.runLine line
  | .error refusal =>
    let message := String.ofList refusal.message
    if refusal.exitCode = 0 then IO.println message.trimAsciiEnd
    else IO.eprintln message
    return refusal.exitCode.toUInt32

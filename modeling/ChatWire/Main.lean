import ChatWire.Cli.Program
import Std.Time.DateTime.Timestamp

namespace ChatWire.Cli

open ChatWire.Host ChatWire.Provider ChatWire.History

/-- The environment variables the program reads. -/
def usedVariables : List String := ["HOME", "RELAY_CONFIG", "OPENAI_API_KEY", "DEEPSEEK_API_KEY"]

/-- What is at a path on disk: nothing, a directory, or a file and its text. -/
def probe (path : String) : IO (Option (Option String)) := do
  try
    let text ← IO.FS.readFile path
    return some (some text)
  catch e =>
    match e with
    | .noFileOrDirectory .. => return none
    | _ => return some none

/-- Copies what is at an absolute path into the file model. -/
def copyEntry (fs : Files) (full : String) : IO Files := do
  if fs.directories.contains full || (fs.files.lookup full).isSome then return fs
  match ← probe full with
  | none => return fs
  | some none => return { fs with directories := fs.directories ++ [full] }
  | some (some text) => return fs.write full text

/-- Copies what is at a path, and at every directory above it, into the file model. -/
def copyPath (fs : Files) (path : String) : IO Files :=
  (Files.prefixes (fs.absolute path)).foldlM copyEntry fs

/-- Waits forever. -/
partial def waitForever : IO Unit := do
  IO.sleep 1000
  waitForever

/-- Runs the program in this process. -/
def runProcess (args : List String) : IO UInt32 := do
  let env ← usedVariables.filterMapM fun k => do return (← IO.getEnv k).map (k, ·)
  let stdin ← IO.getStdin
  let terminal ← stdin.isTty
  let input ← if readsInput args terminal then stdin.readToEnd else pure ""
  let cwd := (← IO.currentDir).toString
  let now ← Std.Time.Timestamp.now
  let nanos := now.toNanosecondsSinceUnixEpoch.val
  let host : Host := { args, env, stdin := input, transport := offline,
                       files := { workingDirectory := cwd },
                       ids := { issued := nanos.toNat },
                       now := ⟨nanos / 1000000000, (nanos % 1000000000).toNat⟩ }
  let files ← copyPath host.files cwd
  let files ← (configCandidates host).foldlM copyPath files
  let host := { host with files }
  let files ← match logDirectory host with
    | some dir => copyPath files dir
    | none => pure files
  let host := { host with files }
  let out := run host
  IO.print out.stdout
  IO.eprint out.stderr
  (← IO.getStdout).flush
  for dir in out.files.directories do
    if !host.files.directories.contains dir then IO.FS.createDirAll dir
  if out.hangs then waitForever
  return out.status.toUInt32

end ChatWire.Cli

/-- The command-line entry point. -/
def main (args : List String) : IO UInt32 :=
  ChatWire.Cli.runProcess args

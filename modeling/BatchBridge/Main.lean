import BatchBridge.Client
import BatchBridge.CommandLine.Settings
import BatchBridge.Flight.Sink
import BatchBridge.Server.Basic
import BatchBridge.Sink.Memory

/-!
# The command

Takes one export from standard input, runs its session, and writes the reply to standard output.
What has become of it goes to standard error: the totals, or what went wrong and in which state.
The exit code is 0 for success, 1 for a failure and 2 for arguments that make no sense.
-/

namespace BatchBridge.Command

/-- What the command is called. -/
def name : String := "batch-bridge"

/-- The version that the command reports. -/
def version : String := name ++ " 0.1.0"

/-- How the command is used. -/
def usage : String :=
  "Usage: " ++ name ++ " [OPTIONS]\n\nOptions:\n" ++
    String.join (CommandLine.Setting.all.map fun setting =>
      "  --" ++ setting.name ++ " <VALUE>\n") ++
    String.join (CommandLine.Flag.all.map fun flag => "  --" ++ flag.name ++ "\n")

/-- What is said about a session that is over. -/
def report (session : Session MemoryStream) : String :=
  match session.result with
  | some (.ok summary) =>
    s!"forwarded {summary.rows} rows in {summary.batches} batches to '" ++ summary.queryId ++ "'"
  | some (.error error) =>
    let state := ((session.failedIn.map SessionState.name).getD "")
    "failed while " ++ state ++ ": " ++ error.message
  | none => "not finished"

/-- The exit code for a session that is over. -/
def exitCode (session : Session MemoryStream) : UInt32 :=
  match session.result with
  | some (.ok _) => 0
  | _ => 1

/-- Reads a stream to its end. -/
partial def readAll (stream : IO.FS.Stream) (taken : ByteArray) : IO ByteArray := do
  let chunk ← stream.read 65536
  if chunk.isEmpty then pure taken else readAll stream (taken ++ chunk)

/-- The bytes of a file, if it can be read. -/
def readFile? (path : String) : IO (Option Bytes) := do
  try
    let content ← IO.FS.readBinFile path
    pure (some content.data.toList)
  catch _ => pure none

/-- Runs the session of standard input. -/
def serve (config : Config) : IO UInt32 := do
  let input ← readAll (← IO.getStdin) ByteArray.empty
  let start : Session MemoryStream :=
    .new (.ofConfig config) (.ofBytes input.data.toList) none
  let (session, _) := start.run memorySink (.new .none)
  let output ← IO.getStdout
  output.write ⟨session.reply.toArray⟩
  output.flush
  IO.eprintln (report session)
  pure (exitCode session)

/-- Runs the command. -/
def run (arguments : List String) : IO UInt32 := do
  match CommandLine.Arguments.parse arguments with
  | .error .help => IO.println usage; pure 0
  | .error .version => IO.println version; pure 0
  | .error .usage => IO.eprintln usage; pure 2
  | .ok given =>
    let file ← match given.config with
      | some path => readFile? path
      | none => pure none
    match given.configure (← IO.getEnv "BATCH_BRIDGE_AUTH_TOKEN") file with
    | .error error => IO.eprintln error.message; pure 1
    | .ok config => serve config

end BatchBridge.Command

/-- Runs the command. -/
def main (arguments : List String) : IO UInt32 := BatchBridge.Command.run arguments

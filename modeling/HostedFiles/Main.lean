import HostedFiles.Host.Start

/-!
# Main — trying a start

The program reads a settings file from standard input and tells how the service would start with it
in a directory that holds nothing else and with every port free.  The environment of the program
goes before the file, as it does at a start.  What the service would log is printed; when it would
not start, the reason follows on the error stream and the exit code is one.
-/

namespace HostedFiles.Main

/-- All bytes of a stream, behind those read so far. -/
partial def readAll (stream : IO.FS.Stream) (soFar : ByteArray) : IO ByteArray := do
  let more ← stream.read 65536
  if more.isEmpty then return soFar else readAll stream (soFar ++ more)

/-- The settings that the environment of the program holds. -/
def environment : IO Environment := do
  let values ← Host.settingNames.filterMapM fun name => do
    return (← IO.getEnv name).map fun value => (name, value)
  return ⟨values⟩

/-- A directory with a settings file alone. -/
def directory (settings : ByteArray) : Disk :=
  { entries := .ofList [([EnvFile.defaultName], .file settings)], working := [] }

end HostedFiles.Main

open HostedFiles in
/-- Tries a start with the settings file on standard input. -/
def main : IO UInt32 := do
  let settings ← Main.readAll (← IO.getStdin) ByteArray.empty
  let start := Host.start (fun _ => none) (Main.directory settings) (← Main.environment)
  for line in start.lines do
    IO.println line
  match start.result with
  | .ok _ => return 0
  | .error e =>
    IO.eprint e.report
    return 1

import Std.Time.Format
import WordTally.Json.Reader
import WordTally.Program
import WordTally.Rehearsal

set_option autoImplicit false

namespace WordTally.CommandLine

def timeStamp : IO String := do
  let now ← Std.Time.Timestamp.now
  return (Std.Time.DateTime.ofTimestamp now Std.Time.TimeZone.ZoneRules.UTC).toISO8601String

def lookup : IO (String → Option String) := do
  let values ← Variable.names.mapM fun name => return (name, ← IO.getEnv name)
  return fun name => (values.lookup name).join

/-- The network of the rehearsal that the arguments name. -/
def network : List String → IO Http.Network
  | [] => return Rehearsal.silence
  | file :: _ => do
    match Json.ofOctets (← IO.FS.readBinFile file).toList with
    | .ok json => return Rehearsal.network json
    | .error fault => throw (IO.userError fault.message)

/-- The files that a run with these variables needs, and the directories above them. -/
def paths (lookup : String → Option String) : List Path :=
  match Settings.read lookup with
  | .ok settings => (Program.files settings).flatMap fun file => file.ancestors ++ [file]
  | .error _ => []

def load (disk : Disk) (path : Path) : IO Disk := do
  try
    return (disk.place path (← IO.FS.readBinFile path.text)).2
  catch _ => try
    let _ ← IO.FS.Handle.mk path.text .read
    return (disk.makeDirectories path).2
  catch _ =>
    return disk

/-- Makes a path what it has become on a disk. -/
def store (before after : Disk) (path : Path) : IO Unit := do
  match before.tree.find path, after.tree.find path with
  | _, .ok (_, .file content) => IO.FS.writeBinFile path.text content
  | _, .ok (_, .directory) => IO.FS.createDirAll path.text
  | .ok (_, .file _), .error _ => IO.FS.removeFile path.text
  | _, _ => return

/-- Shows what was logged: an error to those who watch for errors, any other line as output. -/
def report (stamp : String) (lines : List LogLine) : IO Unit :=
  for line in lines do
    let entry := line.entry stamp
    if line.severity = .error then IO.eprintln entry else IO.println entry

end WordTally.CommandLine

open WordTally CommandLine in
def main (arguments : List String) : IO UInt32 := do
  let lookup ← lookup
  let time ← timeStamp
  let disk ← (paths lookup).foldlM load (Disk.ofTree Tree.empty)
  let (ending, machine) := Program.run lookup time ⟨← network arguments, disk, []⟩
  for notice in ending.notices do
    IO.eprintln notice
  let stamp := time ++ " "
  report stamp (ending.shown machine.log)
  let after := Program.writeLog stamp ending machine
  for path in paths lookup do
    store disk after path
  return ending.exitCode.toUInt32

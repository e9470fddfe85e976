import WordTally.Service.Run

set_option autoImplicit false

namespace WordTally.Program

open Service

structure Ending where
  succeeded : Bool
  /-- Lines for whoever started the program, about what cannot be logged. -/
  notices : List String
  /-- Which of the logged lines are shown. -/
  level : LogLevel
  /-- The file that holds the log. -/
  logFile : Option Path

namespace Ending

def exitCode (ending : Ending) : Nat := if ending.succeeded then 0 else 1

def shown (ending : Ending) (log : List LogLine) : List LogLine :=
  log.filter fun line => line.severity.passes ending.level

end Ending

/-- Makes the file for the log, empty. Without one the program goes on, and says why. -/
def openLog (file : Option Path) (disk : Disk) : Option Path × List String × Disk :=
  match file with
  | none => (none, [], disk)
  | some path =>
    match disk.createFile path with
    | .ok disk => (some path, [], disk)
    | .error error =>
      let place := "Warning: Could not create log file at " ++ path.quoted
      (none, [place ++ ": " ++ error.message], disk)

/-- The files that a run with some settings reads or writes. -/
def files (settings : Settings) : List Path :=
  let snapshots := match Snapshot.directory settings.stateDir settings.applicationId with
    | .ok dir => [dir.join Snapshot.fileName]
    | .error _ => []
  snapshots ++ settings.logFile.toList

/-- The end of the program after that of the service, whose failure is logged. -/
def close (settings : Settings) (logFile : Option Path) (notices : List String) :
    Except Failure Unit × Machine → Ending × Machine
  | (.ok _, machine) => (⟨true, notices, settings.logLevel, logFile⟩, machine.settle)
  | (.error failure, machine) =>
    (⟨false, notices, settings.logLevel, logFile⟩, (machine.say (.error failure.message)).settle)

/-- Runs the program with the values of its variables; a snapshot at its end is one of that time. -/
def run (lookup : String → Option String) (time : String) (machine : Machine) : Ending × Machine :=
  match Settings.read lookup with
  | .error error => (⟨false, ["configuration error: " ++ error.message], .off, none⟩, machine)
  | .ok settings =>
    let (logFile, notices, disk) := openLog settings.logFile machine.disk
    close settings logFile notices
      ((Service.run settings time).run.run { machine with disk := disk })

/-- The lines of a log as a text, each after the same stamp. -/
def logText (stamp : String) (lines : List LogLine) : String :=
  String.join (lines.map fun line => line.entry stamp ++ "\n")

/-- Writes the shown lines to the file for the log, if it is still there. It was made empty, so a
file that holds anything is another one in its place. -/
def writeLog (stamp : String) (ending : Ending) (machine : Machine) : Disk :=
  let disk := machine.disk
  match ending.logFile with
  | none => disk
  | some path =>
    match disk.tree.find path with
    | .ok (place, .file content) =>
      if content.isEmpty then
        disk.setTree (disk.tree.put place (.file (logText stamp (ending.shown machine.log)).toUTF8))
      else disk
    | _ => disk

end WordTally.Program

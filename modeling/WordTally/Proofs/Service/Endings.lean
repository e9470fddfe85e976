import WordTally.Program
import WordTally.Proofs.Pipeline.Accounting
import WordTally.Proofs.Service.Startup
import WordTally.Proofs.Snapshot.RoundTrip

set_option autoImplicit false

namespace WordTally

namespace Service

open Pipeline

variable {settings : Settings} {time : String} {machine : Machine} {report : Report}

theorem Machine.disk_settle (settled : machine.network.files = []) :
    machine.settle.disk = machine.disk := by
  unfold settle
  rw [settled]
  rfl

theorem exec_save (settings : Settings) (time : String) (report : Report) (machine : Machine) :
    let saved := Snapshot.save settings.stateDir settings.applicationId time report.tally
      machine.settle.disk
    let ended := (save settings time report).exec machine
    ((∃ path, ended.1 = .ok path) ↔ ∃ placed, saved.1 = .ok placed) ∧ ended.2.disk = saved.2 ∧
      ended.2.network.files = [] := by
  unfold save
  rw [Work.exec_onDisk]
  dsimp only
  cases result : (Snapshot.save settings.stateDir settings.applicationId time report.tally
      machine.settle.disk).1 with
  | error error =>
    refine ⟨⟨?_, ?_⟩, rfl, rfl⟩
    · rintro ⟨path, same⟩
      cases same
    · rintro ⟨placed, same⟩
      cases same
  | ok placed => exact ⟨⟨fun _ => ⟨placed, rfl⟩, fun _ => ⟨placed.1, rfl⟩⟩, rfl, rfl⟩

theorem exec_conclude_completed (settings : Settings) (time : String) (report : Report)
    (machine : Machine) :
    let saved := (save settings time report).exec (machine.say (summary report))
    (conclude settings time (some (.completed report))).exec machine =
      (saved.1.map fun _ => (), saved.2) := by
  unfold conclude
  dsimp only
  rw [Work.exec_say_bind, Work.exec_bind]
  cases ((save settings time report).exec (machine.say (summary report))).1 <;> rfl

/-- A failure stays one, whatever becomes of its report. -/
theorem exec_conclude_failed (settings : Settings) (time : String) (reason : StopReason)
    (report : Report) (machine : Machine) :
    let saved := (save settings time report).exec (machine.say (summary report))
    let ended := (conclude settings time (some (.failed reason report))).exec machine
    ended.1 = .error (.pipeline reason) ∧ ended.2.disk = saved.2.disk ∧
      ended.2.network = saved.2.network := by
  unfold conclude
  dsimp only
  rw [Work.exec_say_bind, Work.exec_bind, Work.exec_tryCatch, Work.exec_bind]
  cases ((save settings time report).exec (machine.say (summary report))).1 with
  | ok path => exact ⟨rfl, rfl, rfl⟩
  | error failure => exact ⟨rfl, rfl, rfl⟩

/-- A report is saved, be it one of success or of failure; only that of a success may end well. -/
theorem exec_conclude (settings : Settings) (time : String) (machine : Machine) {outcome : Outcome}
    (reported : outcome.report? = some report) :
    let saved := Snapshot.save settings.stateDir settings.applicationId time report.tally
      machine.settle.disk
    let ended := (conclude settings time (some outcome)).exec machine
    (ended.1 = .ok () ↔ outcome = .completed report ∧ ∃ placed, saved.1 = .ok placed) ∧
      ended.2.disk = saved.2 ∧ ended.2.network.files = [] := by
  obtain ⟨succeeds, disk, files⟩ := exec_save settings time report (machine.say (summary report))
  have here : (machine.say (summary report)).settle.disk = machine.settle.disk := rfl
  rw [here] at succeeds disk
  dsimp only
  rw [← succeeds]
  cases outcome with
  | panicked => cases reported
  | completed own =>
    cases reported
    rw [exec_conclude_completed]
    refine ⟨?_, disk, files⟩
    cases ((save settings time report).exec (machine.say (summary report))).1 with
    | ok path => exact ⟨fun _ => ⟨rfl, path, rfl⟩, fun _ => rfl⟩
    | error failure =>
      refine ⟨fun same => ?_, fun ⟨_, path, same⟩ => ?_⟩
      all_goals cases same
  | failed reason own =>
    cases reported
    obtain ⟨fails, same, network⟩ := exec_conclude_failed settings time reason report machine
    rw [fails, same, network]
    refine ⟨⟨fun same => ?_, fun ⟨same, _⟩ => ?_⟩, disk, files⟩
    all_goals cases same

theorem exec_conclude_unreported {outcome : Option Outcome}
    (unreported : outcome.bind Outcome.report? = none) :
    (conclude settings time outcome).exec machine = (.error .panicked, machine) := by
  unfold conclude
  rcases outcome with _ | _ | _ | _
  · rfl
  · cases unreported
  · cases unreported
  · rfl

/-- What becomes of a service whose start succeeds, up to the end of its pipeline. -/
structure Passage where
  settings : Settings
  /-- What the start has made ready. -/
  ready : Ready
  /-- The machine as the start has left it. -/
  prepared : Machine
  config : Config Session

namespace Passage

def session (passage : Passage) : Session :=
  ⟨passage.prepared.network, passage.ready.consumer, passage.ready.topic, none⟩

/-- The machine at the end of the pipeline, which has touched nothing but the network. -/
def pumped (passage : Passage) : Machine :=
  { passage.prepared with
    network := passage.config.world.network
    log := passage.prepared.log ++ passage.config.log.map (·.2) }

/-- The disk that the start has left, with the files that have appeared since. -/
def left (passage : Passage) : Disk := passage.pumped.settle.disk

def report? (passage : Passage) : Option Report := passage.config.outcome.bind Outcome.report?

def saved (passage : Passage) (time : String) (report : Report) :
    Except SnapshotError (Path × LogLine) × Disk :=
  Snapshot.save passage.settings.stateDir passage.settings.applicationId time report.tally
    passage.left

def Saves (passage : Passage) (time : String) (report : Report) : Prop :=
  ∃ placed, (passage.saved time report).1 = .ok placed

end Passage

end Service

namespace Program

open Service Pipeline

variable {settings : Settings} {lookup : String → Option String} {time : String}
  {machine : Machine} {ending : Ending} {ended : Ending × Machine} {course : Option Passage}
  {passage : Passage} {history : History Session} {report : Report}

/-- The ways the program may end with the values of its variables, at a time and on a machine. Its
pipeline may be asked to stop at any moment, its tasks may take their steps in any order, and one
that is cut off ends like one that died. -/
inductive Ends (lookup : String → Option String) (time : String) (machine : Machine) :
    Option Passage → History Session → Ending × Machine → Prop where
  | misread {error : SettingsError} (read : Settings.read lookup = .error error) :
      Ends lookup time machine none []
        (⟨false, ["configuration error: " ++ error.message], .off, none⟩, machine)
  | unready {settings : Settings} {failure : Failure} {after : Machine}
      (read : Settings.read lookup = .ok settings)
      (failed : (prepare settings).run.run (opened settings machine) = (.error failure, after)) :
      Ends lookup time machine none []
        (close settings (openLog settings.logFile machine.disk).1
          (openLog settings.logFile machine.disk).2.1 (.error failure, after))
  | pumped {passage : Passage} {history : History Session} {stopAt : Option Nat}
      (read : Settings.read lookup = .ok passage.settings)
      (ready : (prepare passage.settings).run.run (opened passage.settings machine) =
        (.ok passage.ready, passage.prepared))
      (run : Run Session.world (Config.start passage.settings.pipeline passage.ready.tally stopAt
        passage.session) history passage.config) :
      Ends lookup time machine (some passage) history
        (close passage.settings (openLog passage.settings.logFile machine.disk).1
          (openLog passage.settings.logFile machine.disk).2.1
          ((conclude passage.settings time passage.config.outcome).run.run passage.pumped))

/-- How the program that runs comes through its pipeline, if it comes so far. -/
def passage? (lookup : String → Option String) (machine : Machine) : Option Passage :=
  match Settings.read lookup with
  | .error _ => none
  | .ok settings =>
    match (prepare settings).exec (opened settings machine) with
    | (.error _, _) => none
    | (.ok ready, prepared) =>
      let session : Session := ⟨prepared.network, ready.consumer, ready.topic, none⟩
      some ⟨settings, ready, prepared,
        Pipeline.run Session.world ample settings.pipeline ready.tally none session⟩

theorem run_ends (lookup : String → Option String) (time : String) (machine : Machine) :
    ∃ history, Ends lookup time machine (passage? lookup machine) history
      (run lookup time machine) := by
  unfold run passage?
  cases read : Settings.read lookup with
  | error error => exact ⟨[], .misread read⟩
  | ok settings =>
    have whole : (Service.run settings time).run.run (opened settings machine) =
        (prepare settings >>= fun ready => modifyGet (pump settings ready) >>=
          conclude settings time : Work Unit).exec (opened settings machine) := rfl
    unfold opened at whole ⊢
    dsimp only
    rw [whole, Work.exec_bind]
    cases started : (prepare settings).exec (opened settings machine) with
    | mk result after =>
      unfold opened at started
      rw [started]
      cases result with
      | error failure => exact ⟨[], .unready read started⟩
      | ok ready =>
        obtain ⟨history, ran⟩ := exists_history_of_run Session.world ample settings.pipeline
          ready.tally none ⟨after.network, ready.consumer, ready.topic, none⟩
        exact ⟨history, .pumped read started ran⟩

/-- Where the file for the log stands. -/
def logPlace (ending : Ending) (machine : Machine) : Option Location :=
  ending.logFile.bind fun path => (machine.disk.tree.find path).toOption.map Prod.fst

/-- To write the log fills the empty file for it, and does nothing if there is no such file. -/
theorem tree_writeLog (stamp : String) (ending : Ending) (machine : Machine) :
    (writeLog stamp ending machine).tree = machine.disk.tree ∨
      ∃ place content log, logPlace ending machine = some place ∧
        machine.disk.tree.at? place = some (.file content) ∧ content.isEmpty = true ∧
        (writeLog stamp ending machine).tree = machine.disk.tree.put place (.file log) := by
  unfold writeLog logPlace
  dsimp only
  split
  · exact .inl rfl
  · rename_i path configured
    rw [configured, Option.bind_some]
    split
    · rename_i place content found
      split
      · rename_i vacant
        refine .inr ⟨place, content, _, ?_, (Tree.find_ok found).2.2, vacant, rfl⟩
        rw [found]
        rfl
      · exact .inl rfl
    · exact .inl rfl

theorem writeLog_sameFiles (stamp : String) (ending : Ending) (machine : Machine) :
    Tree.SameFiles (logPlace ending machine) machine.disk.tree
      (writeLog stamp ending machine).tree := by
  rcases tree_writeLog stamp ending machine with same | ⟨place, content, log, here, stands, _, same⟩
  · rw [same]
    exact .refl _ _
  · rw [same, here]
    exact .put_file stands

/-- A text that stands in a file is not lost to the log, not even if the log was to be there. -/
theorem read_writeLog {dir : Path} {name text : String} (stamp : String) (full : text ≠ "")
    (read : Store.read dir name machine.disk.tree = .ok (some text)) :
    Store.read dir name (writeLog stamp ending machine).tree = .ok (some text) := by
  obtain ⟨place, content, found, decoded⟩ := Store.read_eq_some_iff.mp read
  rcases tree_writeLog stamp ending machine with same | ⟨other, old, log, _, stands, vacant, same⟩
  · rw [same]
    exact read
  · have apart : some place ≠ some other := by
      intro here
      have standing : machine.disk.tree.at? place = some (.file content) := (Tree.find_ok found).2.2
      rw [Option.some.inj here, stands] at standing
      cases standing
      have nothing : content = ByteArray.empty := by
        simpa [ByteArray.isEmpty] using vacant
      rw [nothing] at decoded
      exact full (Option.some.inj decoded).symm
    rw [same]
    exact Store.read_eq_some_iff.mpr
      ⟨place, content, (Tree.SameFiles.put_file stands).found _ _ _ apart found, decoded⟩

theorem succeeded_close (settings : Settings) (logFile : Option Path) (notices : List String)
    (concluded : Except Failure Unit × Machine) :
    (close settings logFile notices concluded).1.succeeded = true ↔ concluded.1 = .ok () := by
  obtain ⟨_ | _, machine⟩ := concluded
  · refine ⟨fun same => ?_, fun same => ?_⟩
    all_goals cases same
  · exact ⟨fun _ => rfl, fun _ => rfl⟩

theorem disk_close (settings : Settings) (logFile : Option Path) (notices : List String)
    (concluded : Except Failure Unit × Machine) :
    (close settings logFile notices concluded).2.disk = concluded.2.settle.disk := by
  obtain ⟨_ | _, machine⟩ := concluded
  · rfl
  · rfl

theorem Ending.exitCode_eq_zero_iff (ending : Ending) :
    ending.exitCode = 0 ↔ ending.succeeded = true := by
  unfold exitCode
  cases ending.succeeded <;> decide

/-- A report is saved on the disk that the start has left, and that is the last thing done to it. -/
theorem Ends.reported (ends : Ends lookup time machine (some passage) history ended)
    (reported : passage.report? = some report) :
    ended.2.disk = (passage.saved time report).2 ∧
      (ended.1.succeeded = true ↔
        passage.config.outcome = some (.completed report) ∧ passage.Saves time report) := by
  obtain ⟨outcome, result, given⟩ := Option.bind_eq_some_iff.mp reported
  cases ends with
  | pumped read ready run =>
    obtain ⟨succeeds, disk, files⟩ := exec_conclude passage.settings time passage.pumped given
    rw [succeeded_close, disk_close, result, Option.some_inj]
    exact ⟨(Machine.disk_settle files).trans disk, succeeds⟩

/-- Without a report nothing is done to the disk. -/
theorem Ends.unreported (ends : Ends lookup time machine (some passage) history ended)
    (unreported : passage.report? = none) :
    ended.2.disk = passage.left ∧ ended.1.succeeded = false := by
  cases ends with
  | pumped read ready run =>
    have died : (conclude passage.settings time passage.config.outcome).run.run passage.pumped =
        (.error .panicked, passage.pumped) := exec_conclude_unreported unreported
    rw [died]
    exact ⟨rfl, rfl⟩

/-- The program succeeds only if its start has, its pipeline completes and the report is saved. -/
theorem Ends.exitCode_eq_zero_iff (ends : Ends lookup time machine course history ended) :
    ended.1.exitCode = 0 ↔ ∃ passage report, course = some passage ∧
      passage.config.outcome = some (.completed report) ∧ passage.Saves time report := by
  rw [Ending.exitCode_eq_zero_iff]
  constructor
  · intro succeeded
    cases course with
    | none =>
      cases ends with
      | misread => cases succeeded
      | unready => cases succeeded
    | some passage =>
      cases reported : passage.report? with
      | none =>
        rw [(ends.unreported reported).2] at succeeded
        cases succeeded
      | some report =>
        exact ⟨passage, report, rfl, (ends.reported reported).2.mp succeeded⟩
  · rintro ⟨passage, report, rfl, completed, saves⟩
    have reported : passage.report? = some report := by
      unfold Passage.report?
      rw [completed]
      rfl
    exact (ends.reported reported).2.mpr ⟨completed, saves⟩

theorem Ends.get?_report (ends : Ends lookup time machine (some passage) history ended)
    (reported : passage.report? = some report) (word : String) :
    let applied := History.applied history (max passage.settings.pipeline.shards 1)
    report.tally.get? word =
      if word ∈ applied then some ((passage.ready.tally.get? word).getD 0 + applied.count word)
      else passage.ready.tally.get? word := by
  obtain ⟨outcome, result, given⟩ := Option.bind_eq_some_iff.mp reported
  cases ends with
  | pumped read ready run =>
    rw [run.report_eq result given]
    exact run.report_get? word

theorem Ends.prepare_saved (ends : Ends lookup time machine (some passage) history ended)
    (reported : passage.report? = some report) (saves : passage.Saves time report)
    (small : ∀ count ∈ report.tally.toList, count.2 ≤ Text.max64) (stamp : String) :
    (Snapshot.prepare passage.settings.stateDir passage.settings.applicationId false
        (writeLog stamp ended.1 ended.2)).1 =
      .ok (report.tally, Snapshot.loadedLine time report.tally) := by
  obtain ⟨placed, done⟩ := saves
  obtain ⟨dir, accepted⟩ := Snapshot.accepted_of_save done
  have read := Snapshot.read_of_save accepted done
  have disk : ended.2.disk = (passage.saved time report).2 := (ends.reported reported).1
  unfold Passage.saved at disk
  rw [← disk] at read
  rw [Snapshot.prepare_of_load accepted]
  exact Snapshot.load_of_read small (read_writeLog stamp (Snapshot.text_ne_empty _) read)

/-- Where no report is saved, every file is as the start has left it. The file for the log is left
aside. -/
theorem Ends.sameFiles (ends : Ends lookup time machine (some passage) history ended)
    (unsaved : ∀ report, passage.report? = some report → ¬ passage.Saves time report)
    (stamp : String) :
    Tree.SameFiles (logPlace ended.1 ended.2) passage.left.tree
      (writeLog stamp ended.1 ended.2).tree := by
  refine .trans ?_ (writeLog_sameFiles stamp ended.1 ended.2)
  cases reported : passage.report? with
  | none =>
    rw [(ends.unreported reported).1]
    exact .refl _ _
  | some report =>
    rw [(ends.reported reported).1]
    exact .of_keeps (Snapshot.save_keeps (unsaved report reported))

/-- The program succeeds exactly if its start does, its pipeline completes and the report is saved.
A report has, word by word, what the start had and what the shards have counted since, delivered or
not; if it can be saved, the next start has exactly its tally. Where none is saved, be it that the
pipeline died, every file is as the start has left it, but for the one that the log is written
to. -/
theorem Ends.success_and_snapshot (ends : Ends lookup time machine course history ended)
    (stamp : String) :
    (ended.1.exitCode = 0 ↔ ∃ passage report, course = some passage ∧
      passage.config.outcome = some (.completed report) ∧ passage.Saves time report) ∧
    ∀ passage, course = some passage →
      (∀ report, passage.report? = some report →
        (∀ word,
          let applied := History.applied history (max passage.settings.pipeline.shards 1)
          report.tally.get? word =
            if word ∈ applied then
              some ((passage.ready.tally.get? word).getD 0 + applied.count word)
            else passage.ready.tally.get? word) ∧
        (passage.Saves time report → (∀ count ∈ report.tally.toList, count.2 ≤ Text.max64) →
          (Snapshot.prepare passage.settings.stateDir passage.settings.applicationId false
              (writeLog stamp ended.1 ended.2)).1 =
            .ok (report.tally, Snapshot.loadedLine time report.tally))) ∧
      ((∀ report, passage.report? = some report → ¬ passage.Saves time report) →
        Tree.SameFiles (logPlace ended.1 ended.2) passage.left.tree
          (writeLog stamp ended.1 ended.2).tree) := by
  refine ⟨ends.exitCode_eq_zero_iff, ?_⟩
  rintro passage rfl
  refine ⟨fun report reported => ⟨?_, fun saves small => ?_⟩, fun unsaved => ?_⟩
  · exact ends.get?_report reported
  · exact ends.prepare_saved reported saves small stamp
  · exact ends.sameFiles unsaved stamp

/-- A machine on which nothing is set up but the peers. A record arrives, then the service is asked
to stop, and the counts that it publishes are refused. -/
def refusing : Machine where
  network :=
    { httpPeers := [("localhost", 8081), ("localhost", 8082)]
      tcpPeers := [("localhost", 9092)]
      answers := [⟨.respond ⟨200⟩ [], none⟩,
        ⟨.respond ⟨200⟩ "\x7b\"id\":1\x7d".toUTF8.toList, none⟩,
        ⟨.respond ⟨200⟩ "\x7b\"id\":2\x7d".toUTF8.toList, none⟩,
        ⟨.respond ⟨200⟩ [], none⟩,
        ⟨.respond ⟨200⟩ "\x7b\"base_uri\":\"http://localhost:8082/c\"\x7d".toUTF8.toList, none⟩,
        ⟨.respond ⟨204⟩ [], none⟩,
        ⟨.respond ⟨200⟩ ("[\x7b\"value\":\x7b\"words\":\"sea red sea\"\x7d," ++
          "\"partition\":0,\"offset\":0\x7d]").toUTF8.toList, none⟩,
        ⟨.signal "TERM", none⟩, ⟨.respond ⟨204⟩ [], none⟩, ⟨.respond ⟨422⟩ [], none⟩]
      requests := []
      files := []
      log := [] }
  disk := Disk.ofTree .empty
  log := []

/-- The program fails, and the words that it could not publish are counted all the same. -/
theorem refusing_success_and_snapshot :
    ∃ passage history, Ends (fun _ => none) "now" refusing (some passage) history
        (run (fun _ => none) "now" refusing) ∧
      (run (fun _ => none) "now" refusing).1.exitCode = 1 ∧
      (Snapshot.prepare passage.settings.stateDir passage.settings.applicationId false
          (writeLog "12:00" (run (fun _ => none) "now" refusing).1
            (run (fun _ => none) "now" refusing).2)).1 =
        .ok (Tally.ofList [("red", 1), ("sea", 2)],
          .info "loaded 2 words from snapshot saved at now") := by
  let report : Report := ⟨1, 0, 3, 0, .requested, Tally.ofList [("red", 1), ("sea", 2)]⟩
  have reported : (passage? (fun _ => none) refusing).bind Passage.report? = some report := by
    decide +kernel
  have saves : ((passage? (fun _ => none) refusing).map fun passage =>
      (passage.saved "now" report).1.toOption.isSome) = some true := by
    decide +kernel
  obtain ⟨history, ends⟩ := run_ends (fun _ => none) "now" refusing
  cases course : passage? (fun _ => none) refusing with
  | none =>
    rw [course] at reported
    cases reported
  | some passage =>
    rw [course] at ends reported saves
    have saved : passage.Saves "now" report := by
      unfold Passage.Saves
      cases done : (passage.saved "now" report).1 with
      | error error =>
        rw [Option.map_some, done] at saves
        cases saves
      | ok placed => exact ⟨placed, rfl⟩
    have small : ∀ count ∈ report.tally.toList, count.2 ≤ Text.max64 := by decide +kernel
    have line : Snapshot.loadedLine "now" report.tally =
        .info "loaded 2 words from snapshot saved at now" := by decide +kernel
    have agreed := (ends.success_and_snapshot "12:00").2 passage rfl
    rw [← line]
    exact ⟨passage, history, ends, by decide +kernel, (agreed.1 report reported).2 saved small⟩

end Program

end WordTally

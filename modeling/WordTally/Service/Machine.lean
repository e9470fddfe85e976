import WordTally.Files.Disk
import WordTally.Http.Network

set_option autoImplicit false

namespace WordTally.Service

open Http

structure Machine where
  network : Network
  disk : Disk
  /-- Lines that were logged, the oldest first. -/
  log : List LogLine

namespace Machine

def say (line : LogLine) (machine : Machine) : Machine :=
  { machine with log := machine.log ++ [line] }

/-- Takes over what the network has logged. -/
def collect (machine : Machine) : Machine :=
  { machine with
    network := { machine.network with log := [] }
    log := machine.log ++ machine.network.log }

/-- Puts the files in place that have appeared while requests were answered. -/
def settle (machine : Machine) : Machine :=
  let put := fun (disk : Disk) path => (disk.place ⟨path⟩ ByteArray.empty).2
  { machine with
    network := { machine.network with files := [] }
    disk := machine.network.files.foldl put machine.disk }

def talk {α : Type} (dialogue : Talk α) (machine : Machine) : α × Machine :=
  let (value, network) := dialogue.run machine.network
  (value, { machine with network := network }.collect)

/-- Work on the disk, once all files are in place. -/
def work {α : Type} (task : Disk → α × Disk) (machine : Machine) : α × Machine :=
  let machine := machine.settle
  let (value, disk) := task machine.disk
  (value, { machine with disk := disk })

end Machine

end WordTally.Service

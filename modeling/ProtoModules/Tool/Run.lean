import ProtoModules.Failure

/-! External programs. A toolchain says what the compiler, its version query and the formatter do for
a command line; a session is the disk and the commands run so far. An action works on a session
and leaves it as far as it came, also if it fails. -/

namespace ProtoModules
open Disk

abbrev Command := List String

inductive Exit where
  /-- The program could not be started. -/
  | notStarted (reason : String)
  | exited (status : Int) (output errors : String)

/-- What a run of the compiler leaves: how it ended and what it wrote to its output directory. -/
structure Compilation where
  exit : Exit
  outputs : List (Path × Entry)

structure Toolchain where
  compile : Command → Disk → Compilation
  version : Command → Exit
  format : Command → (input : String) → Exit

structure Session where
  disk : Disk
  commands : List Command := []

abbrev Action (α : Type) := ExceptT Failure (StateM Session) α

namespace Action

def fail {α : Type} (f : Failure) : Action α := throw f

def report {α : Type} (e : Error) : Action α := throw (.error e)

def disk : Action Disk := return (← get).disk

def setDisk (d : Disk) : Action Unit := modify fun s => { s with disk := d }

def record (command : Command) : Action Unit :=
  modify fun s => { s with commands := s.commands ++ [command] }

end Action

end ProtoModules

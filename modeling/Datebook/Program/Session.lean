import Datebook.Log.Filter
import Datebook.Program.Arguments
import Datebook.Program.Work

set_option autoImplicit false

namespace Datebook

structure Launch where
  program : Program
  arguments : List String
  -- The variable that overrules the configured level of the log.
  logVariable : Option String
  directory : FilePath

structure Outcome where
  exit : Nat
  output : List String
  complaint : Option String
  disk : Disk

namespace Session

def work (launch : Launch) (ticks : List Instant) (config : Config) (disk : Disk) : Run :=
  match openStore launch.directory config.store disk with
  | none => ⟨[], disk, some .storeUnavailable⟩
  | some (opened, disk) =>
      let run :=
        match launch.program with
        | .calendar => listen config opened disk
        | .scheduler => schedule launch.directory ticks config opened disk
        | .sender => send launch.directory config opened disk
      { run with log := storeOpened config.store ++ run.log }

def configure (launch : Launch) (disk : Disk) : Option String → Except Breakdown Config
  | none => .ok {}
  | some path => Config.load launch.program path (disk.read launch.directory path)

def fail (disk : Disk) (output : List String) (error : Breakdown) : Outcome :=
  if error.isAbrupt then ⟨101, output, none, disk⟩
  else ⟨1, output, some s!"Error: {error.message}", disk⟩

def run (launch : Launch) (ticks : List Instant) (disk : Disk) : Outcome :=
  match Arguments.read launch.arguments with
  | .error .help => ⟨0, launch.program.help, none, disk⟩
  | .error .version => ⟨0, [launch.program.version], none, disk⟩
  | .error (.error error) => ⟨2, [], some error.message, disk⟩
  | .ok path =>
      match configure launch disk path with
      | .error error => fail disk [] error
      | .ok config =>
          let run := work launch ticks config disk
          let output := (LogFilter.choose launch.logVariable config.log.level).lines run.log
          match run.error with
          | some error => fail run.disk output error
          | none => ⟨0, output, none, run.disk⟩

end Session
end Datebook

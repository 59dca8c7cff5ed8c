import Datebook.Program.Session

set_option autoImplicit false

namespace Datebook.CommandLine

def stations (directory : FilePath) (text : String) : List FilePath × FilePath :=
  (FilePath.names text).foldl (fun (passed, path) name =>
    if name = "" ∨ name = "." then (passed, path)
    else if name = ".." then (path :: passed, path.dropLast)
    else (path :: passed, path ++ [name])) ([directory], FilePath.start directory text)

def diskAround (directory : FilePath) (name : String) : IO Disk := do
  let (passed, path) := stations directory name
  try
    let content ← IO.FS.readBinFile name
    let disk := Disk.empty ([] :: passed)
    return { disk with texts := disk.texts.put path (Text.RawText.ofBytes content.toList) }
  catch
    | .noFileOrDirectory .. => return .empty [[], directory]
    | _ => return .empty ([] :: path :: passed)

def prepare (launch : Launch) : IO Disk := do
  match Arguments.read launch.arguments with
  | .ok (some name) => diskAround launch.directory name
  | _ => return .empty [launch.directory]

def run (program : Program) (arguments : List String) : IO UInt32 := do
  let launch : Launch := ⟨program, arguments, ← IO.getEnv "DATEBOOK_LOG", []⟩
  let outcome := Session.run launch [] (← prepare launch)
  for line in outcome.output do
    IO.println line
  for complaint in outcome.complaint do
    IO.eprintln complaint
  return outcome.exit.toUInt32

def usage : String :=
  "usage: datebook (" ++ "|".intercalate (Program.all.map Program.name) ++ ") [OPTIONS]"

end Datebook.CommandLine

open Datebook in
def main (arguments : List String) : IO UInt32 := do
  match arguments with
  | name :: rest =>
      match Program.ofName? name with
      | some program => CommandLine.run program rest
      | none =>
          IO.eprintln CommandLine.usage
          return 2
  | [] =>
      IO.eprintln CommandLine.usage
      return 2

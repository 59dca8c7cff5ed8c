import Datebook.Program
import Datebook.Text.Terminal

set_option autoImplicit false

namespace Datebook

inductive ArgumentError where
  | unexpected (argument : String)
  | unexpectedValue (value option : String)
  | valueNeeded
  | repeated
  deriving DecidableEq

-- What was written on the command line is repeated without commands to the terminal.
def ArgumentError.message : ArgumentError → String
  | unexpected argument => s!"error: unexpected argument '{Text.Terminal.plain argument}' found"
  | unexpectedValue value option =>
      s!"error: unexpected value '{Text.Terminal.plain value}' for '{option}' found; no more were expected"
  | valueNeeded => "error: a value is required for '--config <CONFIG>' but none was supplied"
  | repeated => "error: the argument '--config <CONFIG>' cannot be used multiple times"

inductive Halt where
  | help
  | version
  | error (error : ArgumentError)
  deriving DecidableEq

namespace Arguments

inductive Pending where
  | nothing
  | option
  | value (path : String)
  deriving DecidableEq

structure State where
  config : Option String
  pending : Pending
  -- After two hyphens alone, nothing is an option.
  closed : Bool

def State.setConfig (state : State) (path : String) : Except Halt State :=
  if state.config.isSome then .error (.error .repeated)
  else if path = "" then .error (.error .valueNeeded)
  else .ok { state with config := some path, pending := .nothing }

-- An option is settled only before the next one, or at the end.
def State.settle (state : State) : Except Halt State :=
  match state.pending with
  | .nothing => .ok state
  | .option => .error (.error .valueNeeded)
  | .value path => state.setConfig path

def unexpected (argument : List Char) : Except Halt State :=
  .error (.error (.unexpected (String.ofList argument)))

def State.halt (state : State) (halt : Halt) : Except Halt State := do
  let _ ← state.settle
  .error halt

def State.longOption (state : State) (name : List Char) (value : Option (List Char)) : Except Halt State :=
  let asked (halt : Halt) : Except Halt State :=
    match value with
    | none => state.halt halt
    | some value =>
        .error (.error (.unexpectedValue (String.ofList value) (String.ofList ('-' :: '-' :: name))))
  match String.ofList name with
  | "config" => do
      let state ← state.settle
      match value with
      | none => return { state with pending := .option }
      | some value => state.setConfig (String.ofList value)
  | "help" => asked .help
  | "version" => asked .version
  | _ => unexpected ('-' :: '-' :: name)

def State.plain (state : State) (argument : List Char) : Except Halt State :=
  match state.pending with
  | .option => .ok { state with pending := .value (String.ofList argument) }
  | .nothing | .value _ => unexpected argument

def step (state : State) (argument : String) : Except Halt State :=
  if state.closed then unexpected argument.toList
  else
    match argument.toList with
    | ['-', '-'] => .ok { state with closed := true }
    | '-' :: '-' :: text =>
        match text.span (· ≠ '=') with
        | (name, []) => state.longOption name none
        | (name, _ :: value) => state.longOption name (some value)
    | '-' :: 'h' :: _ => state.halt .help
    | '-' :: 'V' :: _ => state.halt .version
    | '-' :: letter :: _ => unexpected ['-', letter]
    | others => state.plain others

def read (arguments : List String) : Except Halt (Option String) := do
  let state ← arguments.foldlM step ⟨none, .nothing, false⟩
  let state ← state.settle
  return state.config

end Arguments

namespace Program

def version (program : Program) : String := s!"{program.name} 0.1.0"

def help (program : Program) : List String := [
  program.about,
  "",
  s!"Usage: {program.name} [OPTIONS]",
  "",
  "Options:",
  "      --config <CONFIG>  Path to the TOML config file. Defaults apply when omitted",
  "  -h, --help             Print help",
  "  -V, --version          Print version"]

end Program
end Datebook

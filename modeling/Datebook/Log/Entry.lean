set_option autoImplicit false

namespace Datebook

inductive Severity where
  | error
  | warning
  | info
  | debug
  | trace
  deriving DecidableEq

namespace Severity

def label : Severity → String
  | error => "ERROR"
  | warning => "WARN"
  | info => "INFO"
  | debug => "DEBUG"
  | trace => "TRACE"

-- The lower the graver.
def rank : Severity → Nat
  | error => 1
  | warning => 2
  | info => 3
  | debug => 4
  | trace => 5

end Severity

structure LogEntry where
  severity : Severity
  source : String
  message : String
  fields : List (String × String)
  deriving DecidableEq

namespace LogEntry

-- The message is a field, too.
def hasField (entry : LogEntry) (name : String) : Bool :=
  name = "message" || entry.fields.any fun field => field.1 = name

def line (entry : LogEntry) : String :=
  s!"{entry.severity.label} {entry.source}: {entry.message}"
    ++ String.join (entry.fields.map fun (name, value) => s!" {name}={value}")

end LogEntry

end Datebook

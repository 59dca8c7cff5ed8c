import Datebook.Log.Directive

set_option autoImplicit false

namespace Datebook

structure LogFilter where
  directives : List Directive
  deriving DecidableEq

namespace LogFilter

def only (highest : Nat) : LogFilter := ⟨[⟨none, none, none, highest⟩]⟩

-- Without any directive, only errors are shown.
def read? (text : String) : Option LogFilter :=
  match ((text.toList.splitOn ',').filter fun field => ! field.isEmpty).mapM Directive.read? with
  | none => none
  | some [] => some (only Severity.error.rank)
  | some directives => some ⟨directives⟩

def standard : LogFilter := only Severity.info.rank

def choose (first : Option String) (second : String) : LogFilter :=
  ((first.bind read?).orElse fun () => read? second).getD standard

-- Of two directives that say the same, the later decides.
def decisive? (filter : LogFilter) (entry : LogEntry) : Option Directive :=
  (filter.directives.filter (·.fits entry)).foldl (fun best next =>
    match best with
    | none => some next
    | some best => if best.saysNoMoreThan next then some next else some best) none

def admits (filter : LogFilter) (entry : LogEntry) : Bool :=
  match filter.decisive? entry with
  | some directive => entry.severity.rank ≤ directive.highest
  | none => false

def lines (filter : LogFilter) (entries : List LogEntry) : List String :=
  (entries.filter filter.admits).map LogEntry.line

end LogFilter
end Datebook

set_option autoImplicit false

namespace Datebook

inductive Program where
  | calendar
  | scheduler
  | sender
  deriving DecidableEq

namespace Program

def name : Program → String
  | calendar => "calendar"
  | scheduler => "calendar-scheduler"
  | sender => "calendar-sender"

def about : Program → String
  | calendar => "Calendar service over HTTP"
  | scheduler => "Publishes due event notifications"
  | sender => "Consumes event notifications"

def all : List Program := [calendar, scheduler, sender]

def ofName? (name : String) : Option Program := all.find? fun program => program.name = name

end Program
end Datebook

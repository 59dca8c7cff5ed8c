set_option autoImplicit false

namespace Datebook

structure Watch where
  stop : Bool
  held : Bool
  deriving DecidableEq

inductive Signal where
  | terminate
  | interrupt
  | other
  deriving DecidableEq

namespace Watch

def start : Watch := ⟨false, true⟩

def request (watch : Watch) : Watch := { watch with stop := true }

def abandon (watch : Watch) : Watch := { watch with held := false }

-- The first signal to end the process sets the flag for good.
def receive (watch : Watch) : Signal → Watch
  | .terminate | .interrupt => watch.request
  | .other => watch

end Watch
end Datebook

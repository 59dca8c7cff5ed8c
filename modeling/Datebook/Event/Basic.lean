import Datebook.Time.Instant

set_option autoImplicit false

namespace Datebook

abbrev EventId := UInt64

abbrev UserId := UInt64

structure Event where
  id : EventId
  userId : UserId
  title : String
  description : String
  onTime : Instant
  offTime : Instant
  notifyTime : Option Instant
  notified : Bool
  deriving DecidableEq

/-- An event as a caller describes it. Instants may be missing; `id` matters to updates only. -/
structure Draft where
  id : EventId
  userId : UserId
  title : String
  description : String
  onTime : Option Instant
  offTime : Option Instant
  notifyTime : Option Instant
  deriving DecidableEq

structure Notice where
  id : EventId
  title : String
  date : Instant
  userId : UserId
  deriving DecidableEq

def Draft.blank : Draft := ⟨0, 0, "", "", none, none, none⟩

namespace Event

/-- Whether the event meets `[first, last]`; touching ends do. -/
def overlaps (event : Event) (first last : Instant) : Bool :=
  decide (event.onTime ≤ last) && decide (first ≤ event.offTime)

def isDue (event : Event) (cutoff : Instant) : Bool :=
  !event.notified && event.notifyTime.any fun time => decide (time ≤ cutoff)

def toDraft (event : Event) : Draft where
  id := event.id
  userId := event.userId
  title := event.title
  description := event.description
  onTime := some event.onTime
  offTime := some event.offTime
  notifyTime := event.notifyTime

def toNotice (event : Event) : Notice where
  id := event.id
  title := event.title
  date := event.onTime
  userId := event.userId

end Event
end Datebook

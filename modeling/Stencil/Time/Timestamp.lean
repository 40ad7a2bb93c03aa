import Stencil.Time.Date

/-!
# Timestamps

A timestamp is an instant together with the offset of the clock that showed it.  The instant is
a count of seconds since 1 January 1970 and of nanoseconds into that second; a second that is
followed by a leap second has nanoseconds of twice a second.  Two timestamps are the same time
if their instants are, and the offset only decides how the time is written.
-/

namespace Stencil

/-- An instant and the offset, in seconds east, of the clock that showed it. -/
structure Timestamp where
  seconds : Int
  nanoseconds : Nat
  offset : Int
  deriving DecidableEq

namespace Timestamp

/-- Whether two timestamps are the same instant. -/
def sameInstant (a b : Timestamp) : Bool :=
  a.seconds = b.seconds && a.nanoseconds = b.nanoseconds

/-- Whether a timestamp is the first instant of 1970 in universal time. -/
def isEpoch (t : Timestamp) : Bool :=
  t.seconds = 0 && t.nanoseconds = 0

/-- The same instant on a clock of universal time. -/
def toUniversal (t : Timestamp) : Timestamp :=
  { t with offset := 0 }

/-- Seconds since 1 January 1970 as the clock shows them. -/
def localSeconds (t : Timestamp) : Int :=
  t.seconds + t.offset

/-- The date that the clock shows. -/
def localDate (t : Timestamp) : Date :=
  Date.ofDays (t.localSeconds / 86400)

/-- Seconds since midnight as the clock shows them. -/
def secondOfDay (t : Timestamp) : Nat :=
  (t.localSeconds % 86400).toNat

end Timestamp

end Stencil

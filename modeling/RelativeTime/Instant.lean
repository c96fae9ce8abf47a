import RelativeTime.Failure
import RelativeTime.Zone.Basic

/-!
An instant seen in a zone, and the way back from a wall clock reading to the instant that shows it.

Only an instant whose UTC reading can be dated exists. Its wall clock may still run out of dates,
by less than a day at either end of the calendar.
-/
namespace RelativeTime

structure Instant where
  utc : Reading
  zone : Zone
  inRange : utc.InRange
  deriving DecidableEq, Repr

namespace Instant

def ofUtc? (zone : Zone) (utc : Reading) : Option Instant :=
  if h : utc.InRange then some ⟨utc, zone, h⟩ else none

def offset (i : Instant) : Int := i.zone.rules.offsetAt i.utc.seconds

/-- The reading of the wall clock, dated or not. -/
def face (i : Instant) : Reading := i.utc.ahead i.offset

def wall (i : Instant) : Answer Reading :=
  if i.face.InRange then .ok i.face else .error .unshowable

def inZone (i : Instant) (zone : Zone) : Instant := { i with zone := zone }

def weekday (i : Instant) : Nat := weekdayOf i.face.day

def after? (i : Instant) (nanos : Int) : Option Instant := ofUtc? i.zone (i.utc.after nanos)

end Instant

namespace Zone

def earliestShowing? (zone : Zone) (wall : Reading) : Option Instant := do
  let offset ← zone.rules.offsetShowing? wall.seconds
  Instant.ofUtc? zone (wall.ahead (-offset))

/-- A reading that no wall clock shows, read with the offset in force a day before. In a gap
that is the offset before the change, so the clock shows the reading moved on by the length of
the gap. -/
def acrossGap? (zone : Zone) (wall : Reading) : Option Instant := do
  let probe := wall.after (-86400000000000)
  guard probe.InRange
  Instant.ofUtc? zone (wall.after (-1000000000 * zone.rules.offsetAt probe.seconds))

def resolve (zone : Zone) (wall : Reading) : Answer Instant :=
  match (zone.earliestShowing? wall).or (zone.acrossGap? wall) with
  | some i => .ok i
  | none => .error (.reported (.readingOutOfRange wall))

end Zone

end RelativeTime

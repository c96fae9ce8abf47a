import RelativeTime.Calendar.Date

/-!
What a clock reads: a date and a time of day to the nanosecond, and whether the clock stands in an
inserted second. The same type serves for UTC and for the wall clock of a zone.

An inserted second has no number of its own in the count of seconds. It is kept as the second
before it with `leap` set, so `60` on the clock face is second 59 of the count.
-/
namespace RelativeTime

structure Reading where
  /-- Nanoseconds from the clock's midnight of 1 January 1970, inserted seconds not counted. -/
  nanos : Int
  leap : Bool
  deriving DecidableEq, Repr

namespace Reading

def seconds (r : Reading) : Int := r.nanos / 1000000000

def inserted (r : Reading) : Int := if r.leap then 1000000000 else 0

/-- Nanoseconds into the second; those of an inserted second follow those of the one before it. -/
def subsecond (r : Reading) : Int := r.nanos % 1000000000 + r.inserted

def day (r : Reading) : Int := r.nanos / 86400000000000

def timeOfDay (r : Reading) : Int := r.nanos % 86400000000000

def secondOfDay (r : Reading) : Int := r.timeOfDay / 1000000000

def midnight (day : Int) : Reading := ⟨86400000000000 * day, false⟩

def onDay (r : Reading) (day : Int) : Reading := ⟨86400000000000 * day + r.timeOfDay, r.leap⟩

/-- The face of a clock that is set `seconds` ahead of this one. -/
def ahead (r : Reading) (seconds : Int) : Reading := ⟨r.nanos + 1000000000 * seconds, r.leap⟩

/-- The reading after `nanos` have elapsed. An inserted second lasts as long as any other: leaving
it backward leads into the second it is kept with, leaving it forward into the next. -/
def after (r : Reading) (nanos : Int) : Reading :=
  if r.leap then
    let reached := r.nanos % 1000000000 + nanos
    if reached < 0 then ⟨r.nanos + nanos + 1000000000, false⟩
    else ⟨r.nanos + nanos, reached < 1000000000⟩
  else ⟨r.nanos + nanos, false⟩

/-- Nanoseconds from `b` to `a`. An inserted second counts unless the other time of day is the
later one; the dates have no say in this. -/
def elapsed (a b : Reading) : Int :=
  a.nanos - b.nanos + (if a.secondOfDay < b.secondOfDay then 0 else a.inserted) -
    (if b.secondOfDay < a.secondOfDay then 0 else b.inserted)

/-- An inserted second comes after all of the second that it is kept with. -/
instance : LT Reading :=
  ⟨fun a b => a.seconds < b.seconds ∨ a.seconds = b.seconds ∧ a.subsecond < b.subsecond⟩

instance (a b : Reading) : Decidable (a < b) := inferInstanceAs (Decidable (_ ∨ _ ∧ _))

def InRange (r : Reading) : Prop := DayInRange r.day

instance (r : Reading) : Decidable r.InRange := inferInstanceAs (Decidable (DayInRange _))

end Reading

end RelativeTime

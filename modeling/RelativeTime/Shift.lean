import RelativeTime.Instant

/-!
Moving an instant by a number of units.

Up to hours, the units are elapsed time. From days on they move the date on the wall calendar and
keep the time of day; months keep the day of the month too, or take the last day of a month that
is shorter.
-/
namespace RelativeTime

open Calendar

def addDays? (day days : Int) : Option Int :=
  if DayInRange (day + days) then some (day + days) else none

/-- The date `months` later. The length of a month is told by the first day of the next, so that
day must be in range as well. -/
def addMonths? (day months : Int) : Option Int :=
  let m := monthOf day + months
  if DayInRange (monthStart m) ∧ DayInRange (monthStart (m + 1)) then
    some (monthStart m + min (day - monthStart (monthOf day)) (monthLength m - 1))
  else none

namespace Instant

def moveDate (i : Instant) (refused : Error) (move : Int → Option Int) : Answer Instant := do
  let wall ← i.wall
  match move wall.day with
  | some day => i.zone.resolve (wall.onDay day)
  | none => .error (.reported refused)

def plus (i : Instant) (unit : TimeUnit) (amount : Int) : Answer Instant :=
  let refused := Error.shiftOutOfRange amount unit
  match unit.stride with
  | .elapsed nanos =>
    match i.after? (amount * nanos) with
    | some moved => .ok moved
    | none => .error (.reported refused)
  | .days count => i.moveDate refused (addDays? · (amount * count))
  | .months count => i.moveDate refused (addMonths? · (amount * count))

end Instant

end RelativeTime

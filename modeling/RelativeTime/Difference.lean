import RelativeTime.Shift

/-!
The difference of two instants by units of the calendar, coarsest first.

Years, months, weeks and days are walked from the first instant toward the second, each as often as
the walk does not pass it; what remains is elapsed time.
-/
namespace RelativeTime

open Calendar

structure Difference where
  years : Int
  months : Int
  weeks : Int
  days : Int
  hours : Int
  minutes : Int
  seconds : Int
  milliseconds : Int
  deriving DecidableEq, Repr

namespace Difference

def get (d : Difference) : TimeUnit → Int
  | .milliseconds => d.milliseconds
  | .seconds => d.seconds
  | .minutes => d.minutes
  | .hours => d.hours
  | .days => d.days
  | .weeks => d.weeks
  | .months => d.months
  | .years => d.years

def units (d : Difference) : List TimeUnit := TimeUnit.descending.filter fun u => d.get u ≠ 0

def isZero (d : Difference) : Bool := TimeUnit.descending.all fun u => d.get u = 0

/-- A signed word of 64 bits: sums that do not fit go round. -/
def word (n : Int) : Int := n.bmod 0x10000000000000000

/-- The same three amounts, months, days and milliseconds, each with as much as possible in its
coarsest unit. Hours are not made into days, which differ in length where a clock changes. -/
def normalize (d : Difference) : Difference :=
  let months := word (d.years * 12 + d.months)
  let days := word (d.weeks * 7 + d.days)
  let millis := word (((d.hours * 60 + d.minutes) * 60 + d.seconds) * 1000 + d.milliseconds)
  { years := months.tdiv 12
    months := months.tmod 12
    weeks := days.tdiv 7
    days := days.tmod 7
    hours := millis.tdiv 3600000
    minutes := (millis.tmod 3600000).tdiv 60000
    seconds := (millis.tmod 60000).tdiv 1000
    milliseconds := millis.tmod 1000 }

end Difference

/-- How many units lie between two dates by their place in the calendar. The walk needs no more. -/
def unitsBetween (stride : Stride) (day day' : Int) : Int :=
  match stride with
  | .elapsed _ => 0
  | .days count => (day' - day).tdiv count
  | .months count => monthOf day' / count - monthOf day / count

namespace Instant

def Passes (i : Instant) (direction : Sign) (target : Reading) : Prop :=
  match direction with
  | .plus => target < i.utc
  | .minus => i.utc < target

instance (i : Instant) (direction : Sign) (target : Reading) :
    Decidable (i.Passes direction target) :=
  match direction with
  | .plus => inferInstanceAs (Decidable (target < i.utc))
  | .minus => inferInstanceAs (Decidable (i.utc < target))

/-- The largest count up to `most` by which the units can be moved at once without passing the
target, and the instant so reached. -/
def walkUpTo (i : Instant) (unit : TimeUnit) (direction : Sign) (target : Reading) :
    Nat → Answer (Nat × Instant)
  | 0 => .ok (0, i)
  | most + 1 =>
    match i.plus unit (direction.apply (most + 1)) with
    | .ok next =>
      if next.Passes direction target then i.walkUpTo unit direction target most
      else .ok (most + 1, next)
    | .error (.reported _) => i.walkUpTo unit direction target most
    | .error .unshowable => .error .unshowable

def walk (i : Instant) (unit : TimeUnit) (direction : Sign) (target : Instant) :
    Answer (Int × Instant) := do
  let wall ← i.wall
  let goal ← target.wall
  let between := unitsBetween unit.stride wall.day goal.day
  let (count, reached) ← i.walkUpTo unit direction target.utc (direction.apply 1 * between).toNat
  return (direction.apply count, reached)

/-- From the anchor to the target, on the wall calendar of the anchor's zone. -/
def difference (anchor target : Instant) : Answer Difference := do
  let goal := target.inZone anchor.zone
  let direction := if goal.utc < anchor.utc then Sign.minus else Sign.plus
  let (years, i) ← anchor.walk .years direction goal
  let (months, i) ← i.walk .months direction goal
  let (weeks, i) ← i.walk .weeks direction goal
  let (days, i) ← i.walk .days direction goal
  let milliseconds := (goal.utc.elapsed i.utc).tdiv 1000000
  return Difference.normalize
    { years, months, weeks, days, hours := 0, minutes := 0, seconds := 0, milliseconds }

end Instant

end RelativeTime

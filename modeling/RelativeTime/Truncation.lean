import RelativeTime.Instant

/-!
The start of the unit that an instant lies in.

Up to hours, what the wall clock shows beyond the last boundary is taken off as elapsed time, so
that in an hour that the clock goes through twice the start is that of the same pass. From days on
the start is a midnight of the wall calendar. Weeks have no start of their own here and count as
days.
-/
namespace RelativeTime

open Calendar

namespace Instant

def midnightOf (i : Instant) (first : Int → Int) : Answer Instant := do
  let wall ← i.wall
  i.zone.resolve (.midnight (first wall.day))

def startOf (i : Instant) (unit : TimeUnit) : Answer Instant :=
  match unit.stride with
  | .elapsed nanos =>
    match i.after? (-(i.face.nanos % nanos)) with
    | some start => .ok start
    | none => do
      let wall ← i.wall
      .error (.reported (.readingOutOfRange wall))
  | .days _ => i.midnightOf id
  | .months count => i.midnightOf fun day => monthStart (count * (monthOf day / count))

end Instant

end RelativeTime

import RelativeTime.Operations
import RelativeTime.Zone.Catalogue

/-!
One instant taken through a series of steps. The zone that the instant is seen in is the zone of
the session: timestamps in later steps are read in it.
-/
namespace RelativeTime

inductive Step where
  | snap (instruction : String)
  | plus (unit : TimeUnit) (amount : Int)
  | startOf (unit : TimeUnit)
  | weekday
  /-- Go on from another timestamp. -/
  | set (timestamp : String)
  /-- See the same instant in another zone. -/
  | zone (text : String)
  | difference (target : String)
  /-- Find the instruction that leads to the target, and follow it. -/
  | unsnap (target : String)
  deriving DecidableEq, Repr

inductive Finding where
  | nothing
  | weekday (number : Nat)
  | difference (d : Difference)
  | instruction (text : String)
  deriving DecidableEq, Repr

def Step.run [Zone.Names] (i : Instant) : Step → Answer (Instant × Finding)
  | .snap instruction => do
    let tokens ← Answer.ofExcept (parse instruction)
    return (← evaluate i tokens, .nothing)
  | .plus unit amount => do return (← i.plus unit amount, .nothing)
  | .startOf unit => do return (← i.startOf unit, .nothing)
  | .weekday => return (i, .weekday i.weekday)
  | .set timestamp => do return (← i.zone.read timestamp, .nothing)
  | .zone text => do
    let zone ← Answer.ofExcept (Zone.ofText text)
    return (i.inZone zone, .nothing)
  | .difference target => do
    let goal ← i.zone.read target
    return (i, .difference (← i.difference goal))
  | .unsnap target => do
    let goal ← i.zone.read target
    let written ← i.format
    let anchor ← i.zone.read written
    let instruction ← anchor.instructionTo goal
    let tokens ← Answer.ofExcept (parse instruction)
    return (← evaluate i tokens, .instruction instruction)

end RelativeTime

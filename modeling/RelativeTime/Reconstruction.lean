import RelativeTime.Difference
import RelativeTime.Evaluation
import RelativeTime.Instruction.Parser
import RelativeTime.Timestamp.Printer

/-!
Finding an instruction that leads from one instant to another.

The difference gives a chain of deltas. Where the chain ends in negative deltas, a snap can stand
for the finer ones of them, and each unit of the difference is tried as the unit of that snap. The
trials are independent and never combined, so the result is the best of them and not of all
instructions.
-/
namespace RelativeTime

namespace Token

def isNegative : Token → Bool
  | .delta d => d.sign == .minus
  | .snap _ => false

def shifts (t : Token) (p : TimeUnit → Bool) : Bool :=
  match t with
  | .delta d => p d.unit
  | .snap _ => false

end Token

/-- The tokens with the negative deltas at their end made into a snap on the unit: deltas on coarser
units and the last one on the unit itself stay, the others go. There is nothing to be made without
a negative delta on the unit among them. -/
def collapse? (tokens : List Token) (unit : TimeUnit) : Option (List Token) :=
  let backward := tokens.reverse
  let head := (backward.dropWhile Token.isNegative).reverse
  match (backward.takeWhile Token.isNegative).dropWhile fun t => !t.shifts (· == unit) with
  | [] => none
  | last :: before =>
    let coarser := before.reverse.filter fun t => t.shifts fun u => unit < u
    some (head ++ coarser ++ [last, .snap ⟨unit, none⟩])

def collapseText (chain : String) (unit : TimeUnit) : Except Error String := do
  let tokens ← parse chain
  return ((collapse? tokens unit).map render).getD chain

namespace Difference

def chain (d : Difference) : List Token :=
  d.units.map fun u => .delta (.saturating (.ofInt (d.get u)) (d.get u).natAbs u)

end Difference

namespace Instant

def landsOn (anchor target : Instant) (tokens : List Token) : Answer Bool :=
  match evaluate anchor tokens with
  | .ok reached => do
    let text ← reached.format
    let written ← target.format
    return text == written
  | .error (.reported _) => .ok false
  | .error .unshowable => .error .unshowable

/-- The better of the best text so far and the chain collapsed on a unit. Of two texts of one
length that of the finer unit, which is tried later, is the better. -/
def improve (anchor target : Instant) (chain : List Token) (best : String) (unit : TimeUnit) :
    Answer String := do
  let tokens := (collapse? chain unit).getD chain
  if best.length < (render tokens).length then return best
  let lands ← anchor.landsOn target tokens
  return if lands then render tokens else best

def instructionTo (anchor target : Instant) : Answer String := do
  let difference ← anchor.difference target
  let chain := difference.chain
  difference.units.foldlM (anchor.improve target chain) (render chain)

end Instant

end RelativeTime

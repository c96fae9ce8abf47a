/-! Direction in time. -/
namespace RelativeTime

inductive Sign where
  | plus
  | minus
  deriving DecidableEq, Repr

namespace Sign

def symbol : Sign → Char
  | .plus => '+'
  | .minus => '-'

def name : Sign → String
  | .plus => "plus"
  | .minus => "minus"

/-- The sign of a number that is not zero; zero counts as positive. -/
def ofInt (n : Int) : Sign := if n < 0 then .minus else .plus

def apply (s : Sign) (n : Nat) : Int :=
  match s with
  | .plus => n
  | .minus => -n

end Sign

end RelativeTime

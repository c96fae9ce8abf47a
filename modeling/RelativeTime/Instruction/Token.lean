import RelativeTime.Sign
import RelativeTime.TimeUnit
import RelativeTime.Text.Digits

/-! The steps of an instruction and the one way each is written. -/
namespace RelativeTime

/-- A shift by a signed number of units. Magnitudes are words of 64 bits. -/
structure Delta where
  sign : Sign
  magnitude : Nat
  unit : TimeUnit
  magnitude_lt : magnitude < 0x10000000000000000
  deriving DecidableEq, Repr

namespace Delta

def saturating (sign : Sign) (magnitude : Nat) (unit : TimeUnit) : Delta where
  sign := sign
  magnitude := min magnitude 0xFFFFFFFFFFFFFFFF
  unit := unit
  magnitude_lt := by omega

/-- The signed amount, unless the magnitude is beyond that of the largest signed word. -/
def amount? (d : Delta) : Option Int :=
  if d.magnitude < 0x8000000000000000 then some (d.sign.apply d.magnitude) else none

def chars (d : Delta) : List Char :=
  d.sign.symbol :: Digits.text d.magnitude ++ d.unit.symbol.toList

def text (d : Delta) : String := String.ofList d.chars

end Delta

/-- An alignment to the start of a unit, for weeks to a weekday: 0 and 7 are Sunday, and so is
no weekday at all. On other units a weekday has no effect. -/
structure Snap where
  unit : TimeUnit
  weekday : Option Nat
  deriving DecidableEq, Repr

namespace Snap

def chars (s : Snap) : List Char :=
  '@' :: s.unit.symbol.toList ++ (s.weekday.map Digits.text).getD []

end Snap

inductive Token where
  | delta (d : Delta)
  | snap (s : Snap)
  deriving DecidableEq, Repr

namespace Token

def chars : Token → List Char
  | .delta d => d.chars
  | .snap s => s.chars

def text (t : Token) : String := String.ofList t.chars

end Token

def render (tokens : List Token) : String := String.ofList (tokens.flatMap Token.chars)

end RelativeTime

import RelativeTime.Sign
import RelativeTime.Text.Scan

/-! Offsets from UTC and their two written forms: one is read strictly, the other leniently. -/
namespace RelativeTime

/-- Seconds that a clock is ahead of UTC, less than a day either way. -/
structure FixedOffset where
  seconds : Int
  above : -86400 < seconds
  below : seconds < 86400
  deriving DecidableEq, Repr

namespace FixedOffset

def utc : FixedOffset := ⟨0, by decide, by decide⟩

def ofSeconds? (seconds : Int) : Option FixedOffset :=
  if h : -86400 < seconds ∧ seconds < 86400 then some ⟨seconds, h.1, h.2⟩ else none

def scan (sign : Sign) (separator : List Char → Option (List Char)) : Scan FixedOffset :=
  fun cs => do
    let (hours, cs) ← Scan.digits 2 2 cs
    let cs ← separator cs
    let (minutes, cs) ← Scan.digits 2 2 cs
    guard (minutes ≤ 59)
    let offset ← ofSeconds? (sign.apply (3600 * hours + 60 * minutes))
    return (offset, cs)

/-- The end of an RFC 3339 time. U+2212 is a minus sign too. -/
def scanSuffix : Scan FixedOffset
  | [] => none
  | c :: cs =>
    let colon := fun cs => (Scan.literal ':' cs).map Prod.snd
    if c == 'Z' || c == 'z' then some (utc, cs)
    else if c == '+' then scan .plus colon cs
    else if c == '-' || c == '\u2212' then scan .minus colon cs
    else none

/-- An offset that names a zone. Any colons and blanks may part hours and minutes, and nothing
that follows the minutes matters. -/
def ofChars? : List Char → Option FixedOffset
  | [] => none
  | c :: cs =>
    let loose := fun cs : List Char => some (cs.dropWhile fun c => c == ':' || isBlank c)
    if c == '+' then (scan .plus loose cs).map Prod.fst
    else if c == '-' then (scan .minus loose cs).map Prod.fst
    else none

end FixedOffset

/-- Offsets are written to the nearest minute, halves away from zero; only zero itself is `Z`. -/
def offsetChars (seconds : Int) : List Char :=
  if seconds = 0 then ['Z']
  else
    let minutes := (seconds.natAbs + 30) / 60
    (Sign.ofInt seconds).symbol :: Digits.padded 2 (minutes / 60) ++
      ':' :: Digits.padded 2 (minutes % 60)

end RelativeTime

import RelativeTime.Instant

/-! Instants in writing: `1980-01-15T14:30:05.250-06:00`. -/
namespace RelativeTime

/-- Three digits of the fraction, cut off and not rounded, and then the offset. -/
def stampChars (wall : Reading) (offset : Int) : List Char :=
  wall.faceChars ++ '.' :: Digits.padded 3 (wall.fraction / 1000000) ++ offsetChars offset

def Instant.format (i : Instant) : Answer String := do
  let wall ← i.wall
  return String.ofList (stampChars wall i.offset)

end RelativeTime

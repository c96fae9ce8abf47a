import RelativeTime.Reading
import RelativeTime.Sign
import RelativeTime.Text.Digits

/-! The written face of a clock: `1980-01-15T14:30:05`. -/
namespace RelativeTime

/-- Years 0 to 9999 have four digits, all others a sign and at least four. -/
def yearChars (year : Int) : List Char :=
  if 0 ≤ year ∧ year ≤ 9999 then Digits.padded 4 year.toNat
  else (Sign.ofInt year).symbol :: Digits.padded 4 year.natAbs

namespace Date

def chars (d : Date) : List Char :=
  yearChars d.year ++ '-' :: Digits.padded 2 d.month ++ '-' :: Digits.padded 2 d.day

end Date

namespace Reading

def hour (r : Reading) : Nat := (r.secondOfDay / 3600).toNat

def minute (r : Reading) : Nat := (r.secondOfDay / 60 % 60).toNat

def second (r : Reading) : Nat := (r.secondOfDay % 60).toNat + if r.leap then 1 else 0

def fraction (r : Reading) : Nat := (r.nanos % 1000000000).toNat

def faceChars (r : Reading) : List Char :=
  (Date.ofDay r.day).chars ++ 'T' :: Digits.padded 2 r.hour ++ ':' :: Digits.padded 2 r.minute ++
    ':' :: Digits.padded 2 r.second

/-- No fraction, or three, six or nine digits of it: the fewest that lose nothing. -/
def fractionChars (nanos : Nat) : List Char :=
  if nanos = 0 then []
  else if nanos % 1000000 = 0 then '.' :: Digits.padded 3 (nanos / 1000000)
  else if nanos % 1000 = 0 then '.' :: Digits.padded 6 (nanos / 1000)
  else '.' :: Digits.padded 9 nanos

def text (r : Reading) : String := String.ofList (r.faceChars ++ fractionChars r.fraction)

end Reading

end RelativeTime

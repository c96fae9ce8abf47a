import RelativeTime.Instant
import RelativeTime.Text.Scan

/-!
Reading a timestamp: either a date and time with its own offset, in the strict layout of RFC 3339,
or one without, which the wall clock of a zone is to show. The second kind has more layouts and
takes blanks before its numbers.
-/
namespace RelativeTime

/-- A reading from what a clock face shows. Second 60 is the inserted second of any minute. -/
def Reading.ofFace? (date : Date) (hour minute second fraction : Nat) : Option Reading :=
  if date.Valid ∧ hour ≤ 23 ∧ minute ≤ 59 ∧ second ≤ 60 then
    let seconds : Int := 86400 * date.toDay + 3600 * hour + 60 * minute + min second 59
    some ⟨1000000000 * seconds + fraction, second = 60⟩
  else none

namespace Timestamp

/-- Four digits of year, two of all else, seconds with or without a fraction, and the offset. -/
def scanAbsolute : Scan Reading := fun cs => do
  let (year, cs) ← Scan.digits 4 4 cs
  let (_, cs) ← Scan.literal '-' cs
  let (month, cs) ← Scan.digits 2 2 cs
  let (_, cs) ← Scan.literal '-' cs
  let (day, cs) ← Scan.digits 2 2 cs
  let (_, cs) ← Scan.one (fun c => c == 'T' || c == 't' || c == ' ') cs
  let (hour, cs) ← Scan.digits 2 2 cs
  let (_, cs) ← Scan.literal ':' cs
  let (minute, cs) ← Scan.digits 2 2 cs
  let (_, cs) ← Scan.literal ':' cs
  let (second, cs) ← Scan.digits 2 2 cs
  let (fraction, cs) ← Scan.fraction cs
  let (offset, cs) ← FixedOffset.scanSuffix cs
  let face ← Reading.ofFace? ⟨year, month, day⟩ hour minute second fraction
  return (face.ahead (-offset.seconds), cs)

def readAbsolute? (cs : List Char) : Option Reading := Scan.whole scanAbsolute cs

def scanYear : Scan Int := fun cs =>
  match skipBlanks cs with
  | '+' :: cs => (Scan.number cs).map fun (n, rest) => (n, rest)
  | '-' :: cs => (Scan.number cs).map fun (n, rest) => (-n, rest)
  | cs => (Scan.digits 1 4 cs).map fun (n, rest) => (n, rest)

def scanDate : Scan Date := fun cs => do
  let (year, cs) ← scanYear cs
  let (_, cs) ← Scan.literal '-' cs
  let (month, cs) ← Scan.spacedDigits 2 cs
  let (_, cs) ← Scan.literal '-' cs
  let (day, cs) ← Scan.spacedDigits 2 cs
  return (⟨year, month, day⟩, cs)

structure TimeOfDay where
  hour : Nat
  minute : Nat
  second : Nat
  fraction : Nat
  deriving DecidableEq, Repr

def scanMinutes : Scan TimeOfDay := fun cs => do
  let (hour, cs) ← Scan.spacedDigits 2 cs
  let (_, cs) ← Scan.literal ':' cs
  let (minute, cs) ← Scan.spacedDigits 2 cs
  return (⟨hour, minute, 0, 0⟩, cs)

def scanSeconds : Scan TimeOfDay := fun cs => do
  let (time, cs) ← scanMinutes cs
  let (_, cs) ← Scan.literal ':' cs
  let (second, cs) ← Scan.spacedDigits 2 cs
  let (fraction, cs) ← Scan.fraction cs
  return ({ time with second, fraction }, cs)

def width (cs : List Char) : Nat := cs.foldr (fun c n => c.utf8Size + n) 0

/-- Two digits are an hour, any five bytes hours and minutes, all else has seconds. -/
def readTime? (cs : List Char) : Option TimeOfDay :=
  if cs.length = 2 ∧ cs.all Char.isDigit then some ⟨Digits.value cs, 0, 0, 0⟩
  else if width cs = 5 then Scan.whole scanMinutes cs
  else Scan.whole scanSeconds cs

/-- A date of ten bytes, then nothing or a time after the first `T`. -/
def readLocal? (cs : List Char) : Option Reading := do
  let written := cs.takeWhile (· != 'T')
  guard (width written = 10)
  let date ← Scan.whole scanDate written
  match cs.dropWhile (· != 'T') with
  | [] => Reading.ofFace? date 0 0 0 0
  | _ :: rest =>
    let time ← readTime? rest
    Reading.ofFace? date time.hour time.minute time.second time.fraction

end Timestamp

def Zone.read (zone : Zone) (text : String) : Answer Instant :=
  let unreadable := Failure.reported (.unreadableTimestamp text)
  match Timestamp.readAbsolute? text.toList with
  | some utc =>
    match Instant.ofUtc? zone utc with
    | some i => .ok i
    | none => .error unreadable
  | none =>
    match Timestamp.readLocal? text.toList with
    | some wall => zone.resolve wall
    | none => .error unreadable

end RelativeTime

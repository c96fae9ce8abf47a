import RelativeTime.Calendar.Month

/-! Civil dates, weekdays, and the days that can be represented at all. -/
namespace RelativeTime

open Calendar

structure Date where
  year : Int
  month : Nat
  day : Nat
  deriving DecidableEq, Repr

namespace Date

def ofDay (day : Int) : Date :=
  let m := monthOf day
  { year := m / 12, month := (m % 12).toNat + 1, day := (day - monthStart m).toNat + 1 }

def monthIndex (d : Date) : Int := 12 * d.year + d.month - 1

def toDay (d : Date) : Int := monthStart d.monthIndex + d.day - 1

def Valid (d : Date) : Prop :=
  1 ≤ d.month ∧ d.month ≤ 12 ∧ 1 ≤ d.day ∧ (d.day : Int) ≤ monthLength d.monthIndex

instance (d : Date) : Decidable d.Valid :=
  inferInstanceAs (Decidable (_ ∧ _ ∧ _ ∧ _))

theorem toDay_ofDay (day : Int) : (ofDay day).toDay = day := by
  have h := monthStart_monthOf_le day
  have hm : (ofDay day).monthIndex = monthOf day := by
    simp only [monthIndex, ofDay]
    omega
  simp only [toDay, hm]
  simp only [ofDay]
  omega

theorem valid_ofDay (day : Int) : (ofDay day).Valid := by
  have h := monthStart_monthOf_le day
  have h' := lt_monthStart_monthOf_succ day
  have hm : (ofDay day).monthIndex = monthOf day := by
    simp only [monthIndex, ofDay]
    omega
  simp only [Valid, hm, monthLength]
  simp only [ofDay]
  omega

end Date

/-- Sunday is 0. Day 0 is a Thursday. -/
def weekdayOf (day : Int) : Nat := ((day + 4) % 7).toNat

/-- The first of January of the year -262143. -/
def firstDay : Int := monthStart (12 * -262143)

/-- The last of December of the year 262142. -/
def lastDay : Int := monthStart (12 * 262143) - 1

def DayInRange (day : Int) : Prop := firstDay ≤ day ∧ day ≤ lastDay

instance (day : Int) : Decidable (DayInRange day) := inferInstanceAs (Decidable (_ ∧ _))

theorem firstDay_eq : firstDay = -96465292 := by decide

theorem lastDay_eq : lastDay = 95026236 := by decide

end RelativeTime

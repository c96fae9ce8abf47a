import RelativeTime.Proofs.Zone.Resolution
import RelativeTime.Shift

/-! Dates moved by units of the calendar. A move is strictly monotone in its amount; it keeps to
the month it is aimed at, and the months of the calendar are nearly of one length, so that counts of
months and of days bound each other. -/
namespace RelativeTime

open Calendar

namespace Calendar

/-- The date so many months on, the day of the month kept where the month has it. -/
def monthsOn (day months : Int) : Int :=
  monthStart (monthOf day + months) +
    min (day - monthStart (monthOf day)) (monthLength (monthOf day + months) - 1)

variable (day n : Int)

theorem monthsOn_bounds :
    monthStart (monthOf day + n) ≤ monthsOn day n ∧
      monthsOn day n < monthStart (monthOf day + n + 1) := by
  have h₁ := monthStart_monthOf_le day
  have h₂ := (monthLength_bounds (monthOf day + n)).1
  unfold monthsOn
  unfold monthLength at h₂ ⊢
  omega

theorem monthOf_monthsOn : monthOf (monthsOn day n) = monthOf day + n :=
  monthOf_eq_iff.mpr (monthsOn_bounds day n)

theorem monthsOn_zero : monthsOn day 0 = day := by
  have h₁ := monthStart_monthOf_le day
  have h₂ := lt_monthStart_monthOf_succ day
  unfold monthsOn monthLength
  rw [Int.add_zero]
  omega

theorem monthsOn_lt {m n : Int} (h : m < n) : monthsOn day m < monthsOn day n := by
  have h₁ := (monthsOn_bounds day m).2
  have h₂ := (monthsOn_bounds day n).1
  have hindex : monthOf day + m + 1 ≤ monthOf day + n := by omega
  have h₃ := monthStart_mono hindex
  omega

theorem monthsOn_le {m n : Int} (h : m ≤ n) : monthsOn day m ≤ monthsOn day n := by
  rcases Int.lt_or_eq_of_le h with h | rfl
  · exact Int.le_of_lt (monthsOn_lt day h)
  · exact Int.le_refl _

theorem day_near_month : 146097 * monthOf day - 3453750000 ≤ 4800 * day ∧
    4800 * day ≤ 146097 * monthOf day - 3453720000 + 4800 * 30 := by
  have h₁ := monthStart_monthOf_le day
  have h₂ := lt_monthStart_monthOf_succ day
  have h₃ := (monthLength_bounds (monthOf day)).2
  have h₄ := le_monthStart (monthOf day)
  have h₅ := monthStart_le (monthOf day)
  unfold monthLength at h₃
  omega

theorem monthsOn_near : 146097 * (monthOf day + n) - 3453750000 ≤ 4800 * monthsOn day n ∧
    4800 * monthsOn day n ≤ 146097 * (monthOf day + n) - 3453720000 + 4800 * 30 := by
  have := day_near_month (monthsOn day n)
  rwa [monthOf_monthsOn] at this

theorem monthStart_inj {m m' : Int} : monthStart m = monthStart m' ↔ m = m' := by
  constructor
  · intro h
    rw [← monthOf_monthStart m, h, monthOf_monthStart]
  · intro h
    rw [h]

theorem monthOf_mono {a b : Int} (h : a ≤ b) : monthOf a ≤ monthOf b :=
  monthStart_le_iff.mp (Int.le_trans (monthStart_monthOf_le a) h)

theorem lt_of_monthOf_lt {a b : Int} (h : monthOf a < monthOf b) : a < b := by
  by_contra hle
  have hmono := monthOf_mono (Int.not_lt.mp hle)
  omega

theorem monthOf_near {a b : Int} (h : a - 28 ≤ b ∧ b ≤ a + 28) :
    monthOf a - 1 ≤ monthOf b ∧ monthOf b ≤ monthOf a + 1 := by
  have ha := monthStart_monthOf_le a
  have ha' := lt_monthStart_monthOf_succ a
  have hb := monthStart_monthOf_le b
  have hb' := lt_monthStart_monthOf_succ b
  constructor
  · have hlen := (monthLength_bounds (monthOf a - 1)).1
    rw [monthLength, Int.sub_add_cancel] at hlen
    exact monthStart_le_iff.mp (by omega)
  · have hlen := (monthLength_bounds (monthOf b - 1)).1
    rw [monthLength, Int.sub_add_cancel] at hlen
    have := monthStart_le_iff.mp (show monthStart (monthOf b - 1) ≤ a by omega)
    omega

end Calendar

theorem firstDay_le_iff {day : Int} : firstDay ≤ day ↔ 12 * -262143 ≤ monthOf day :=
  monthStart_le_iff

theorem dayInRange_iff_month {day : Int} :
    DayInRange day ↔ 12 * -262143 ≤ monthOf day ∧ monthOf day < 12 * 262143 := by
  have hlast : monthStart (12 * 262143) ≤ day ↔ 12 * 262143 ≤ monthOf day := monthStart_le_iff
  rw [DayInRange, firstDay_le_iff, lastDay]
  omega

theorem addMonths?_eq_some_iff {day months reached : Int} : addMonths? day months = some reached ↔
    reached = monthsOn day months ∧ 12 * -262143 ≤ monthOf reached ∧
      monthOf reached < 12 * 262142 + 11 := by
  have hrange : DayInRange (monthStart (monthOf day + months)) ∧
      DayInRange (monthStart (monthOf day + months + 1)) ↔
      12 * -262143 ≤ monthOf day + months ∧ monthOf day + months < 12 * 262142 + 11 := by
    rw [dayInRange_iff_month, dayInRange_iff_month, monthOf_monthStart, monthOf_monthStart]
    omega
  simp only [addMonths?, hrange]
  constructor
  · intro h
    split at h
    · rename_i hmonth
      obtain rfl := Option.some.inj h
      have hreached := monthOf_monthsOn day months
      exact ⟨rfl, hreached.symm ▸ hmonth⟩
    · cases h
  · rintro ⟨rfl, h⟩
    rw [monthOf_monthsOn] at h
    exact if_pos h

theorem addDays?_eq_some_iff {day days reached : Int} : addDays? day days = some reached ↔
    DayInRange (day + days) ∧ reached = day + days := by
  unfold addDays?
  split
  · rename_i h
    simp only [h, true_and, Option.some.injEq]
    exact eq_comm
  · rename_i h
    simp only [h, reduceCtorEq, false_and]

namespace Stride

def move : Stride → Int → Int → Int
  | .elapsed _, day, _ => day
  | .days count, day, amount => day + amount * count
  | .months count, day, amount => monthsOn day (amount * count)

def move? : Stride → Int → Int → Option Int
  | .elapsed _, _, _ => none
  | .days count, day, amount => addDays? day (amount * count)
  | .months count, day, amount => addMonths? day (amount * count)

end Stride

namespace TimeUnit

def MovesDate (u : TimeUnit) : Prop := u = .days ∨ u = .weeks ∨ u = .months ∨ u = .years

instance (u : TimeUnit) : Decidable u.MovesDate := inferInstanceAs (Decidable (_ ∨ _ ∨ _ ∨ _))

theorem movesDate_iff {u : TimeUnit} : u.MovesDate ↔ ∀ nanos, u.stride ≠ .elapsed nanos := by
  cases u <;> simp [MovesDate, stride]

def MovesMonth (u : TimeUnit) : Prop := u = .months ∨ u = .years

instance (u : TimeUnit) : Decidable u.MovesMonth := inferInstanceAs (Decidable (_ ∨ _))

theorem MovesMonth.movesDate {u : TimeUnit} (h : u.MovesMonth) : u.MovesDate := by
  rcases h with rfl | rfl <;> decide

theorem exists_elapsed {u : TimeUnit} (hu : ¬ u.MovesDate) :
    ∃ nanos, u.stride = .elapsed nanos := by
  rw [movesDate_iff] at hu
  push Not at hu
  exact hu

theorem elapsed_cases {u : TimeUnit} {nanos : Int} (h : u.stride = .elapsed nanos) :
    u = .milliseconds ∧ nanos = 1000000 ∨ u = .seconds ∧ nanos = 1000000000 ∨
      u = .minutes ∧ nanos = 60000000000 ∨ u = .hours ∧ nanos = 3600000000000 := by
  cases u <;> simp_all [stride]

theorem months_bounds {u : TimeUnit} {count : Int} (h : u.stride = .months count) :
    0 < count ∧ count ≤ 12 := by
  cases u <;> simp only [stride, reduceCtorEq, Stride.months.injEq] at h <;> omega

theorem move_lt {u : TimeUnit} (hu : u.MovesDate) (day : Int) {m n : Int} (h : m < n) :
    u.stride.move day m < u.stride.move day n := by
  rcases hu with rfl | rfl | rfl | rfl
  · simp only [stride, Stride.move]; omega
  · simp only [stride, Stride.move]; omega
  · exact monthsOn_lt day (by omega)
  · exact monthsOn_lt day (by omega)

theorem move_zero {u : TimeUnit} (hu : u.MovesDate) (day : Int) : u.stride.move day 0 = day := by
  rcases hu with rfl | rfl | rfl | rfl <;> simp [stride, Stride.move, monthsOn_zero]

/-- The first date of the unit that a date lies in, where the units that count are months or
years, and otherwise the date itself. -/
def firstDate (u : TimeUnit) (day : Int) : Int :=
  match u.stride with
  | .months count => monthStart (count * (monthOf day / count))
  | _ => day

theorem firstDate_cases (u : TimeUnit) : (∃ count, 0 < count ∧ count ≤ 12 ∧
      ∀ day, u.firstDate day = monthStart (count * (monthOf day / count))) ∨
    ∀ day, u.firstDate day = day := by
  cases h : u.stride with
  | months count =>
    obtain ⟨hpos, hle⟩ := months_bounds h
    exact .inl ⟨count, hpos, hle, fun day => by simp only [firstDate, h]⟩
  | elapsed nanos => exact .inr fun day => by simp only [firstDate, h]
  | days count => exact .inr fun day => by simp only [firstDate, h]

/-- Going back to the first date is a floor: it leads to no later date, keeps the order of dates,
and stays where it has led. -/
theorem firstDate_le (u : TimeUnit) (day : Int) : u.firstDate day ≤ day := by
  rcases u.firstDate_cases with ⟨count, hpos, -, h⟩ | h
  · rw [h]
    exact monthStart_le_iff.mpr (Int.mul_ediv_self_le (by omega))
  · exact Int.le_of_eq (h day)

theorem firstDate_mono (u : TimeUnit) {day day' : Int} (hle : day ≤ day') :
    u.firstDate day ≤ u.firstDate day' := by
  rcases u.firstDate_cases with ⟨count, hpos, -, h⟩ | h
  · have hquotient := Int.ediv_le_ediv hpos (monthOf_mono hle)
    rw [h, h]
    exact monthStart_mono (Int.mul_le_mul_of_nonneg_left hquotient (Int.le_of_lt hpos))
  · rw [h, h]
    exact hle

theorem firstDate_again (u : TimeUnit) (day : Int) :
    u.firstDate (u.firstDate day) = u.firstDate day := by
  rcases u.firstDate_cases with ⟨count, hpos, -, h⟩ | h
  · rw [h, h, monthOf_monthStart, Int.mul_ediv_cancel_left _ (by omega)]
  · exact h _

theorem firstDate_near (u : TimeUnit) (day : Int) : day - 400 ≤ u.firstDate day := by
  rcases u.firstDate_cases with ⟨count, hpos, hle, h⟩ | h
  · have hsplit := Int.mul_ediv_add_emod (monthOf day) count
    have hrest := Int.emod_lt_of_pos (monthOf day) hpos
    rw [h]
    generalize count * (monthOf day / count) = m at *
    have hstart := le_monthStart m
    have hmonth := day_near_month day
    omega
  · have hsame := h day
    omega

theorem firstDate_between (u : TimeUnit) {day day' : Int} (h : u.firstDate day ≤ day')
    (h' : day' ≤ day) : u.firstDate day' = u.firstDate day := by
  have hle := u.firstDate_mono h'
  have hge := u.firstDate_mono h
  rw [firstDate_again] at hge
  omega

/-- A date that is moved by days is only asked to be in the calendar, one that is moved by months is
asked to have a month after it. -/
theorem move?_eq_some_iff {u : TimeUnit} (hu : u.MovesDate) {day n reached : Int} :
    u.stride.move? day n = some reached ↔ reached = u.stride.move day n ∧ DayInRange reached ∧
      ¬ (u.MovesMonth ∧ monthOf reached = 12 * 262142 + 11) := by
  have hdays (n : Int) : addDays? day n = some reached ↔
      reached = day + n ∧ DayInRange reached := by
    rw [addDays?_eq_some_iff]
    constructor
    · rintro ⟨h, rfl⟩
      exact ⟨rfl, h⟩
    · rintro ⟨rfl, h⟩
      exact ⟨h, rfl⟩
  have hmonths (n : Int) : addMonths? day n = some reached ↔
      reached = monthsOn day n ∧ DayInRange reached ∧ monthOf reached ≠ 12 * 262142 + 11 := by
    rw [addMonths?_eq_some_iff, dayInRange_iff_month]
    omega
  rcases hu with rfl | rfl | rfl | rfl
  · simpa [stride, Stride.move?, Stride.move, MovesMonth] using hdays (n * 1)
  · simpa [stride, Stride.move?, Stride.move, MovesMonth] using hdays (n * 7)
  · simpa [stride, Stride.move?, Stride.move, MovesMonth] using hmonths (n * 1)
  · simpa [stride, Stride.move?, Stride.move, MovesMonth] using hmonths (n * 12)

end TimeUnit

namespace Instant

variable {i j : Instant} {u : TimeUnit} {n : Int}

theorem wall_of_inRange (h : i.face.InRange) : i.wall = .ok i.face := by simp [wall, h]

theorem wall_eq_error_iff {e : Failure} :
    i.wall = .error e ↔ e = .unshowable ∧ ¬ i.face.InRange := by
  unfold wall
  split <;> simp_all [eq_comm]

theorem inRange_of_wall {r : Reading} (h : i.wall = .ok r) : i.face.InRange ∧ r = i.face := by
  unfold wall at h
  split at h
  · exact ⟨by assumption, (Except.ok.inj h).symm⟩
  · cases h

theorem plus_eq_moveDate (hu : u.MovesDate) (n : Int) :
    i.plus u n = i.moveDate (.shiftOutOfRange n u) (u.stride.move? · n) := by
  rcases hu with rfl | rfl | rfl | rfl <;> rfl

theorem plus_elapsed_eq_ok_iff {nanos : Int} (hu : u.stride = .elapsed nanos) :
    i.plus u n = .ok j ↔ j.zone = i.zone ∧ j.utc = i.utc.after (n * nanos) := by
  have hafter : i.after? (n * nanos) = some j ↔
      j.zone = i.zone ∧ j.utc = i.utc.after (n * nanos) := ofUtc?_eq_some_iff
  rw [← hafter]
  simp only [plus, hu]
  cases i.after? (n * nanos) <;> simp

theorem plus_of_dated (hu : u.MovesDate) (hi : i.face.InRange)
    (hd : DayInRange (u.stride.move i.face.day n))
    (hlast : ¬ (u.MovesMonth ∧ monthOf (u.stride.move i.face.day n) = 12 * 262142 + 11)) :
    i.plus u n = i.zone.resolve (i.face.onDay (u.stride.move i.face.day n)) := by
  have hmove := (TimeUnit.move?_eq_some_iff hu).mpr ⟨rfl, hd, hlast⟩
  rw [plus_eq_moveDate hu, moveDate, wall_of_inRange hi, Answer.bind_ok, hmove]

/-- A move that succeeds leads from a date to a date, and resolves the reading at the same time of
day. -/
theorem plus_date_eq_ok_iff (hu : u.MovesDate) : i.plus u n = .ok j ↔ i.face.InRange ∧
    DayInRange (u.stride.move i.face.day n) ∧
    ¬ (u.MovesMonth ∧ monthOf (u.stride.move i.face.day n) = 12 * 262142 + 11) ∧
    i.zone.resolve (i.face.onDay (u.stride.move i.face.day n)) = .ok j := by
  constructor
  · intro h
    rw [plus_eq_moveDate hu, moveDate, Answer.bind_eq_ok] at h
    obtain ⟨r, hr, h⟩ := h
    obtain ⟨hi, rfl⟩ := inRange_of_wall hr
    split at h
    · rename_i day hday
      obtain ⟨rfl, hd, hlast⟩ := (TimeUnit.move?_eq_some_iff hu).mp hday
      exact ⟨hi, hd, hlast, h⟩
    · cases h
  · rintro ⟨hi, hd, hlast, h⟩
    rw [plus_of_dated hu hi hd hlast, h]

theorem resolve_of_plus (hu : u.MovesDate) (h : i.plus u n = .ok j) : i.face.InRange ∧
    i.zone.resolve (i.face.onDay (u.stride.move i.face.day n)) = .ok j := by
  obtain ⟨hi, -, -, hresolve⟩ := (plus_date_eq_ok_iff hu).mp h
  exact ⟨hi, hresolve⟩

theorem dayInRange_of_plus (hu : u.MovesDate) (h : i.plus u n = .ok j) :
    DayInRange (u.stride.move i.face.day n) :=
  ((plus_date_eq_ok_iff hu).mp h).2.1

theorem plus_of_early (hu : u.MovesDate) (hi : i.face.InRange)
    (hd : firstDay ≤ u.stride.move i.face.day n ∧
      u.stride.move i.face.day n < monthStart (12 * 262142 + 11)) :
    i.plus u n = i.zone.resolve (i.face.onDay (u.stride.move i.face.day n)) := by
  have hend : monthStart (12 * 262142 + 11) ≤ lastDay := by decide
  refine plus_of_dated hu hi ⟨hd.1, by omega⟩ ?_
  rintro ⟨-, hmonth⟩
  have hlate : monthStart (12 * 262142 + 11) ≤ u.stride.move i.face.day n :=
    monthStart_le_iff.mpr (Int.le_of_eq hmonth.symm)
  omega

theorem plus_of_inner (hu : u.MovesDate) (hi : i.face.InRange)
    (hd : firstDay + 31 ≤ u.stride.move i.face.day n ∧
      u.stride.move i.face.day n + 31 ≤ lastDay) :
    i.plus u n = i.zone.resolve (i.face.onDay (u.stride.move i.face.day n)) := by
  have hdecember : monthStart (12 * 262142 + 11) = lastDay - 30 := by decide
  exact plus_of_early hu hi ⟨by omega, by omega⟩

theorem resolve_ne_unshowable (zone : Zone) (wall : Reading) :
    zone.resolve wall ≠ .error .unshowable := by
  unfold Zone.resolve
  split <;> simp

theorem wall_bind_unshowable_iff {α : Type} {f : Reading → Answer α}
    (hf : ∀ wall, f wall ≠ .error .unshowable) :
    (i.wall >>= f) = .error .unshowable ↔ ¬ i.face.InRange := by
  rw [Answer.bind_eq_error, wall_eq_error_iff]
  constructor
  · rintro (⟨-, h⟩ | ⟨wall, -, h⟩)
    · exact h
    · exact absurd h (hf wall)
  · intro h
    exact .inl ⟨rfl, h⟩

theorem moveDate_unshowable_iff {refused : Error} {move : Int → Option Int} :
    i.moveDate refused move = .error .unshowable ↔ ¬ i.face.InRange := by
  refine wall_bind_unshowable_iff fun wall => ?_
  split
  · exact resolve_ne_unshowable _ _
  · simp

theorem plus_unshowable_iff :
    i.plus u n = .error .unshowable ↔ u.MovesDate ∧ ¬ i.face.InRange := by
  by_cases hu : u.MovesDate
  · rw [plus_eq_moveDate hu, moveDate_unshowable_iff]
    exact (and_iff_right hu).symm
  · have hplus : i.plus u n ≠ .error .unshowable := by
      obtain ⟨nanos, hnanos⟩ := TimeUnit.exists_elapsed hu
      simp only [plus, hnanos]
      split <;> simp
    exact iff_of_false hplus fun h => hu h.1

theorem plus_ne_unshowable (hi : i.face.InRange) : i.plus u n ≠ .error .unshowable :=
  fun h => (plus_unshowable_iff.mp h).2 hi

end Instant

end RelativeTime

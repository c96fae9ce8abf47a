import RelativeTime.Proofs.Route

/-! Shifts in machine words. An amount is a signed word of 64 bits, a length of time is a count of
milliseconds that hardly fits into more, a year is a word of 32 bits, and where nothing is checked a
sum that does not fit goes round. None of this can be told from the result: what does not fit would
lead out of the calendar, and the sums that are not checked are those of dates. -/
namespace RelativeTime

open Calendar

namespace MachineWord

def between? (low high n : Int) : Option Int := if low ≤ n ∧ n ≤ high then some n else none

def long? : Int → Option Int := between? (-0x8000000000000000) 0x7fffffffffffffff

def int? : Int → Option Int := between? (-0x80000000) 0x7fffffff

def natural? : Int → Option Int := between? 0 0xffffffff

/-- Sums of words without a sign go round, too. -/
def natural (n : Int) : Int := n % 0x100000000

/-- A length of time in milliseconds. It can be negated, so the least word is none. -/
def duration? : Int → Option Int := between? (-0x7fffffffffffffff) 0x7fffffffffffffff

def ofSeconds? (seconds : Int) : Option Int := do
  let seconds ← long? seconds
  duration? (1000 * seconds)

variable {low high n m : Int}

theorem between?_eq_some_iff : between? low high n = some m ↔ m = n ∧ low ≤ n ∧ n ≤ high := by
  unfold between?
  split
  · rename_i h
    simp only [Option.some.injEq, h, and_true]
    exact eq_comm
  · rename_i h
    simp only [reduceCtorEq, h, and_false]

theorem ofSeconds?_eq_some_iff : ofSeconds? n = some m ↔
    m = 1000 * n ∧ -0x7fffffffffffffff ≤ m ∧ m ≤ 0x7fffffffffffffff := by
  simp only [ofSeconds?, long?, duration?, Option.bind_eq_bind, Option.bind_eq_some_iff,
    between?_eq_some_iff]
  constructor
  · rintro ⟨s, ⟨rfl, -⟩, rfl, h⟩
    exact ⟨rfl, h⟩
  · rintro ⟨rfl, h⟩
    exact ⟨n, ⟨rfl, by omega, by omega⟩, rfl, h⟩

/-- What has to be a word before it is used leads nowhere else if it is none. -/
theorem bind_long?_eq {α : Type} {n : Int} {f : Int → Option α}
    (h : ∀ a, f n = some a → -0x8000000000000000 ≤ n ∧ n ≤ 0x7fffffffffffffff) :
    (long? n).bind f = f n := by
  ext a
  simp only [long?, Option.bind_eq_some_iff, between?_eq_some_iff]
  constructor
  · rintro ⟨_, ⟨rfl, -⟩, ha⟩
    exact ha
  · intro ha
    exact ⟨n, ⟨rfl, h a ha⟩, ha⟩

theorem bind_ofSeconds?_eq (n : Int) : (long? n).bind ofSeconds? = ofSeconds? n := by
  refine bind_long?_eq fun m h => ?_
  obtain ⟨rfl, h⟩ := ofSeconds?_eq_some_iff.mp h
  omega

theorem natural_of_small (h : 0 ≤ n ∧ n ≤ 0xffffffff) : natural n = n :=
  Int.emod_eq_of_lt h.1 (by omega)

end MachineWord

open MachineWord

/-! ### Elapsed time and days -/

def TimeUnit.lasting? (unit : TimeUnit) (amount : Int) : Option Int :=
  match unit with
  | .milliseconds => duration? amount
  | .seconds => ofSeconds? amount
  | .minutes => do ofSeconds? (← long? (amount * 60))
  | .hours => do ofSeconds? (← long? (amount * 3600))
  | _ => none

def addDaysInWords? (day days : Int) : Option Int := do
  let millis ← ofSeconds? (← long? (days * 86400))
  addDays? day (millis.tdiv 86400000)

theorem TimeUnit.lasting?_eq_some_iff {u : TimeUnit} {nanos n m : Int}
    (hu : u.stride = .elapsed nanos) : u.lasting? n = some m ↔
      1000000 * m = n * nanos ∧ -0x7fffffffffffffff ≤ m ∧ m ≤ 0x7fffffffffffffff := by
  rcases TimeUnit.elapsed_cases hu with ⟨rfl, rfl⟩ | ⟨rfl, rfl⟩ | ⟨rfl, rfl⟩ | ⟨rfl, rfl⟩
  · simp only [lasting?, duration?, between?_eq_some_iff]
    omega
  all_goals
    simp only [lasting?, Option.bind_eq_bind, bind_ofSeconds?_eq, ofSeconds?_eq_some_iff]
    omega

theorem Instant.near_of_after? {i j : Instant} {nanos : Int} (h : i.after? nanos = some j) :
    -1000000 * 0x7fffffffffffffff ≤ nanos ∧ nanos ≤ 1000000 * 0x7fffffffffffffff := by
  have hutc := (ofUtc?_eq_some h).2
  have hbounds := i.utc.after_nanos_bounds nanos
  rw [← hutc] at hbounds
  have hi := i.inRange
  have hj := j.inRange
  simp only [Reading.InRange, DayInRange, Reading.day, firstDay_eq, lastDay_eq] at hi hj
  omega

theorem Instant.after?_of_lasting? (i : Instant) {u : TimeUnit} {nanos : Int}
    (hu : u.stride = .elapsed nanos) (n : Int) :
    ((u.lasting? n).bind fun millis => i.after? (1000000 * millis)) = i.after? (n * nanos) := by
  cases h : u.lasting? n with
  | some millis => rw [Option.bind_some, ((TimeUnit.lasting?_eq_some_iff hu).mp h).1]
  | none =>
    cases hj : i.after? (n * nanos) with
    | none => rfl
    | some j =>
      -- The milliseconds are as many as fit, so they would have been found.
      have hnear := near_of_after? hj
      have hmillis : 1000000 * (n * nanos / 1000000) = n * nanos := by
        rcases TimeUnit.elapsed_cases hu with ⟨-, rfl⟩ | ⟨-, rfl⟩ | ⟨-, rfl⟩ | ⟨-, rfl⟩ <;> omega
      have hsome := (TimeUnit.lasting?_eq_some_iff hu).mpr ⟨hmillis, by omega, by omega⟩
      rw [h] at hsome
      cases hsome

theorem addDaysInWords?_eq {day : Int} (hd : DayInRange day) (days : Int) :
    addDaysInWords? day days = addDays? day days := by
  have htdiv : (1000 * (days * 86400)).tdiv 86400000 = days := by
    rw [show 1000 * (days * 86400) = days * 86400000 by omega]
    exact Int.mul_tdiv_cancel days (by decide)
  have hwords : addDaysInWords? day days =
      (ofSeconds? (days * 86400)).bind fun millis => addDays? day (millis.tdiv 86400000) := by
    rw [← bind_ofSeconds?_eq, Option.bind_assoc]
    rfl
  ext reached
  simp only [hwords, Option.bind_eq_some_iff, ofSeconds?_eq_some_iff]
  constructor
  · rintro ⟨_, ⟨rfl, -⟩, h⟩
    rwa [htdiv] at h
  · intro h
    obtain ⟨hreached, -⟩ := addDays?_eq_some_iff.mp h
    rw [DayInRange, firstDay_eq, lastDay_eq] at hd hreached
    exact ⟨_, ⟨rfl, by omega, by omega⟩, htdiv.symm ▸ h⟩

/-! ### Months -/

def Date.toDay? (d : Date) : Option Int :=
  if d.Valid ∧ DayInRange d.toDay then some d.toDay else none

def monthAfter? (year month : Int) : Option (Int × Int) :=
  if month = 12 then (int? (year + 1)).map (·, 1) else some (year, natural (month + 1))

/-- The length of a month, from the day before the first of the next. -/
def daysInMonth? (year month : Int) : Option Nat := do
  let next ← monthAfter? year month
  let first ← Date.toDay? ⟨next.1, next.2.toNat, 1⟩
  if firstDay ≤ first - 1 then some (Date.ofDay (first - 1)).day else none

def addMonthsInWords? (day months : Int) : Option Int := do
  let date := Date.ofDay day
  let index := Difference.word (Difference.word (date.year * 12) + (date.month - 1))
  let total ← long? (index + months)
  let year ← int? (total / 12)
  let month := natural ((← natural? (total % 12)) + 1)
  let length ← daysInMonth? year month
  Date.toDay? ⟨year, month.toNat, min date.day length⟩

theorem toDay?_eq_some_iff {m : Int} {d : Nat} {day : Int} :
    Date.toDay? ⟨m / 12, (m % 12 + 1).toNat, d⟩ = some day ↔
      day = monthStart m + d - 1 ∧ (1 ≤ d ∧ d ≤ monthLength m) ∧ DayInRange day := by
  have hindex : (⟨m / 12, (m % 12 + 1).toNat, d⟩ : Date).monthIndex = m := by
    simp only [Date.monthIndex]
    omega
  have hday : (⟨m / 12, (m % 12 + 1).toNat, d⟩ : Date).toDay = monthStart m + d - 1 := by
    rw [Date.toDay, hindex]
  have hvalid : (⟨m / 12, (m % 12 + 1).toNat, d⟩ : Date).Valid ↔ 1 ≤ d ∧ d ≤ monthLength m := by
    simp only [Date.Valid, hindex]
    omega
  simp only [Date.toDay?, hday, hvalid]
  constructor
  · intro h
    split at h
    · rename_i hdated
      obtain rfl := Option.some.inj h
      exact ⟨rfl, hdated⟩
    · cases h
  · rintro ⟨rfl, h⟩
    exact if_pos h

theorem monthAfter?_eq_some_iff {m : Int} {next : Int × Int} :
    monthAfter? (m / 12) (m % 12 + 1) = some next ↔ next = ((m + 1) / 12, (m + 1) % 12 + 1) ∧
      (m % 12 = 11 → -0x80000000 ≤ m / 12 + 1 ∧ m / 12 + 1 ≤ 0x7fffffff) := by
  obtain ⟨year, month⟩ := next
  unfold monthAfter?
  split
  · simp only [Option.map_eq_some_iff, int?, between?_eq_some_iff, Prod.mk.injEq]
    constructor
    · rintro ⟨_, ⟨rfl, h⟩, rfl, rfl⟩
      omega
    · rintro ⟨⟨rfl, rfl⟩, h⟩
      exact ⟨m / 12 + 1, ⟨rfl, h (by omega)⟩, by omega, by omega⟩
  · rw [natural_of_small (by omega), Option.some.injEq, Prod.mk.injEq, Prod.mk.injEq]
    omega

theorem monthOf_last (m : Int) : monthOf (monthStart (m + 1) - 1) = m := by
  have hlength := (monthLength_bounds m).1
  rw [monthLength] at hlength
  exact monthOf_eq_iff.mpr ⟨by omega, by omega⟩

theorem ofDay_last (m : Int) :
    (Date.ofDay (monthStart (m + 1) - 1)).day = (monthLength m).toNat := by
  have hlength := (monthLength_bounds m).1
  simp only [Date.ofDay, monthOf_last]
  rw [monthLength] at hlength ⊢
  omega

theorem daysInMonth?_eq_some_iff {m : Int} {length : Nat} :
    daysInMonth? (m / 12) (m % 12 + 1) = some length ↔
      length = (monthLength m).toNat ∧ 12 * -262143 ≤ m ∧ m < 12 * 262142 + 11 := by
  have hfirst (day : Int) : Date.toDay? ⟨(m + 1) / 12, ((m + 1) % 12 + 1).toNat, 1⟩ = some day ↔
      day = monthStart (m + 1) ∧ 12 * -262143 ≤ m + 1 ∧ m + 1 < 12 * 262143 := by
    have hlength := (monthLength_bounds (m + 1)).1
    have hrange : DayInRange (monthStart (m + 1)) ↔ 12 * -262143 ≤ m + 1 ∧ m + 1 < 12 * 262143 := by
      rw [dayInRange_iff_month, monthOf_monthStart]
    rw [toDay?_eq_some_iff, ← hrange]
    constructor
    · rintro ⟨hday, -, hdated⟩
      obtain rfl : day = monthStart (m + 1) := by omega
      exact ⟨rfl, hdated⟩
    · rintro ⟨rfl, hdated⟩
      exact ⟨by omega, by omega, hdated⟩
  have hlast : firstDay ≤ monthStart (m + 1) - 1 ↔ 12 * -262143 ≤ m := by
    rw [firstDay_le_iff, monthOf_last]
  simp only [daysInMonth?, Option.bind_eq_bind, Option.bind_eq_some_iff, monthAfter?_eq_some_iff]
  constructor
  · rintro ⟨_, ⟨rfl, -⟩, first, hnext, h⟩
    obtain ⟨rfl, -, hend⟩ := (hfirst first).mp hnext
    split at h
    · rename_i hbegun
      obtain rfl := Option.some.inj h
      exact ⟨ofDay_last m, hlast.mp hbegun, by omega⟩
    · cases h
  · rintro ⟨rfl, hbegun, hend⟩
    refine ⟨_, ⟨rfl, by omega⟩, _, (hfirst _).mpr ⟨rfl, by omega, by omega⟩, ?_⟩
    rw [if_pos (hlast.mpr hbegun), ofDay_last]

theorem addMonthsInWords?_eq {day : Int} (hd : DayInRange day) (months : Int) :
    addMonthsInWords? day months = addMonths? day months := by
  have hmonth := dayInRange_iff_month.mp hd
  have hlength := monthLength_bounds (monthOf day + months)
  have hbegun := monthStart_monthOf_le day
  -- The month that is counted from is one of the calendar, so its number does not go round.
  have hindex : Difference.word (Difference.word ((Date.ofDay day).year * 12) +
      ((Date.ofDay day).month - 1)) = monthOf day := by
    simp only [Date.ofDay]
    rw [Difference.word_of_small (n := monthOf day / 12 * 12) (by omega),
      Difference.word_of_small (by omega)]
    omega
  have hclamped : monthStart (monthOf day + months) + ((min (Date.ofDay day).day
      (monthLength (monthOf day + months)).toNat : Nat) : Int) - 1 = monthsOn day months := by
    simp only [Date.ofDay, monthsOn]
    omega
  ext reached
  simp only [addMonthsInWords?, hindex, long?, int?, natural?, Option.bind_eq_bind,
    Option.bind_eq_some_iff, between?_eq_some_iff, addMonths?_eq_some_iff]
  constructor
  · rintro ⟨_, ⟨rfl, -⟩, _, ⟨rfl, -⟩, _, ⟨rfl, -⟩, length, hdays, h⟩
    rw [natural_of_small (by omega)] at hdays h
    obtain ⟨rfl, hrange⟩ := daysInMonth?_eq_some_iff.mp hdays
    obtain ⟨rfl, -⟩ := toDay?_eq_some_iff.mp h
    rw [hclamped, monthOf_monthsOn]
    exact ⟨rfl, hrange⟩
  · rintro ⟨rfl, hrange⟩
    rw [monthOf_monthsOn] at hrange
    refine ⟨_, ⟨rfl, by omega, by omega⟩, _, ⟨rfl, by omega, by omega⟩, _,
      ⟨rfl, by omega, by omega⟩, (monthLength (monthOf day + months)).toNat, ?_⟩
    rw [natural_of_small (by omega)]
    refine ⟨daysInMonth?_eq_some_iff.mpr ⟨rfl, hrange⟩, toDay?_eq_some_iff.mpr ?_⟩
    refine ⟨hclamped.symm, ⟨?_, by omega⟩, ?_⟩
    · simp only [Date.ofDay]
      omega
    · rw [dayInRange_iff_month, monthOf_monthsOn]
      omega

/-! ### The shift -/

namespace Instant

def plusInWords (i : Instant) (unit : TimeUnit) (amount : Int) : Answer Instant :=
  let refused := Error.shiftOutOfRange amount unit
  match unit.stride with
  | .elapsed _ =>
    match (unit.lasting? amount).bind fun millis => i.after? (1000000 * millis) with
    | some moved => .ok moved
    | none => .error (.reported refused)
  | .days count => i.moveDate refused fun day =>
    (long? (amount * count)).bind (addDaysInWords? day)
  | .months count => i.moveDate refused fun day =>
    (long? (amount * count)).bind (addMonthsInWords? day)

variable {i : Instant}

theorem moveDate_congr {refused : Error} {move move' : Int → Option Int}
    (h : ∀ day, DayInRange day → move day = move' day) :
    i.moveDate refused move = i.moveDate refused move' := by
  unfold moveDate
  by_cases hd : i.face.InRange
  · rw [wall_of_inRange hd, Answer.bind_ok, Answer.bind_ok, h _ hd]
  · rw [wall_eq_error_iff.mpr ⟨rfl, hd⟩]
    rfl

theorem plusInWords_eq (i : Instant) (u : TimeUnit) (n : Int) :
    i.plusInWords u n = i.plus u n := by
  rcases hu : u.stride with nanos | count | count
  · have hafter := i.after?_of_lasting? hu n
    cases h : i.after? (n * nanos) with
    | none => simp only [plusInWords, plus, hu, hafter, h]
    | some moved => simp only [plusInWords, plus, hu, hafter, h]
  · simp only [plusInWords, plus, hu]
    refine moveDate_congr fun day hd => ?_
    rw [bind_long?_eq, addDaysInWords?_eq hd]
    intro reached h
    rw [addDaysInWords?_eq hd] at h
    obtain ⟨hreached, -⟩ := addDays?_eq_some_iff.mp h
    rw [DayInRange, firstDay_eq, lastDay_eq] at hd hreached
    omega
  · simp only [plusInWords, plus, hu]
    refine moveDate_congr fun day hd => ?_
    rw [bind_long?_eq, addMonthsInWords?_eq hd]
    intro reached h
    rw [addMonthsInWords?_eq hd] at h
    obtain ⟨rfl, hreached⟩ := addMonths?_eq_some_iff.mp h
    rw [monthOf_monthsOn] at hreached
    rw [dayInRange_iff_month] at hd
    omega

end Instant

end RelativeTime

import RelativeTime.Proofs.Unreported
import RelativeTime.Proofs.WallClock
import RelativeTime.Proofs.Words

/-! What a shift leads to, told from the two faces of the clock and in integers without bounds.
Where the clock is never changed, a shift that succeeds leads there. It fails if the calendar has
no such date, and in two cases it does otherwise: elapsed time is let through to a wall clock
without a date, and a shift by months is kept out of the last month of the calendar. -/
namespace RelativeTime

open Calendar

namespace Reading

/-- Where a reading stands in the count if the inserted second that `r` may be in counts as any
other: it moves all that comes after it on by one. -/
def place (r s : Reading) : Int :=
  s.nanos + if s.leap ∨ r.leap ∧ r.seconds < s.seconds then 1000000000 else 0

/-- So much time elapses from `r` to `s`. Of no other inserted second is anything known, so that
none is led to. -/
structure Elapses (r : Reading) (nanos : Int) (s : Reading) : Prop where
  place_eq : r.place s = r.place r + nanos
  inserted : s.leap = true → r.leap = true ∧ s.seconds = r.seconds

structure KeepsTime (r s : Reading) : Prop where
  time : s.timeOfDay = r.timeOfDay
  leap : s.leap = r.leap

/-- The exact result of a shift. A shift by months keeps the day of the month, or takes the last day
where the month is shorter. -/
def ShiftsTo (r : Reading) (unit : TimeUnit) (amount : Int) (s : Reading) : Prop :=
  match unit.stride with
  | .elapsed nanos => r.Elapses (amount * nanos) s
  | .days count => s.day = r.day + amount * count ∧ r.KeepsTime s
  | .months count =>
    (Date.ofDay s.day).monthIndex = (Date.ofDay r.day).monthIndex + amount * count ∧
      ((Date.ofDay s.day).day : Int) =
        min ((Date.ofDay r.day).day : Int) (monthLength (Date.ofDay s.day).monthIndex) ∧
      r.KeepsTime s

def InLastMonth (r : Reading) : Prop :=
  (Date.ofDay r.day).year = 262142 ∧ (Date.ofDay r.day).month = 12

instance (r : Reading) : Decidable r.InLastMonth := inferInstanceAs (Decidable (_ ∧ _))

structure Representable (r : Reading) (offset : Int) : Prop where
  wall : r.InRange
  utc : (r.ahead (-offset)).InRange

variable {r s : Reading} {u : TimeUnit} {n : Int}

theorem elapses_of_not_leap_iff (hl : r.leap = false) {nanos : Int} :
    r.Elapses nanos s ↔ s = ⟨r.nanos + nanos, false⟩ := by
  obtain ⟨b, l⟩ := s
  constructor
  · rintro ⟨hplace, hinserted⟩
    cases l with
    | true => exact absurd (hinserted rfl).1 (by simp [hl])
    | false => simpa [place, hl] using hplace
  · intro h
    simp only [mk.injEq] at h
    obtain ⟨rfl, rfl⟩ := h
    exact ⟨by simp [place, hl], nofun⟩

/-- From an inserted second, time leads into the second before it, within it, or past it. -/
theorem elapses_of_leap_iff (hl : r.leap = true) {nanos : Int} :
    r.Elapses nanos s ↔ s = r.after nanos := by
  obtain ⟨a, l⟩ := r
  obtain rfl : l = true := hl
  obtain ⟨b, l'⟩ := s
  have helapses : (⟨a, true⟩ : Reading).Elapses nanos ⟨b, l'⟩ ↔
      (b + if l' = true ∨ a / 1000000000 < b / 1000000000 then 1000000000 else 0) =
        a + 1000000000 + nanos ∧ (l' = true → b / 1000000000 = a / 1000000000) := by
    constructor
    · rintro ⟨hplace, hinserted⟩
      simp only [place, seconds, true_and, true_or, if_true] at hplace hinserted
      exact ⟨hplace, hinserted⟩
    · rintro ⟨hplace, hinserted⟩
      exact ⟨by simpa only [place, seconds, true_and, true_or, if_true] using hplace,
        fun h => ⟨rfl, hinserted h⟩⟩
  rw [helapses, after, if_pos rfl]
  by_cases hback : a % 1000000000 + nanos < 0
  · rw [if_pos hback, mk.injEq]
    cases l' with
    | false =>
      simp only [Bool.false_eq_true, false_or, false_implies, and_true]
      split <;> omega
    | true =>
      simp only [true_or, if_true, forall_const, reduceCtorEq, and_false, iff_false]
      omega
  · rw [if_neg hback, mk.injEq]
    cases l' with
    | false =>
      simp only [Bool.false_eq_true, false_or, false_implies, and_true, false_eq_decide_iff]
      split <;> omega
    | true =>
      simp only [true_or, if_true, forall_const, true_eq_decide_iff]
      omega

theorem elapses_iff {nanos : Int} : r.Elapses nanos s ↔ s = r.after nanos := by
  cases hl : r.leap with
  | false => rw [elapses_of_not_leap_iff hl, after_of_not_leap hl]
  | true => exact elapses_of_leap_iff hl

theorem eq_onDay_iff {day : Int} : s = r.onDay day ↔ s.day = day ∧ r.KeepsTime s := by
  obtain ⟨a, l⟩ := r
  obtain ⟨b, l'⟩ := s
  constructor
  · intro h
    have hday : (⟨b, l'⟩ : Reading).day = day := h ▸ onDay_day _ day
    simp only [onDay, mk.injEq] at h
    refine ⟨hday, ?_, h.2⟩
    simp only [timeOfDay, h.1]
    omega
  · rintro ⟨rfl, htime, rfl⟩
    simp only [onDay, day, timeOfDay, mk.injEq, and_true] at htime ⊢
    omega

theorem monthIndex_ofDay (day : Int) : (Date.ofDay day).monthIndex = monthOf day := by
  simp only [Date.monthIndex, Date.ofDay]
  omega

theorem eq_monthsOn_iff {day months day' : Int} : day' = monthsOn day months ↔
    (Date.ofDay day').monthIndex = (Date.ofDay day).monthIndex + months ∧
      ((Date.ofDay day').day : Int) =
        min ((Date.ofDay day).day : Int) (monthLength (Date.ofDay day').monthIndex) := by
  have hlength := monthLength_bounds (monthOf day + months)
  have hbegun := monthStart_monthOf_le day
  have hbegun' := monthStart_monthOf_le day'
  rw [monthIndex_ofDay, monthIndex_ofDay]
  constructor
  · rintro rfl
    have hmonth := monthOf_monthsOn day months
    refine ⟨hmonth, ?_⟩
    simp only [Date.ofDay, hmonth]
    simp only [monthsOn]
    omega
  · rintro ⟨hmonth, hday⟩
    simp only [Date.ofDay, hmonth] at hday hbegun'
    simp only [monthsOn]
    omega

theorem shiftsTo_iff : r.ShiftsTo u n s ↔ s = r.plus u n := by
  unfold ShiftsTo plus
  rcases u.stride with nanos | count | count
  · exact elapses_iff
  · exact eq_onDay_iff.symm
  · simp only
    rw [← and_assoc, ← eq_monthsOn_iff]
    exact eq_onDay_iff.symm

theorem inLastMonth_iff : r.InLastMonth ↔ monthOf r.day = 12 * 262142 + 11 := by
  simp only [InLastMonth, Date.ofDay]
  omega

end Reading

namespace Instant

variable {i j : Instant} {zone : Zone} {offset : Int} {u : TimeUnit} {n : Int} {s : Reading}

theorem plus_eq_ok_iff (h : zone.Unchanging offset) (hi : i.zone = zone) (hd : i.face.InRange) :
    i.plus u n = .ok j ↔ j.zone = zone ∧ j.face = i.face.plus u n ∧
      (u.MovesDate → j.face.InRange) ∧ ¬ (u.MovesMonth ∧ j.face.InLastMonth) := by
  by_cases hu : u.MovesDate
  · rw [plus_date_eq_ok_iff hu, hi, Zone.resolve_constant_iff h.rules_eq h.bounds,
      Reading.plus_of_movesDate hu, Reading.inLastMonth_iff]
    constructor
    · rintro ⟨-, hrange, hlast, hzone, hface⟩
      rw [hface, Reading.InRange, Reading.onDay_day]
      exact ⟨hzone, rfl, fun _ => hrange, hlast⟩
    · rintro ⟨hzone, hface, hrange, hlast⟩
      rw [hface, Reading.onDay_day] at hlast
      rw [hface, Reading.InRange, Reading.onDay_day] at hrange
      exact ⟨hd, hrange hu, hlast, hzone, hface⟩
  · constructor
    · intro hj
      obtain ⟨hzone, hface⟩ := face_of_plus h hi hj
      exact ⟨hzone, hface, fun hu' => absurd hu' hu, fun hu' => hu hu'.1.movesDate⟩
    · rintro ⟨hzone, hface, -⟩
      obtain ⟨nanos, hnanos⟩ := TimeUnit.exists_elapsed hu
      simp only [Reading.plus, hnanos] at hface
      rw [face_constant h.rules_eq hzone, face_constant h.rules_eq hi, Reading.ahead_after,
        Reading.ahead_eq_iff, Reading.ahead_ahead, Int.add_right_neg, Reading.ahead_zero] at hface
      exact (plus_elapsed_eq_ok_iff hnanos).mpr ⟨hzone.trans hi.symm, hface⟩

theorem reported_iff (hd : i.face.InRange) :
    (∃ e, i.plus u n = .error (.reported e) ∧ e.kind = .transform) ↔ ∀ j, i.plus u n ≠ .ok j := by
  constructor
  · rintro ⟨e, he, -⟩ j hj
    cases he.symm.trans hj
  · intro hnone
    cases hplus : i.plus u n with
    | ok j => exact absurd hplus (hnone j)
    | error f =>
      cases f with
      | reported e => exact ⟨e, rfl, i.plus_transforms u n e hplus⟩
      | unshowable => exact absurd hplus (plus_ne_unshowable hd)

theorem plus_eq_ok_of_shiftsTo (h : zone.Unchanging offset) (hi : i.zone = zone)
    (hd : i.face.InRange) (hs : i.face.ShiftsTo u n s) (hutc : (s.ahead (-offset)).InRange)
    (hdate : u.MovesDate → s.InRange) (hlast : ¬ (u.MovesMonth ∧ s.InLastMonth)) :
    i.plus u n = .ok ⟨s.ahead (-offset), zone, hutc⟩ := by
  rw [plus_eq_ok_iff h hi hd, face_of_ahead_neg h.rules_eq]
  exact ⟨rfl, Reading.shiftsTo_iff.mp hs, hdate, hlast⟩

theorem shiftsTo_of_plus (h : zone.Unchanging offset) (hi : i.zone = zone)
    (hj : i.plus u n = .ok j) : j.zone = zone ∧ i.face.ShiftsTo u n j.face := by
  obtain ⟨hzone, hface⟩ := face_of_plus h hi hj
  exact ⟨hzone, Reading.shiftsTo_iff.mpr hface⟩

/-- Under a fixed offset, a shift that succeeds leads to the exact result, and no word that it is
computed with is too short for it. An exact result out of range is reported, unless time elapses to
it and only the wall clock has no date: that is let through. -/
theorem plus_exact (h : zone.Unchanging offset) (hi : i.zone = zone) (hd : i.face.InRange)
    (u : TimeUnit) (n : Int) :
    i.plusInWords u n = i.plus u n ∧
    (∃! s, i.face.ShiftsTo u n s) ∧
    (∀ j, i.plus u n = .ok j → j.zone = zone ∧ i.face.ShiftsTo u n j.face ∧
      ∀ nanos, u.stride = .elapsed nanos → i.utc.leap = false →
        j.utc = ⟨i.utc.nanos + n * nanos, false⟩) ∧
    ∀ s, i.face.ShiftsTo u n s → ¬ s.Representable offset →
      ((∃ e, i.plus u n = .error (.reported e) ∧ e.kind = .transform) ↔
        u.MovesDate ∨ ¬ (s.ahead (-offset)).InRange) := by
  refine ⟨plusInWords_eq i u n, ?_, fun j hj => ?_, fun s hs hout => ?_⟩
  · exact ⟨_, Reading.shiftsTo_iff.mpr rfl, fun s hs => Reading.shiftsTo_iff.mp hs⟩
  · obtain ⟨hzone, hshift⟩ := shiftsTo_of_plus h hi hj
    refine ⟨hzone, hshift, fun nanos hnanos hl => ?_⟩
    rw [((plus_elapsed_eq_ok_iff hnanos).mp hj).2, Reading.after_of_not_leap hl]
  · rw [reported_iff hd]
    constructor
    · intro hnone
      by_contra hboth
      rw [not_or, not_not] at hboth
      obtain ⟨hu, hutc⟩ := hboth
      exact hnone _ (plus_eq_ok_of_shiftsTo h hi hd hs hutc (fun hu' => absurd hu' hu)
        fun hu' => hu hu'.1.movesDate)
    · intro hwhy j hj
      obtain ⟨hzone, hface, hdate, -⟩ := (plus_eq_ok_iff h hi hd).mp hj
      rw [← Reading.shiftsTo_iff.mp hs] at hface
      have hutc : (s.ahead (-offset)).InRange := by
        rw [face_constant h.rules_eq hzone, Reading.ahead_eq_iff] at hface
        exact hface ▸ j.inRange
      rcases hwhy with hu | hnone
      · exact hout ⟨hface ▸ hdate hu, hutc⟩
      · exact hnone hutc

/-- On a clock whose morning is still the evening before in UTC, from the 31st of a month eleven
months back to a month of 28 days, years before the first. -/
theorem plus_back_to_short_month :
    ∃ (zone : Zone) (i j : Instant), zone.Unchanging 20700 ∧ i.zone = zone ∧ i.face.InRange ∧
      Date.ofDay i.face.day = ⟨-4, 1, 31⟩ ∧ Date.ofDay i.utc.day = ⟨-4, 1, 30⟩ ∧
      i.plus .months (-11) = .ok j ∧ i.face.ShiftsTo .months (-11) j.face ∧
      Date.ofDay j.face.day = ⟨-5, 2, 28⟩ := by
  let i : Instant := ⟨⟨-62290876500000000000, false⟩, .fixed ⟨20700, by decide, by decide⟩,
    by decide⟩
  let j : Instant := ⟨⟨-62319993300000000000, false⟩, .fixed ⟨20700, by decide, by decide⟩,
    by decide⟩
  have hu : i.zone.Unchanging 20700 := ⟨rfl, by decide⟩
  have hj : i.plus .months (-11) = .ok j := by decide +kernel
  obtain ⟨-, -, hexact, -⟩ := plus_exact hu rfl (by decide) .months (-11)
  exact ⟨_, i, j, hu, rfl, by decide, by decide, by decide, hj, (hexact j hj).2.1, by decide⟩

/-- An hour past the last date of a clock ahead of UTC, which is not reported. -/
theorem plus_past_last_date :
    ∃ (i j : Instant) (s : Reading), i.zone.Unchanging 3600 ∧ i.face.InRange ∧
      i.face.ShiftsTo .hours 2280357936 s ∧ ¬ s.Representable 3600 ∧
      i.plus .hours 2280357936 = .ok j := by
  let i : Instant := ⟨⟨978303600000000000, false⟩, .fixed ⟨3600, by decide, by decide⟩, by decide⟩
  let j : Instant := ⟨⟨8210266873200000000000, false⟩, .fixed ⟨3600, by decide, by decide⟩,
    by decide⟩
  have hj : i.plus .hours 2280357936 = .ok j := by decide +kernel
  have hu : i.zone.Unchanging 3600 := ⟨rfl, by decide⟩
  have hout : ¬ j.face.InRange := by decide
  exact ⟨i, j, j.face, hu, by decide, (shiftsTo_of_plus hu rfl hj).2, fun hr => hout hr.wall, hj⟩

/-- A shift to where UTC and the wall clock have a date fails in one case alone: a shift by months
is not let into the last month of the calendar, as there is no month after it to tell its length. -/
theorem plus_ok_unless_last_month (h : zone.Unchanging offset) (hi : i.zone = zone)
    (hd : i.face.InRange) (hs : i.face.ShiftsTo u n s) (hr : s.Representable offset) :
    i.plusInWords u n = i.plus u n ∧
    (¬ (u.MovesMonth ∧ s.InLastMonth) → i.plus u n = .ok ⟨s.ahead (-offset), zone, hr.utc⟩) ∧
    (u.MovesMonth ∧ s.InLastMonth →
      i.plus u n = .error (.reported (.shiftOutOfRange n u))) := by
  refine ⟨plusInWords_eq i u n, fun hlast => ?_, fun hlast => ?_⟩
  · exact plus_eq_ok_of_shiftsTo h hi hd hs hr.utc (fun _ => hr.wall) hlast
  · have hu := hlast.1.movesDate
    have hday : s.day = u.stride.move i.face.day n := by
      rw [Reading.shiftsTo_iff.mp hs, Reading.plus_of_movesDate hu, Reading.onDay_day]
    have hnone : u.stride.move? i.face.day n = none := by
      cases hmove : u.stride.move? i.face.day n with
      | none => rfl
      | some day =>
        obtain ⟨rfl, -, hfree⟩ := (TimeUnit.move?_eq_some_iff hu).mp hmove
        rw [← hday] at hfree
        exact absurd ⟨hlast.1, Reading.inLastMonth_iff.mp hlast.2⟩ hfree
    rw [plus_eq_moveDate hu, moveDate, wall_of_inRange hd, Answer.bind_ok, hnone]

/-- On a clock behind UTC, from a 31st to the last day that can be reached by months. -/
theorem plus_to_last_november :
    ∃ (i j : Instant) (s : Reading), i.zone.Unchanging (-18000) ∧ i.face.InRange ∧
      Date.ofDay i.face.day = ⟨2000, 12, 31⟩ ∧ i.face.ShiftsTo .months 3121703 s ∧
      s.Representable (-18000) ∧ Date.ofDay s.day = ⟨262142, 11, 30⟩ ∧
      i.plus .months 3121703 = .ok j ∧ j.face = s := by
  let i : Instant := ⟨⟨978282000000000000, false⟩, .fixed ⟨-18000, by decide, by decide⟩,
    by decide⟩
  have hu : i.zone.Unchanging (-18000) := ⟨rfl, by decide⟩
  have hs : i.face.ShiftsTo .months 3121703 (i.face.plus .months 3121703) :=
    Reading.shiftsTo_iff.mpr rfl
  have hr : (i.face.plus .months 3121703).Representable (-18000) := ⟨by decide, by decide⟩
  obtain ⟨-, hok, -⟩ := plus_ok_unless_last_month hu rfl (by decide) hs hr
  exact ⟨i, _, _, hu, by decide, by decide, hs, hr, by decide, hok (by decide),
    face_of_ahead_neg hu.rules_eq hr.utc⟩

/-- The middle of the last month has a date, and no shift by years leads there. -/
theorem plus_to_last_december :
    ∃ (i : Instant) (s : Reading), i.zone.Unchanging 0 ∧ i.face.InRange ∧
      i.face.ShiftsTo .years 260142 s ∧ s.Representable 0 ∧
      Date.ofDay s.day = ⟨262142, 12, 15⟩ ∧ ∀ j, i.plus .years 260142 ≠ .ok j := by
  let i : Instant := ⟨⟨976838400000000000, false⟩, .fixed ⟨0, by decide, by decide⟩, by decide⟩
  have hrefused : i.plus .years 260142 = .error (.reported (.shiftOutOfRange 260142 .years)) := by
    decide +kernel
  refine ⟨i, i.face.plus .years 260142, ⟨rfl, by decide⟩, by decide, Reading.shiftsTo_iff.mpr rfl,
    ⟨by decide, by decide⟩, by decide, fun j hj => ?_⟩
  cases hrefused.symm.trans hj

end Instant

end RelativeTime

import Mathlib.Order.Bounds.Basic
import RelativeTime.Proofs.WeekStart
import RelativeTime.Proofs.Zone.Reached

/-! The date of a snap on weeks where the clock is changed. The snap goes back by whole days at
the same time of day and then to the midnight of the day it is on. Either of the two readings may
be one that a change skips; if it is then moved on to another date, the week starts on a wrong
day, and the midnight may even be moved past the instant itself. -/
namespace RelativeTime

theorem isGreatest_weekStart (asked : Nat) (day : Int) :
    IsGreatest {date | date ≤ day ∧ weekdayOf date = asked % 7} (weekStart asked day) := by
  constructor
  · exact ⟨weekStart_le asked day, weekStart_eq_iff.mp (weekStart_again asked day)⟩
  · rintro date ⟨hle, hweekday⟩
    rw [← weekStart_eq_iff.mpr hweekday]
    exact weekStart_mono asked hle

namespace Instant

variable {i j : Instant} {asked : Option Nat} {date : Int}

/-- A snap on weeks resolves two readings: the time of day on the weekday, then the midnight of
the date on which that is read. -/
theorem snap_weeks_of_resolve {aligned : Instant} (hd : i.face.InRange)
    (hdate : DayInRange (weekStart (asked.getD 0) i.face.day))
    (haligned : i.zone.resolve (i.face.onDay (weekStart (asked.getD 0) i.face.day)) = .ok aligned)
    (hd' : aligned.face.InRange) (hj : i.zone.resolve (.midnight aligned.face.day) = .ok j) :
    (Snap.mk .weeks asked).apply i = .ok j := by
  have hplus : i.plus .days (-(daysSince i.weekday (asked.getD 0) : Int)) = .ok aligned := by
    have hmove : TimeUnit.days.stride.move i.face.day
          (-(daysSince i.weekday (asked.getD 0) : Int)) =
        weekStart (asked.getD 0) i.face.day := plus_weekStart i _
    rw [plus_date_eq_ok_iff (by decide), hmove]
    exact ⟨hd, hdate, fun h => absurd h.1 (by decide), haligned⟩
  have hstart : aligned.startOf .days = .ok j := by
    rw [startOf_date_eq_ok_iff (by decide), Zone.zone_of_resolve haligned]
    exact ⟨hd', hj⟩
  simp only [Snap.apply, hplus, Answer.bind_ok, hstart]

theorem exists_snap_weeks (hb : i.zone.rules.Bounded) (hs : i.zone.rules.Spaced)
    (hl : i.utc.leap = false) (hd : firstDay + 8 ≤ i.face.day ∧ i.face.day + 8 ≤ lastDay)
    (asked : Option Nat) : ∃ aligned j : Instant,
    (Snap.mk .weeks asked).apply i = .ok j ∧
      i.zone.resolve (.midnight aligned.face.day) = .ok j ∧
      firstDay < aligned.face.day ∧ aligned.face.day < lastDay ∧
      weekStart (asked.getD 0) i.face.day ≤ aligned.face.day ∧
      (aligned.face.day = weekStart (asked.getD 0) i.face.day ↔
        i.zone.rules.KeepsDate (i.face.onDay (weekStart (asked.getD 0) i.face.day))) := by
  have hafter := lt_weekStart (asked.getD 0) i.face.day
  have hle := weekStart_le (asked.getD 0) i.face.day
  generalize hdate : weekStart (asked.getD 0) i.face.day = date at *
  have hday := i.face.onDay_day date
  have hplain : (i.face.onDay date).leap = false := hl
  have hinner : firstDay < (i.face.onDay date).day ∧ (i.face.onDay date).day < lastDay := by
    rw [hday]
    omega
  obtain ⟨aligned, haligned⟩ := Zone.resolve_of_inner hb hinner
  obtain ⟨hnot, hnear, hkeeps⟩ := Zone.day_of_resolve hb hs hplain hinner haligned
  rw [hday] at hnot hnear hkeeps
  have hinner' : firstDay < (Reading.midnight aligned.face.day).day ∧
      (Reading.midnight aligned.face.day).day < lastDay := by
    rw [Reading.midnight_day]
    omega
  obtain ⟨j, hj⟩ := Zone.resolve_of_inner hb hinner'
  rw [← hdate] at haligned
  refine ⟨aligned, j, ?_, hj, by omega, by omega, hnot, hkeeps⟩
  exact snap_weeks_of_resolve ⟨by omega, by omega⟩ ⟨by omega, by omega⟩ haligned
    ⟨by omega, by omega⟩ hj

theorem before_weekday_iff (hb : i.zone.rules.Bounded) (hs : i.zone.rules.Spaced)
    (hd : firstDay < date ∧ date < lastDay) (hle : date ≤ i.face.day)
    (hj : i.zone.resolve (.midnight date) = .ok j) (hday : j.face.day = date) :
    i.utc < j.utc ↔ i.face.day = date ∧
      ∃ c, i.zone.rules.Skips c (Reading.midnight date).seconds ∧
        i.utc < (Reading.midnight date).ahead (-i.zone.rules.offsetAt (c.since - 1)) := by
  have hmidnight := Reading.midnight_day date
  have hinner : firstDay < (Reading.midnight date).day ∧ (Reading.midnight date).day < lastDay := by
    rwa [hmidnight]
  have hreached : i.zone.rules.Reached (.midnight date) i.utc := by
    rw [Rules.Reached, Reading.not_lt_midnight_iff]
    exact hle
  rw [← Zone.before_resolve_iff hb hs rfl hinner hreached hj]
  refine ⟨fun hlt => ⟨?_, hlt⟩, fun h => h.2⟩
  by_contra hne
  refine (Zone.firstOf_reached_face hb hs rfl hinner hj).first i.utc ?_ hlt
  intro hface
  have hearlier := Reading.day_le_of_not_lt (Reading.lt_asymm hface)
  have hsame : (i.zone.rules.faceAt i.utc).day = i.face.day := rfl
  omega

/-- In a zone whose changes lie two days apart a snap on weeks always leads somewhere, and to no
earlier date than the last one on the weekday that is asked for. It leads to that date if and only
if no gap leads out of it, neither from the time of day of the instant nor from midnight. Then it
is not after the instant unless that is on the same date, a change skips the midnight, and by the
clock as it was before the change the midnight is still to come. -/
theorem snap_weeks_on_date_iff (hb : i.zone.rules.Bounded) (hs : i.zone.rules.Spaced)
    (hl : i.utc.leap = false) (hd : firstDay + 8 ≤ i.face.day ∧ i.face.day + 8 ≤ lastDay)
    (hdate : IsGreatest {day | day ≤ i.face.day ∧ weekdayOf day = asked.getD 0 % 7} date) :
    ∃ j, (Snap.mk .weeks asked).apply i = .ok j ∧ j.zone = i.zone ∧ date ≤ j.face.day ∧
      (j.face.day = date ↔
        i.zone.rules.KeepsDate (i.face.onDay date) ∧ i.zone.rules.KeepsDate (.midnight date)) ∧
      (j.face.day = date → (i.utc < j.utc ↔ i.face.day = date ∧
        ∃ c, i.zone.rules.Skips c (Reading.midnight date).seconds ∧
          i.utc < (Reading.midnight date).ahead (-i.zone.rules.offsetAt (c.since - 1)))) := by
  obtain ⟨aligned, j, happly, hj, hinner, hinner', hnot, hkeeps⟩ :=
    exists_snap_weeks hb hs hl hd asked
  rw [← hdate.unique (isGreatest_weekStart _ _)] at hnot hkeeps
  have hmidnight := Reading.midnight_day aligned.face.day
  obtain ⟨hnot', -, hkeeps'⟩ :=
    Zone.day_of_resolve hb hs rfl ⟨by rwa [hmidnight], by rwa [hmidnight]⟩ hj
  rw [hmidnight] at hnot' hkeeps'
  refine ⟨j, happly, Zone.zone_of_resolve hj, by omega, ?_, fun h => ?_⟩
  · constructor
    · intro h
      have hsame : aligned.face.day = date := by omega
      rw [hsame] at hkeeps'
      exact ⟨hkeeps.mp hsame, hkeeps'.mp h⟩
    · rintro ⟨htime, hmidnight⟩
      have hsame := hkeeps.mpr htime
      rw [hsame] at hkeeps'
      exact hkeeps'.mpr hmidnight
  · have hsame : aligned.face.day = date := by omega
    rw [hsame] at hj hmidnight hinner hinner'
    exact before_weekday_iff hb hs ⟨hinner, hinner'⟩ hdate.1.1 hj h

/-- From a time of day that the clock of Sao Paulo skipped on the Sunday before, along with the
midnight. Both are moved on within the Sunday. -/
theorem snap_weeks_past_skipped_midnight :
    ∃ i j : Instant, i.zone = .named "America/Sao_Paulo" Zone.Table.saoPaulo ∧
      Date.ofDay i.face.day = ⟨2018, 11, 7⟩ ∧
      i.zone.rules.Skips ⟨1541300400, -7200⟩ (i.face.onDay 17839).seconds ∧
      i.zone.rules.Skips ⟨1541300400, -7200⟩ (Reading.midnight 17839).seconds ∧
      (Snap.mk .weeks none).apply i = .ok j ∧ Date.ofDay j.face.day = ⟨2018, 11, 4⟩ ∧
      ¬ i.utc < j.utc := by
  let i : Instant := ⟨⟨1541557800000000000, false⟩, .named "America/Sao_Paulo" Zone.Table.saoPaulo,
    by decide⟩
  have hb : i.zone.rules.Bounded := by decide +kernel
  have hs : i.zone.rules.Spaced := by decide +kernel
  have hsunday : weekStart 0 i.face.day = 17839 := by decide +kernel
  have hdate : IsGreatest
      {day | day ≤ i.face.day ∧ weekdayOf day = (none : Option Nat).getD 0 % 7} 17839 :=
    hsunday ▸ isGreatest_weekStart 0 i.face.day
  have htime : i.zone.rules.Skips ⟨1541300400, -7200⟩ (i.face.onDay 17839).seconds :=
    ⟨by decide +kernel, by decide +kernel, by decide +kernel⟩
  have hmidnight : i.zone.rules.Skips ⟨1541300400, -7200⟩ (Reading.midnight 17839).seconds :=
    ⟨by decide +kernel, by decide +kernel, by decide +kernel⟩
  obtain ⟨j, hj, -, -, hiff, hnot⟩ := snap_weeks_on_date_iff hb hs rfl (by decide +kernel) hdate
  have hday : j.face.day = 17839 := by
    rw [hiff, htime.keepsDate_iff hb hs, hmidnight.keepsDate_iff hb hs]
    decide +kernel
  refine ⟨i, j, rfl, by decide +kernel, htime, hmidnight, hj, ?_, ?_⟩
  · rw [hday]
    decide
  · rw [hnot hday]
    rintro ⟨hsame, -⟩
    exact absurd hsame (by decide +kernel)

/-- The clock of St. John's skipped the last hour of a Sunday, and from this time of day on the
Wednesday after, the week starts on the Monday. -/
theorem week_starts_on_monday :
    ∃ i j : Instant, i.zone = .named "America/St_Johns" Zone.Table.stJohns ∧
      i.zone.rules.Bounded ∧ i.zone.rules.Spaced ∧ i.utc.leap = false ∧
      Date.ofDay i.face.day = ⟨1935, 5, 8⟩ ∧
      IsGreatest {day | day ≤ i.face.day ∧ weekdayOf day = 0} (-12660) ∧
      (∃ k : Instant, k.zone = i.zone ∧ k.face.day = -12660) ∧
      (Snap.mk .weeks none).apply i = .ok j ∧ j.face.day = -12659 := by
  let i : Instant := ⟨⟨-1093471200000000000, false⟩, .named "America/St_Johns" Zone.Table.stJohns,
    by decide⟩
  let j : Instant := ⟨⟨-1093728600000000000, false⟩, .named "America/St_Johns" Zone.Table.stJohns,
    by decide⟩
  let k : Instant := ⟨⟨-1093764600000000000, false⟩, .named "America/St_Johns" Zone.Table.stJohns,
    by decide⟩
  have hsunday : weekStart 0 i.face.day = -12660 := by decide +kernel
  exact ⟨i, j, rfl, by decide +kernel, by decide +kernel, rfl, by decide +kernel,
    hsunday ▸ isGreatest_weekStart 0 i.face.day, ⟨k, rfl, by decide +kernel⟩, by decide +kernel,
    by decide +kernel⟩

end Instant

end RelativeTime

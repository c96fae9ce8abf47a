import RelativeTime.Proofs.Floor

/-! The start of a week. A snap on weeks leads to the last midnight, not after the given instant,
of a day on the weekday that is asked for, in inserted seconds too. Weekdays are counted round, so
that there is one for every number. -/
namespace RelativeTime

open Calendar

/-! ### Days on a weekday -/

def weekStart (asked : Nat) (day : Int) : Int := day - daysSince (weekdayOf day) asked

theorem daysSince_mod (weekday asked : Nat) :
    daysSince weekday (asked % 7) = daysSince weekday asked := by
  simp only [daysSince, Nat.mod_mod]

theorem weekStart_le (asked : Nat) (day : Int) : weekStart asked day ≤ day := by
  unfold weekStart
  omega

theorem lt_weekStart (asked : Nat) (day : Int) : day - 7 < weekStart asked day := by
  unfold weekStart daysSince
  omega

theorem weekStart_eq_iff {asked : Nat} {day : Int} :
    weekStart asked day = day ↔ weekdayOf day = asked % 7 := by
  unfold weekStart daysSince weekdayOf
  omega

theorem weekStart_again (asked : Nat) (day : Int) :
    weekStart asked (weekStart asked day) = weekStart asked day := by
  rw [weekStart_eq_iff]
  unfold weekStart daysSince weekdayOf
  omega

theorem weekStart_mono (asked : Nat) {day day' : Int} (h : day ≤ day') :
    weekStart asked day ≤ weekStart asked day' := by
  unfold weekStart daysSince weekdayOf
  omega

namespace Reading

def BeginsWeek (asked : Nat) (r : Reading) : Prop :=
  r.AtMidnight ∧ weekdayOf r.day = asked % 7

theorem lastOf_beginsWeek (asked : Nat) (r : Reading) :
    LastOf (BeginsWeek asked) r (.midnight (weekStart asked r.day)) := by
  refine (lastOf_midnight (weekStart asked) (weekStart_le asked)
    (fun _ _ => weekStart_mono asked) (weekStart_again asked) r).congr fun c => ?_
  rw [BeginsWeek, weekStart_eq_iff]

end Reading

namespace Instant

variable {i j : Instant} {zone : Zone} {offset : Int} {asked : Option Nat} {b : Reading}

/-- Between a midnight that has a date in UTC and the instant itself, the same time of day has one,
too. -/
theorem inRange_of_midnight (h : zone.Unchanging offset) (hi : i.zone = zone)
    (hd : i.face.InRange) {date : Int} (hle : date ≤ i.face.day)
    (hr : ((Reading.midnight date).ahead (-offset)).InRange) :
    DayInRange date ∧ ((i.face.onDay date).ahead (-offset)).InRange := by
  have hbounds := h.bounds
  have hutc := i.inRange
  have hface : i.face.nanos = i.utc.nanos + 1000000000 * offset := by
    rw [face_constant h.rules_eq hi, Reading.ahead_nanos]
  simp only [Reading.InRange, DayInRange, Reading.day, Reading.ahead_nanos, Reading.midnight,
    Reading.onDay_nanos] at *
  constructor <;> omega

theorem exists_shown (h : zone.Unchanging offset) {wall : Reading}
    (hr : (wall.ahead (-offset)).InRange) :
    ∃ k : Instant, zone.resolve wall = .ok k ∧ k.zone = zone ∧ k.face = wall := by
  have hface := face_of_ahead_neg h.rules_eq hr
  refine ⟨⟨wall.ahead (-offset), zone, hr⟩, ?_, rfl, hface⟩
  exact (Zone.resolve_constant_iff h.rules_eq h.bounds).mpr ⟨rfl, hface⟩

theorem plus_weekStart (i : Instant) (asked : Nat) :
    i.face.day + -(daysSince i.weekday asked : Int) * 1 = weekStart asked i.face.day := by
  rw [weekStart, weekday]
  omega

theorem face_of_snap_weeks (h : zone.Unchanging offset) (hi : i.zone = zone)
    (hj : (Snap.mk .weeks asked).apply i = .ok j) :
    j.zone = zone ∧ j.face = .midnight (weekStart (asked.getD 0) i.face.day) := by
  simp only [Snap.apply] at hj
  obtain ⟨aligned, haligned, hstart⟩ := Answer.bind_eq_ok.mp hj
  obtain ⟨hzone, hface⟩ := face_of_plus_constant h.rules_eq h.bounds hi (by decide) haligned
  obtain ⟨hzone', hface'⟩ := face_of_startOf h hzone hstart
  simp only [TimeUnit.stride, Stride.move, plus_weekStart] at hface
  simp only [Reading.startOf, TimeUnit.stride, hface, Reading.onDay_day] at hface'
  exact ⟨hzone', hface'⟩

theorem snap_weeks_iff (h : zone.Unchanging offset) (hi : i.zone = zone) (hd : i.face.InRange) :
    (Snap.mk .weeks asked).apply i = .ok j ↔
      j.zone = zone ∧ j.face = .midnight (weekStart (asked.getD 0) i.face.day) := by
  constructor
  · exact face_of_snap_weeks h hi
  · rintro ⟨hzone, hface⟩
    -- The midnight has a date in UTC, and so has the time of day to which the days lead first.
    have hmidnight : j.utc =
        (Reading.midnight (weekStart (asked.getD 0) i.face.day)).ahead (-offset) := by
      rw [face_constant h.rules_eq hzone] at hface
      exact Reading.ahead_eq_iff.mp hface
    obtain ⟨hdate, hutc⟩ :=
      inRange_of_midnight h hi hd (weekStart_le _ _) (hmidnight ▸ j.inRange)
    obtain ⟨aligned, haligned, hzone', hface'⟩ := exists_shown h hutc
    have hplus : i.plus .days (-(daysSince i.weekday (asked.getD 0) : Int)) = .ok aligned := by
      simp only [Instant.plus, TimeUnit.stride, moveDate, wall_of_inRange hd, Answer.bind_ok,
        addDays?, plus_weekStart, if_pos hdate, hi, haligned]
    have hdated : aligned.face.InRange := by
      rw [hface', Reading.InRange, Reading.onDay_day]
      exact hdate
    simp only [Snap.apply, hplus, Answer.bind_ok]
    rw [startOf_constant_iff h hzone' hdated, hface']
    simp only [Reading.startOf, TimeUnit.stride, Reading.onDay_day]
    exact ⟨hzone, hface⟩

theorem snap_weeks_ne_unshowable (h : zone.Unchanging offset) (hi : i.zone = zone)
    (hd : i.face.InRange) : (Snap.mk .weeks asked).apply i ≠ .error .unshowable := by
  intro hj
  simp only [Snap.apply] at hj
  rcases Answer.bind_eq_error.mp hj with hj | ⟨aligned, haligned, hj⟩
  · exact (plus_unshowable_iff.mp hj).2 hd
  · obtain ⟨-, hface⟩ := face_of_plus_constant h.rules_eq h.bounds hi (by decide) haligned
    have hdated : aligned.face.InRange := by
      rw [hface, Reading.InRange, Reading.onDay_day]
      exact dayInRange_of_plus (by decide) haligned
    exact startOf_ne_unshowable hdated .days hj

theorem snap_weeks_of_lastOf (h : zone.Unchanging offset) (hi : i.zone = zone)
    (hd : i.face.InRange)
    (hb : Reading.LastOf (fun c => (c.ahead offset).BeginsWeek (asked.getD 0)) i.utc b) :
    (∀ hr : b.InRange, (Snap.mk .weeks asked).apply i = .ok ⟨b, zone, hr⟩) ∧
      (¬ b.InRange → ∃ e, (Snap.mk .weeks asked).apply i = .error (.reported e) ∧
        e.kind = .transform) :=
  ok_or_reported h hi (fun _ => snap_weeks_iff h hi hd) (apply_transforms (.snap ⟨.weeks, asked⟩) i)
    (snap_weeks_ne_unshowable h hi hd) (Reading.lastOf_beginsWeek _ _) hb

/-- Under a fixed offset, a snap on weeks leads to the last midnight, not after the instant, of a
day on the weekday that is asked for, Sunday if none is, and there is always a last one, less than
seven days back by the dates. It stays there when it is made again, and weekdays that are a
multiple of seven apart are the same. It fails only where the midnight has no date in UTC, and
this is reported; where the midnight has one, so has the same time of day. -/
theorem snap_weeks_isFloor (h : zone.Unchanging offset) (hi : i.zone = zone)
    (hd : i.face.InRange) (asked : Option Nat) :
    (∃ b, Reading.LastOf (fun c => (c.ahead offset).BeginsWeek (asked.getD 0)) i.utc b) ∧
    (∀ b, Reading.LastOf (fun c => (c.ahead offset).BeginsWeek (asked.getD 0)) i.utc b →
      i.face.day - 7 < (b.ahead offset).day ∧ (b.ahead offset).day ≤ i.face.day ∧
      (∀ hb : b.InRange, (Snap.mk .weeks asked).apply i = .ok ⟨b, zone, hb⟩ ∧
        (Snap.mk .weeks asked).apply ⟨b, zone, hb⟩ = .ok ⟨b, zone, hb⟩) ∧
      (¬ b.InRange → ∃ e, (Snap.mk .weeks asked).apply i = .error (.reported e) ∧
        e.kind = .transform)) ∧
    (Snap.mk .weeks asked).apply i = (Snap.mk .weeks (some (asked.getD 0 % 7))).apply i := by
  have hlast := Reading.lastOf_beginsWeek (asked.getD 0) i.face
  refine ⟨exists_lastOf_utc h hi hlast, fun b hb => ?_, ?_⟩
  · have hmidnight := (lastOf_utc_iff h hi hlast).mp hb
    have hday : (b.ahead offset).day = weekStart (asked.getD 0) i.face.day := by
      rw [hmidnight, Reading.midnight_day]
    obtain ⟨hok, hreported⟩ := snap_weeks_of_lastOf h hi hd hb
    refine ⟨hday ▸ lt_weekStart _ _, hday ▸ weekStart_le _ _, fun hr => ⟨hok hr, ?_⟩, hreported⟩
    have hdate : DayInRange (weekStart (asked.getD 0) i.face.day) :=
      (inRange_of_midnight h hi hd (weekStart_le _ _)
        (Reading.ahead_eq_iff.mp hmidnight ▸ hr)).1
    have hdated : (Instant.mk b zone hr).face.InRange := by
      rw [face_constant h.rules_eq rfl, Reading.InRange, hday]
      exact hdate
    exact (snap_weeks_of_lastOf h rfl hdated (Reading.LastOf.self hb.holds)).1 hr
  · simp only [Snap.apply, Option.getD_some, daysSince_mod]

/-- From within an inserted second that the clock shows on a Sunday back to a Wednesday, the
weekday of a number that counts round many times. -/
theorem snap_weeks_isFloor_in_inserted_second :
    ∃ (zone : Zone) (i j : Instant), zone.Unchanging 20700 ∧ i.zone = zone ∧ i.utc.leap = true ∧
      i.face.InRange ∧ weekdayOf i.face.day = 0 ∧
      Reading.LastOf (fun c => (c.ahead 20700).BeginsWeek 4294967295) i.utc j.utc ∧
      (Snap.mk .weeks (some 4294967295)).apply i = .ok j ∧
      (Snap.mk .weeks (some 3)).apply i = .ok j ∧
      (Snap.mk .weeks (some 4294967295)).apply j = .ok j := by
  have hu : (Zone.fixed ⟨20700, by decide, by decide⟩).Unchanging 20700 := ⟨rfl, by decide⟩
  obtain ⟨⟨b, hb⟩, hfloor, hsame⟩ := snap_weeks_isFloor
    (i := ⟨⟨1483228799987600000, true⟩, .fixed ⟨20700, by decide, by decide⟩, by decide⟩)
    hu rfl (by decide) (some 4294967295)
  have hvalue := Reading.ahead_eq_iff.mp
    ((lastOf_utc_iff hu rfl (Reading.lastOf_beginsWeek 4294967295 _)).mp hb)
  have hr : b.InRange := by
    rw [hvalue]
    decide
  obtain ⟨-, -, hstart, -⟩ := hfloor b hb
  exact ⟨_, ⟨⟨1483228799987600000, true⟩, .fixed ⟨20700, by decide, by decide⟩, by decide⟩,
    ⟨b, .fixed ⟨20700, by decide, by decide⟩, hr⟩, hu, rfl, rfl, by decide, by decide, hb,
    (hstart hr).1, hsame.symm.trans (hstart hr).1, (hstart hr).2⟩

end Instant

end RelativeTime

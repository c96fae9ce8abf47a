import RelativeTime.Proofs.Evaluation
import RelativeTime.Proofs.Walk

/-! How far a token leads, by the count of UTC. A move of the date and the length that its unit has
on the average differ by little over a month, whatever the clock does on the way, and within the
calendar nothing else can make a token fail. This holds in inserted seconds as well. -/
namespace RelativeTime

open Calendar

/-- Nanoseconds that a unit lasts, a day taken as 24 hours and a month as the average one. -/
def Stride.span : Stride → Int
  | .elapsed nanos => nanos
  | .days count => 86400000000000 * count
  | .months count => 2629746000000000 * count

namespace TimeUnit

def span (u : TimeUnit) : Int := u.stride.span

theorem span_pos (u : TimeUnit) : 0 < u.span := by
  cases u <;> decide

theorem move_near_span {u : TimeUnit} (hu : u.MovesDate) (day n : Int) :
    n * u.span - 86400000000000 * 37 ≤ 86400000000000 * (u.stride.move day n - day) ∧
      86400000000000 * (u.stride.move day n - day) ≤ n * u.span + 86400000000000 * 37 := by
  have hday := day_near_month day
  rcases hu with rfl | rfl | rfl | rfl
  · simp only [span, stride, Stride.span, Stride.move]
    omega
  · simp only [span, stride, Stride.span, Stride.move]
    omega
  · have hmonths := monthsOn_near day (n * 1)
    simp only [span, stride, Stride.span, Stride.move]
    omega
  · have hmonths := monthsOn_near day (n * 12)
    simp only [span, stride, Stride.span, Stride.move]
    omega

end TimeUnit

namespace Instant

variable {i j : Instant} {zone : Zone} {b : Int} {u : TimeUnit} {n : Int}

structure Leads (i j : Instant) (nanos : Int) : Prop where
  zone_eq : j.zone = i.zone
  near : i.utc.nanos + nanos - 86400000000000 * 40 ≤ j.utc.nanos ∧
    j.utc.nanos ≤ i.utc.nanos + nanos + 86400000000000 * 40

theorem plus_leads (hb : i.zone.rules.Bounded) (h : i.plus u n = .ok j) :
    i.Leads j (n * u.span) := by
  by_cases hu : u.MovesDate
  · obtain ⟨-, hresolve⟩ := resolve_of_plus hu h
    have hnanos := Zone.nanos_of_resolve hb hresolve
    have hmove := TimeUnit.move_near_span hu i.face.day n
    have hoffset := offset_bounds hb (rfl : i.zone = i.zone)
    rw [Reading.onDay_nanos, face_nanos] at hnanos
    exact ⟨Zone.zone_of_resolve hresolve, by omega, by omega⟩
  · obtain ⟨nanos, hnanos⟩ := TimeUnit.exists_elapsed hu
    obtain ⟨hzone, hutc⟩ := (plus_elapsed_eq_ok_iff hnanos).mp h
    have hafter := i.utc.after_nanos_bounds (n * nanos)
    rw [← hutc] at hafter
    rw [TimeUnit.span, hnanos, Stride.span]
    exact ⟨hzone, by omega, by omega⟩

theorem Within.exists_plus (hb : zone.rules.Bounded) (hi : i.Within zone b) (hbound : b ≤ 90000000)
    (hn : -86400000000000 * 80000000 ≤ i.utc.nanos + n * u.span ∧
      i.utc.nanos + n * u.span ≤ 86400000000000 * 80000000) : ∃ j, i.plus u n = .ok j := by
  by_cases hu : u.MovesDate
  · have hmove := TimeUnit.move_near_span hu i.face.day n
    have hday := face_day_bounds hb hi.zone_eq
    have : i.utc.day = i.utc.nanos / 86400000000000 := rfl
    rw [plus_of_inner hu (hi.face_inRange hb hbound) (by rw [firstDay_eq, lastDay_eq]; omega),
      hi.zone_eq]
    exact Zone.resolve_of_inner hb (by rw [Reading.onDay_day, firstDay_eq, lastDay_eq]; omega)
  · obtain ⟨nanos, hnanos⟩ := TimeUnit.exists_elapsed hu
    have hafter := i.utc.after_nanos_bounds (n * nanos)
    rw [TimeUnit.span, hnanos, Stride.span] at hn
    have hrange : (i.utc.after (n * nanos)).InRange := by
      rw [Reading.InRange, DayInRange, firstDay_eq, lastDay_eq, Reading.day]
      omega
    exact ⟨⟨_, i.zone, hrange⟩, (plus_elapsed_eq_ok_iff hnanos).mpr ⟨rfl, rfl⟩⟩

theorem exists_resolve (hb : zone.rules.Bounded) (hbound : b ≤ 80000000) (wall : Reading)
    (hd : -b ≤ wall.day ∧ wall.day ≤ b) :
    ∃ j, zone.resolve wall = .ok j ∧ j.Within zone (b + 2) := by
  have hinner : firstDay < wall.day ∧ wall.day < lastDay := by
    rw [firstDay_eq, lastDay_eq]
    omega
  obtain ⟨j, hj⟩ := Zone.resolve_of_inner hb hinner
  have hnanos := Zone.nanos_of_resolve hb hj
  have : wall.day = wall.nanos / 86400000000000 := rfl
  exact ⟨j, hj, Zone.zone_of_resolve hj, by omega, by omega⟩

theorem Within.exists_startOf (hb : zone.rules.Bounded) (hbound : b ≤ 70000000)
    (hi : i.Within zone b) (u : TimeUnit) :
    ∃ j, i.startOf u = .ok j ∧ j.Within zone (b + 403) := by
  by_cases hu : u.MovesDate
  · have hnear := hi.face_near hb
    have hday := Reading.midnight_day (u.firstDate i.face.day)
    have hle := u.firstDate_le i.face.day
    have hge := u.firstDate_near i.face.day
    obtain ⟨j, hj, ij⟩ := exists_resolve (b := b + 401) hb (by omega)
      (.midnight (u.firstDate i.face.day)) ⟨by omega, by omega⟩
    refine ⟨j, (startOf_date_eq_ok_iff hu).mpr ⟨hi.face_inRange hb (by omega), ?_⟩,
      ij.mono (by omega)⟩
    rw [hi.zone_eq, hj]
  · obtain ⟨nanos, hnanos⟩ := TimeUnit.exists_elapsed hu
    have hlong : 0 < nanos ∧ nanos ≤ 86400000000000 := by
      rcases TimeUnit.elapsed_cases hnanos with h | h | h | h <;> omega
    have hnear := hi.near
    have hrest := Int.emod_nonneg i.face.nanos (show nanos ≠ 0 by omega)
    have hrest' := Int.emod_lt_of_pos i.face.nanos hlong.1
    have hafter := i.utc.after_nanos_bounds (-(i.face.nanos % nanos))
    have hrange : (i.utc.after (-(i.face.nanos % nanos))).InRange := by
      rw [Reading.InRange, DayInRange, firstDay_eq, lastDay_eq, Reading.day]
      omega
    refine ⟨⟨_, i.zone, hrange⟩, (startOf_elapsed_eq_ok_iff hnanos).mpr ⟨rfl, rfl⟩, hi.zone_eq,
      ?_, ?_⟩
    · simp only
      omega
    · simp only
      omega

theorem daysSince_le (weekday asked : Nat) : daysSince weekday asked ≤ 6 := by
  unfold daysSince
  omega

theorem Within.exists_snap (hb : zone.rules.Bounded) (hbound : b ≤ 60000000)
    (hi : i.Within zone b) (s : Snap) : ∃ j, s.apply i = .ok j ∧ j.Within zone (b + 450) := by
  by_cases hu : s.unit = .weeks
  · have hback := daysSince_le i.weekday (s.weekday.getD 0)
    have hnear := hi.near
    have hspan : TimeUnit.days.span = 86400000000000 := rfl
    obtain ⟨k, hk⟩ := hi.exists_plus hb (u := .days) (by omega)
      (n := -(daysSince i.weekday (s.weekday.getD 0) : Int)) (by rw [hspan]; omega)
    obtain ⟨hzone, hleads⟩ := plus_leads (hi.zone_eq ▸ hb) hk
    rw [hspan] at hleads
    have ik : k.Within zone (b + 47) := ⟨hzone.trans hi.zone_eq, by omega, by omega⟩
    obtain ⟨j, hj, ij⟩ := ik.exists_startOf hb (by omega) .days
    exact ⟨j, by simp only [Snap.apply, hu, hk, Answer.bind_ok, hj], ij.mono (by omega)⟩
  · obtain ⟨j, hj, ij⟩ := hi.exists_startOf hb (by omega) s.unit
    exact ⟨j, (Snap.apply_of_ne_weeks hu i).trans hj, ij.mono (by omega)⟩

theorem Within.exists_format (hb : zone.rules.Bounded) (hbound : b ≤ 90000000)
    (hi : i.Within zone b) : ∃ text, i.format = .ok text :=
  ⟨_, by rw [format, wall_of_inRange (hi.face_inRange hb hbound)]; rfl⟩

end Instant

end RelativeTime

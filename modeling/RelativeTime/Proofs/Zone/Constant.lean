import RelativeTime.Proofs.Calendar.Moves

/-! Zones whose clock is never changed. There a reading and an instant determine each other, in
inserted seconds too: what a reading stands for is the one instant that shows it, and the way
across a gap is never taken. -/
namespace RelativeTime

namespace Rules

theorem bounded_constant {offset : Int} (h : -86400 < offset ∧ offset < 86400) :
    (constant offset).Bounded := by
  intro n hn
  obtain rfl : n = offset := by simpa [constant] using hn
  exact h

end Rules

namespace Reading

@[simp] theorem ahead_zero (r : Reading) : r.ahead 0 = r := by
  simp only [ahead, Int.mul_zero, Int.add_zero]

theorem ahead_eq_iff {r r' : Reading} {s : Int} : r.ahead s = r' ↔ r = r'.ahead (-s) := by
  constructor
  · rintro rfl
    rw [ahead_ahead, Int.add_right_neg, ahead_zero]
  · rintro rfl
    rw [ahead_ahead, Int.add_left_neg, ahead_zero]

end Reading

namespace Instant

variable {i : Instant} {zone : Zone} {offset : Int}

theorem offset_constant (hz : zone.rules = .constant offset) (h : i.zone = zone) :
    i.offset = offset := by
  rw [Instant.offset, h, hz, Rules.offsetAt_constant]

theorem face_constant (hz : zone.rules = .constant offset) (h : i.zone = zone) :
    i.face = i.utc.ahead offset := by
  rw [face, offset_constant hz h]

theorem face_of_ahead_neg (hz : zone.rules = .constant offset) {wall : Reading}
    (hr : (wall.ahead (-offset)).InRange) :
    (⟨wall.ahead (-offset), zone, hr⟩ : Instant).face = wall := by
  rw [face_constant hz rfl, Reading.ahead_ahead, Int.add_left_neg, Reading.ahead_zero]

end Instant

namespace Zone

variable {i : Instant} {zone : Zone} {wall : Reading} {offset : Int}

/-- Where the offset leads out of the calendar, so does the way across a gap: the day before has no
date at one end, and elapsed time leads no less far at the other. -/
theorem acrossGap?_constant (hz : zone.rules = .constant offset)
    (ho : -86400 < offset ∧ offset < 86400) (h : ¬ (wall.ahead (-offset)).InRange) :
    zone.acrossGap? wall = none := by
  rw [acrossGap?_eq, hz, Rules.offsetAt_constant]
  by_cases hbefore : (wall.after (-86400000000000)).InRange
  · rw [if_pos hbefore, Instant.ofUtc?_eq_none_iff]
    intro hacross
    have hday := wall.after_nanos_bounds (-86400000000000)
    have hgap := wall.after_nanos_bounds (-1000000000 * offset)
    simp only [Reading.InRange, DayInRange, Reading.day, Reading.ahead_nanos] at h hbefore hacross
    omega
  · exact if_neg hbefore

theorem resolve_constant_iff (hz : zone.rules = .constant offset)
    (ho : -86400 < offset ∧ offset < 86400) :
    zone.resolve wall = .ok i ↔ i.zone = zone ∧ i.face = wall := by
  have hearliest : zone.earliestShowing? wall = Instant.ofUtc? zone (wall.ahead (-offset)) :=
    earliestShowing?_eq (by rw [hz, Rules.offsetShowing?_constant])
  have hresolve : zone.resolve wall = .ok i ↔
      Instant.ofUtc? zone (wall.ahead (-offset)) = some i := by
    unfold resolve
    rw [hearliest]
    cases h : Instant.ofUtc? zone (wall.ahead (-offset)) with
    | some j => simp
    | none => simp [acrossGap?_constant hz ho (Instant.ofUtc?_eq_none_iff.mp h)]
  rw [hresolve, Instant.ofUtc?_eq_some_iff]
  constructor
  · rintro ⟨hzone, hutc⟩
    rw [Instant.face_constant hz hzone]
    exact ⟨hzone, Reading.ahead_eq_iff.mpr hutc⟩
  · rintro ⟨hzone, hface⟩
    rw [Instant.face_constant hz hzone] at hface
    exact ⟨hzone, Reading.ahead_eq_iff.mp hface⟩

end Zone

namespace Instant

variable {i j : Instant} {zone : Zone} {offset : Int}

theorem face_of_plus_constant (hz : zone.rules = .constant offset)
    (ho : -86400 < offset ∧ offset < 86400) (hi : i.zone = zone) {u : TimeUnit} (hu : u.MovesDate)
    {n : Int} (h : i.plus u n = .ok j) :
    j.zone = zone ∧ j.face = i.face.onDay (u.stride.move i.face.day n) := by
  obtain ⟨-, hresolve⟩ := resolve_of_plus hu h
  rw [hi] at hresolve
  exact (Zone.resolve_constant_iff hz ho).mp hresolve

end Instant

end RelativeTime

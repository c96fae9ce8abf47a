import RelativeTime.Proofs.Exactness

/-! A shift by more leads further. Where a clock is never changed, shifts from one instant by one
unit lead to instants in the order of the amounts, whatever days of the month are clamped on the
way, and from within an inserted second as well. -/
namespace RelativeTime

namespace Reading

variable {r s t : Reading} {u : TimeUnit} {m n : Int}

theorem lt_of_place_lt (hs : s.leap = true → r.leap = true ∧ s.seconds = r.seconds)
    (ht : t.leap = true → r.leap = true ∧ t.seconds = r.seconds) (h : r.place s < r.place t) :
    s < t := by
  change s.seconds < t.seconds ∨ s.seconds = t.seconds ∧ s.subsecond < t.subsecond
  unfold place at h
  unfold subsecond inserted
  unfold seconds at *
  cases hls : s.leap <;> cases hlt : t.leap <;> cases hlr : r.leap <;>
    simp only [hls, hlt, hlr, Bool.false_eq_true, if_true, if_false, false_and, false_or, true_and,
      true_or, forall_const, false_implies] at hs ht h ⊢
  all_goals omega

theorem after_lt_after (h : m < n) : r.after m < r.after n := by
  have hm : r.Elapses m (r.after m) := elapses_iff.mpr rfl
  have hn : r.Elapses n (r.after n) := elapses_iff.mpr rfl
  refine lt_of_place_lt hm.inserted hn.inserted ?_
  rw [hm.place_eq, hn.place_eq]
  exact Int.add_lt_add_left h _

theorem not_lt_after (h : n ≤ 0) : ¬ r < r.after n := by
  intro hlt
  rcases Int.lt_or_eq_of_le h with hback | rfl
  · have hback' := after_lt_after (r := r) hback
    rw [after_zero] at hback'
    exact lt_asymm hlt hback'
  · rw [after_zero] at hlt
    exact lt_asymm hlt hlt

theorem onDay_lt_onDay {day day' : Int} (h : day < day') : r.onDay day < r.onDay day' := by
  refine .inl ?_
  simp only [seconds, onDay]
  omega

/-- Of dates, the month alone decides if the months differ, so that clamping keeps the order. -/
theorem plus_lt_plus (h : m < n) : r.plus u m < r.plus u n := by
  by_cases hu : u.MovesDate
  · rw [plus_of_movesDate hu, plus_of_movesDate hu]
    exact onDay_lt_onDay (TimeUnit.move_lt hu r.day h)
  · obtain ⟨nanos, hnanos⟩ := TimeUnit.exists_elapsed hu
    have hpos : 0 < nanos := by
      rcases TimeUnit.elapsed_cases hnanos with ⟨-, rfl⟩ | ⟨-, rfl⟩ | ⟨-, rfl⟩ | ⟨-, rfl⟩ <;> decide
    simp only [plus, hnanos]
    exact after_lt_after (Int.mul_lt_mul_of_pos_right h hpos)

theorem plus_zero : r.plus u 0 = r := by
  by_cases hu : u.MovesDate
  · rw [plus_of_movesDate hu, TimeUnit.move_zero hu, onDay_self]
  · obtain ⟨nanos, hnanos⟩ := TimeUnit.exists_elapsed hu
    simp only [plus, hnanos, Int.zero_mul, after_zero]

theorem plus_lt_plus_iff : r.plus u m < r.plus u n ↔ m < n := by
  refine ⟨fun h => ?_, plus_lt_plus⟩
  by_contra hle
  rcases Int.lt_or_eq_of_le (Int.not_lt.mp hle) with hback | rfl
  · exact lt_asymm h (plus_lt_plus hback)
  · exact lt_asymm h h

end Reading

namespace Instant

variable {i j k : Instant} {zone : Zone} {offset : Int} {u : TimeUnit} {m n : Int}

theorem face_lt_face_iff (h : zone.Unchanging offset) (hi : i.zone = zone) (hj : j.zone = zone) :
    i.face < j.face ↔ i.utc < j.utc := by
  rw [face_constant h.rules_eq hi, face_constant h.rules_eq hj, Reading.ahead_lt_ahead_iff]

/-- Under a fixed offset, shifts by one unit that succeed lead to instants in the order of their
amounts. So a positive amount leads to a later instant, and a negative one to an earlier. -/
theorem plus_strictly_increasing (h : zone.Unchanging offset) (hi : i.zone = zone)
    (hj : i.plus u m = .ok j) (hk : i.plus u n = .ok k) :
    (j.utc < k.utc ↔ m < n) ∧ (i.utc < k.utc ↔ 0 < n) ∧ (k.utc < i.utc ↔ n < 0) := by
  obtain ⟨hzone, hface⟩ := face_of_plus h hi hj
  obtain ⟨hzone', hface'⟩ := face_of_plus h hi hk
  rw [← face_lt_face_iff h hzone hzone', ← face_lt_face_iff h hi hzone',
    ← face_lt_face_iff h hzone' hi, hface, hface']
  have hstay : i.face.plus u 0 = i.face := Reading.plus_zero
  refine ⟨Reading.plus_lt_plus_iff, ?_, ?_⟩
  · rw [← Reading.plus_lt_plus_iff (r := i.face) (u := u), hstay]
  · rw [← Reading.plus_lt_plus_iff (r := i.face) (u := u), hstay]

/-- From a 31 January, by one month to the last day of a February in a leap year, and by thirteen to
that of the next. -/
theorem plus_increasing_over_clamped_days :
    ∃ (zone : Zone) (i j k : Instant), zone.Unchanging 20700 ∧ i.zone = zone ∧
      Date.ofDay i.face.day = ⟨2024, 1, 31⟩ ∧ i.plus .months 1 = .ok j ∧
      i.plus .months 13 = .ok k ∧ Date.ofDay j.face.day = ⟨2024, 2, 29⟩ ∧
      Date.ofDay k.face.day = ⟨2025, 2, 28⟩ ∧ j.utc < k.utc ∧ i.utc < k.utc := by
  let zone : Zone := .fixed ⟨20700, by decide, by decide⟩
  let i : Instant := ⟨⟨1706645700000000000, false⟩, zone, by decide⟩
  let j : Instant := ⟨⟨1709151300000000000, false⟩, zone, by decide⟩
  let k : Instant := ⟨⟨1740687300000000000, false⟩, zone, by decide⟩
  have hu : zone.Unchanging 20700 := ⟨rfl, by decide⟩
  have hj : i.plus .months 1 = .ok j := by decide +kernel
  have hk : i.plus .months 13 = .ok k := by decide +kernel
  obtain ⟨horder, hforward, -⟩ := plus_strictly_increasing hu rfl hj hk
  exact ⟨zone, i, j, k, hu, rfl, by decide, hj, hk, by decide, by decide,
    horder.mpr (by decide), hforward.mpr (by decide)⟩

end Instant

end RelativeTime

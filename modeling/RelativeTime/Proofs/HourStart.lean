import RelativeTime.Proofs.Walk
import RelativeTime.Proofs.Zone.Changes

/-! The start of an hour or a minute on a clock that is changed. What the clock shows beyond the
boundary is taken off as elapsed time, and if the clock is changed on the way, the result shows a
boundary only if the changes are by whole units. -/
namespace RelativeTime

namespace Instant

variable {i j : Instant} {u : TimeUnit} {nanos : Int}

theorem utc_of_startOf_elapsed (hl : i.utc.leap = false) (hu : u.stride = .elapsed nanos)
    (hj : i.startOf u = .ok j) :
    j.zone = i.zone ∧ j.utc = ⟨i.utc.nanos - i.face.nanos % nanos, false⟩ := by
  obtain ⟨hzone, hutc⟩ := (startOf_elapsed_eq_ok_iff hu).mp hj
  rw [Reading.after_of_not_leap hl, ← Int.sub_eq_add_neg] at hutc
  exact ⟨hzone, hutc⟩

theorem leap_of_startOf_elapsed (hl : i.utc.leap = false) (hu : u.stride = .elapsed nanos)
    (hj : i.startOf u = .ok j) : j.utc.leap = false := by
  rw [(utc_of_startOf_elapsed hl hu hj).2]

theorem not_lt_startOf_elapsed (hl : i.utc.leap = false) (hu : u.stride = .elapsed nanos)
    (hj : i.startOf u = .ok j) : ¬ i.utc < j.utc := by
  rw [Reading.lt_iff_of_not_leap hl (leap_of_startOf_elapsed hl hu hj),
    (utc_of_startOf_elapsed hl hu hj).2]
  simp only
  rcases TimeUnit.elapsed_cases hu with ⟨-, rfl⟩ | ⟨-, rfl⟩ | ⟨-, rfl⟩ | ⟨-, rfl⟩ <;> omega

theorem begins_of_startOf_iff (hl : i.utc.leap = false) (hu : u.stride = .elapsed nanos)
    (hj : i.startOf u = .ok j) :
    j.face.Begins u ↔ nanos ∣ 1000000000 * (i.offset - j.offset) := by
  obtain ⟨-, hutc⟩ := utc_of_startOf_elapsed hl hu hj
  have hplain : j.face.leap = false := leap_of_startOf_elapsed hl hu hj
  have hnanos : j.utc.nanos = i.utc.nanos - i.face.nanos % nanos := by rw [hutc]
  have hface := i.face_nanos
  have hface' := j.face_nanos
  rw [Reading.begins_elapsed_iff hu hplain]
  rcases TimeUnit.elapsed_cases hu with ⟨-, rfl⟩ | ⟨-, rfl⟩ | ⟨-, rfl⟩ | ⟨-, rfl⟩ <;> omega

theorem startOf_self_iff (hl : i.utc.leap = false) (hu : u.stride = .elapsed nanos) :
    i.startOf u = .ok i ↔ i.face.Begins u := by
  have hutc : i.utc = ⟨i.utc.nanos, false⟩ := by rw [← hl]
  have hplain : i.face.leap = false := hl
  rw [Reading.begins_elapsed_iff hu hplain, startOf_elapsed_eq_ok_iff hu,
    Reading.after_of_not_leap hl]
  constructor
  · rintro ⟨-, h⟩
    have hnanos := congrArg Reading.nanos h
    simp only at hnanos
    omega
  · intro h
    rw [h, Int.neg_zero, Int.add_zero]
    exact ⟨rfl, hutc⟩

theorem exists_startOf_elapsed (hl : i.utc.leap = false) (hd : firstDay < i.utc.day)
    (hu : u.stride = .elapsed nanos) : ∃ j, i.startOf u = .ok j := by
  have hrange : (i.utc.after (-(i.face.nanos % nanos))).InRange := by
    have hlast := i.inRange.2
    rw [Reading.after_of_not_leap hl]
    simp only [Reading.InRange, DayInRange, Reading.day] at hd hlast ⊢
    rcases TimeUnit.elapsed_cases hu with ⟨-, rfl⟩ | ⟨-, rfl⟩ | ⟨-, rfl⟩ | ⟨-, rfl⟩ <;> omega
  exact ⟨⟨_, i.zone, hrange⟩, (startOf_elapsed_eq_ok_iff hu).mpr ⟨rfl, rfl⟩⟩

theorem offset_sub_of_changes (hl : i.utc.leap = false) {s : Int}
    (hu : u.stride = .elapsed (1000000000 * s)) (hj : i.startOf u = .ok j)
    (hc : ∀ c ∈ i.zone.rules.changes, i.utc.seconds - s < c.since → c.since ≤ i.utc.seconds →
      s ∣ c.offset - i.zone.rules.offsetAt (c.since - 1)) : s ∣ i.offset - j.offset := by
  obtain ⟨hzone, hutc⟩ := utc_of_startOf_elapsed hl hu hj
  have hpos : 0 < s := by
    rcases TimeUnit.elapsed_cases hu with h | h | h | h <;> omega
  have hrest := Int.emod_nonneg i.face.nanos (show 1000000000 * s ≠ 0 by omega)
  have hrest' := Int.emod_lt_of_pos i.face.nanos (show 0 < 1000000000 * s by omega)
  have hback : i.utc.seconds - s ≤ j.utc.seconds ∧ j.utc.seconds ≤ i.utc.seconds := by
    rw [hutc]
    simp only [Reading.seconds]
    omega
  rw [offset, offset, hzone]
  exact Rules.dvd_offsetAt_sub hback.2 fun c hmem hafter huntil => hc c hmem (by omega) huntil

/-- The start of a minute or an hour is never after the instant. That of a minute shows a whole
minute and starts itself, if the changes of the last minute are between offsets of whole minutes.
That of an hour shows a whole hour, and starts itself, if and only if the offset that it is shown
with and that of the instant are whole hours apart, as they are when all changes of the last hour
are by whole hours. -/
theorem startOf_begins_iff (hl : i.utc.leap = false) (hd : firstDay < i.utc.day)
    (hc : ∀ c ∈ i.zone.rules.changes, i.utc.seconds - 60 < c.since → c.since ≤ i.utc.seconds →
      60 ∣ c.offset ∧ 60 ∣ i.zone.rules.offsetAt (c.since - 1)) :
    (∃ j, i.startOf .minutes = .ok j ∧ j.zone = i.zone ∧ ¬ i.utc < j.utc ∧
      j.face.Begins .minutes ∧ j.startOf .minutes = .ok j) ∧
    ∃ j, i.startOf .hours = .ok j ∧ j.zone = i.zone ∧ ¬ i.utc < j.utc ∧
      (j.face.Begins .hours ↔ 3600 ∣ i.offset - j.offset) ∧
      (j.startOf .hours = .ok j ↔ 3600 ∣ i.offset - j.offset) ∧
      ((∀ c ∈ i.zone.rules.changes, i.utc.seconds - 3600 < c.since → c.since ≤ i.utc.seconds →
        3600 ∣ c.offset - i.zone.rules.offsetAt (c.since - 1)) → 3600 ∣ i.offset - j.offset) := by
  constructor
  · obtain ⟨j, hj⟩ := exists_startOf_elapsed hl hd (u := .minutes) rfl
    obtain ⟨hzone, -⟩ := utc_of_startOf_elapsed hl rfl hj
    have hplain := leap_of_startOf_elapsed hl rfl hj
    have hwhole : 60 ∣ i.offset - j.offset := by
      refine offset_sub_of_changes hl (s := 60) rfl hj ?_
      intro c hmem hafter huntil
      obtain ⟨hbegun, hended⟩ := hc c hmem hafter huntil
      exact Int.dvd_sub hbegun hended
    have hbegins : j.face.Begins .minutes := by
      rw [begins_of_startOf_iff hl rfl hj]
      omega
    have hstays := (startOf_self_iff hplain rfl).mpr hbegins
    exact ⟨j, hj, hzone, not_lt_startOf_elapsed hl rfl hj, hbegins, hstays⟩
  · obtain ⟨j, hj⟩ := exists_startOf_elapsed hl hd (u := .hours) rfl
    obtain ⟨hzone, -⟩ := utc_of_startOf_elapsed hl rfl hj
    have hplain := leap_of_startOf_elapsed hl rfl hj
    have hbegins : j.face.Begins .hours ↔ 3600 ∣ i.offset - j.offset := by
      rw [begins_of_startOf_iff hl rfl hj]
      omega
    refine ⟨j, hj, hzone, not_lt_startOf_elapsed hl rfl hj, hbegins, ?_, ?_⟩
    · exact (startOf_self_iff hplain rfl).trans hbegins
    · exact offset_sub_of_changes hl (s := 3600) rfl hj

/-- The clock of St. John's was set back from one minute after midnight to 23:01. Half a minute
later the minute starts with the change, and the hour is that of the midnight before it. -/
theorem starts_across_midnight :
    ∃ i j k : Instant, i.zone = .named "America/St_Johns" Zone.Table.stJohns ∧
      Date.ofDay i.face.day = ⟨2006, 10, 28⟩ ∧ i.face.hour = 23 ∧
      i.startOf .minutes = .ok j ∧ j.utc = ⟨1162089060000000000, false⟩ ∧ j.face.Begins .minutes ∧
      j.startOf .minutes = .ok j ∧ i.startOf .hours = .ok k ∧
      k.face = .midnight 13450 ∧ k.startOf .hours = .ok k := by
  let i : Instant := ⟨⟨1162089090000000000, false⟩, .named "America/St_Johns" Zone.Table.stJohns,
    by decide⟩
  obtain ⟨⟨j, hj, -, -, hminute, hagain⟩, k, hk, -, -, -, hstays, hwhole⟩ :=
    startOf_begins_iff (i := i) rfl (by decide) (by decide +kernel)
  have hutc := (utc_of_startOf_elapsed rfl rfl hj).2.trans
    (show _ = ⟨1162089060000000000, false⟩ by decide +kernel)
  obtain ⟨hzone, hback⟩ := utc_of_startOf_elapsed rfl rfl hk
  have hface : k.face = .midnight 13450 := by
    rw [face, offset, hzone, hback]
    decide +kernel
  exact ⟨i, j, k, rfl, by decide +kernel, by decide +kernel, hj, hutc, hminute, hagain, hk, hface,
    hstays.mpr (hwhole (by decide +kernel))⟩

/-- The clock of Lord Howe Island is set forward by half an hour at two o'clock. From a quarter to
three the hour seems to start at half past one, and from there at one. -/
theorem hour_starts_at_half_past :
    ∃ i j k : Instant, i.zone = .named "Australia/Lord_Howe" Zone.Table.lordHowe ∧
      i.utc.leap = false ∧ (∀ c ∈ i.zone.rules.changes, i.utc.seconds - 31622400 < c.since →
        c.since < i.utc.seconds + 31622400 →
        60 ∣ c.offset ∧ 60 ∣ i.zone.rules.offsetAt (c.since - 1)) ∧
      i.face.hour = 2 ∧ i.face.minute = 45 ∧ i.startOf .hours = .ok j ∧ j.face.hour = 1 ∧
      j.face.minute = 30 ∧ ¬ j.face.Begins .hours ∧ j.startOf .hours = .ok k ∧ k ≠ j := by
  let zone : Zone := .named "Australia/Lord_Howe" Zone.Table.lordHowe
  let i : Instant := ⟨⟨1728143100000000000, false⟩, zone, by decide⟩
  let j : Instant := ⟨⟨1728140400000000000, false⟩, zone, by decide⟩
  let k : Instant := ⟨⟨1728138600000000000, false⟩, zone, by decide⟩
  have hhalf : j.face.minute = 30 := by decide +kernel
  refine ⟨i, j, k, rfl, rfl, by decide +kernel, by decide +kernel, by decide +kernel,
    by decide +kernel, by decide +kernel, hhalf, ?_, by decide +kernel, by decide⟩
  rintro ⟨hminute, -, -⟩
  rw [hhalf] at hminute
  cases hminute

end Instant

end RelativeTime

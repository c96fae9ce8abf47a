import RelativeTime.Proofs.Advance
import RelativeTime.Proofs.Idempotence
import RelativeTime.Proofs.Span

/-! The start of a unit that is sought from within an inserted second. A millisecond and a second
start where they should, inside the inserted second. A minute and an hour seem to start a second
late: what the clock shows beyond the boundary is taken off as elapsed time, and the inserted second
takes up a second of it. -/
namespace RelativeTime

open Timestamp (TimeOfDay)

def Timestamp.TimeOfDay.startOf (t : TimeOfDay) : TimeUnit → TimeOfDay
  | .milliseconds => { t with fraction := t.fraction / 1000000 * 1000000 }
  | .seconds => { t with fraction := 0 }
  | .minutes => { t with second := 0, fraction := 0 }
  | .hours => { t with minute := 0, second := 0, fraction := 0 }
  | _ => ⟨0, 0, 0, 0⟩

namespace TimeUnit

variable {u : TimeUnit} {nanos : Int}

theorem short_cases (hu : u = .milliseconds ∨ u = .seconds) (h : u.stride = .elapsed nanos) :
    u = .milliseconds ∧ nanos = 1000000 ∨ u = .seconds ∧ nanos = 1000000000 := by
  rcases hu with rfl | rfl <;> simpa [stride, eq_comm] using h

theorem long_cases (hu : u = .minutes ∨ u = .hours) (h : u.stride = .elapsed nanos) :
    u = .minutes ∧ nanos = 60000000000 ∨ u = .hours ∧ nanos = 3600000000000 := by
  rcases hu with rfl | rfl <;> simpa [stride, eq_comm] using h

end TimeUnit

namespace Reading

def clock (r : Reading) : TimeOfDay := ⟨r.hour, r.minute, r.second, r.fraction⟩

def boundary (r : Reading) (nanos : Int) : Int := r.nanos - r.nanos % nanos

variable {r : Reading} {u : TimeUnit} {nanos : Int}

theorem clock_eq (r : Reading) : r.clock = ⟨(r.nanos / 3600000000000 % 24).toNat,
    (r.nanos / 60000000000 % 60).toNat,
    (r.nanos / 1000000000 % 60).toNat + if r.leap then 1 else 0, (r.nanos % 1000000000).toNat⟩ := by
  simp only [clock, hour, minute, second, fraction, secondOfDay, timeOfDay, TimeOfDay.mk.injEq,
    and_true]
  omega

theorem second_eq_sixty (hl : r.leap = true) (hc : r.ClosesMinute) : r.second = 60 := by
  have hlast := hc hl
  simp only [seconds] at hlast
  simp only [second, hl, if_true, secondOfDay, timeOfDay]
  omega

theorem startOf_within_second (hl : r.leap = true) (hu : u = .milliseconds ∨ u = .seconds)
    (hnanos : u.stride = .elapsed nanos) : r.startOf u = ⟨r.boundary nanos, true⟩ := by
  have hrest : 0 ≤ r.nanos % nanos ∧ r.nanos % nanos ≤ r.nanos % 1000000000 := by
    rcases TimeUnit.short_cases hu hnanos with ⟨-, rfl⟩ | ⟨-, rfl⟩ <;> omega
  simp only [startOf, hnanos]
  rw [after, if_pos hl]
  simp only
  rw [if_neg (by omega), decide_eq_true (by omega)]
  rfl

theorem startOf_before_second (hl : r.leap = true) (hc : r.ClosesMinute)
    (hu : u = .minutes ∨ u = .hours) (hnanos : u.stride = .elapsed nanos) :
    r.startOf u = ⟨r.boundary nanos + 1000000000, false⟩ := by
  have hlate := toStart_nanos_of_leap hl hc (s := 0) rfl hnanos hu
  rw [ahead_zero] at hlate
  simp only [startOf, hnanos, hlate, boundary]

theorem clock_within_second (hu : u = .milliseconds ∨ u = .seconds)
    (hnanos : u.stride = .elapsed nanos) :
    clock ⟨r.boundary nanos, r.leap⟩ = r.clock.startOf u := by
  rw [clock_eq, clock_eq]
  rcases TimeUnit.short_cases hu hnanos with ⟨rfl, rfl⟩ | ⟨rfl, rfl⟩ <;>
    simp only [TimeOfDay.startOf, boundary, TimeOfDay.mk.injEq] <;> omega

/-- A number of seconds after the boundary of a minute or an hour, and before the next. -/
theorem clock_past_boundary (hu : u = .minutes ∨ u = .hours) (hnanos : u.stride = .elapsed nanos)
    {seconds : Nat} (h : seconds < 60) :
    clock ⟨r.boundary nanos + 1000000000 * seconds, false⟩ =
      { r.clock.startOf u with second := seconds } := by
  rw [clock_eq, clock_eq]
  rcases TimeUnit.long_cases hu hnanos with ⟨rfl, rfl⟩ | ⟨rfl, rfl⟩ <;>
    simp only [TimeOfDay.startOf, boundary, TimeOfDay.mk.injEq, Bool.false_eq_true, if_false] <;>
    omega

theorem day_past_boundary (hnanos : u.stride = .elapsed nanos) (seconds : Nat) (l : Bool)
    (h : seconds = 0 ∨ (u = .minutes ∨ u = .hours) ∧ seconds < 60) :
    day ⟨r.boundary nanos + 1000000000 * seconds, l⟩ = r.day := by
  rcases TimeUnit.elapsed_cases hnanos with ⟨rfl, rfl⟩ | ⟨rfl, rfl⟩ | ⟨rfl, rfl⟩ | ⟨rfl, rfl⟩ <;>
    simp only [day, boundary, reduceCtorEq, false_or, or_false, false_and] at h ⊢ <;> omega

theorem not_lt_startOf (hnanos : u.stride = .elapsed nanos) : ¬ r < r.startOf u := by
  have hrest : 0 ≤ r.nanos % nanos := by
    rcases TimeUnit.elapsed_cases hnanos with ⟨-, rfl⟩ | ⟨-, rfl⟩ | ⟨-, rfl⟩ | ⟨-, rfl⟩ <;> omega
  simp only [startOf, hnanos]
  exact not_lt_after (by omega)

end Reading

namespace Instant

variable {i j k : Instant} {zone : Zone} {offset : Int} {u : TimeUnit}

theorem startOf_short_of_inserted (h : zone.Steady offset) (hi : i.zone = zone)
    (hl : i.utc.leap = true) (hu : u = .milliseconds ∨ u = .seconds) (hj : i.startOf u = .ok j) :
    j.face.day = i.face.day ∧ j.face.clock = i.face.clock.startOf u ∧ j.startOf u = .ok j := by
  obtain ⟨nanos, hnanos⟩ : ∃ nanos, u.stride = .elapsed nanos := by
    rcases hu with rfl | rfl <;> exact ⟨_, rfl⟩
  obtain ⟨hzone, hface⟩ := face_of_startOf h.unchanging hi hj
  have hleap : i.face.leap = true := hl
  rw [Reading.startOf_within_second hleap hu hnanos] at hface
  have hday := Reading.day_past_boundary (r := i.face) hnanos 0 true (.inl rfl)
  have hclock := Reading.clock_within_second (r := i.face) hu hnanos
  rw [hleap] at hclock
  refine ⟨?_, hface ▸ hclock, ?_⟩
  · simpa [hface] using hday
  · refine startOf_elapsed_again h hi hnanos hj ?_
    rintro ⟨-, hu'⟩
    rcases hu with rfl | rfl <;> simp at hu'

theorem startOf_long_of_inserted (h : zone.Steady offset) (hi : i.Regular zone)
    (hl : i.utc.leap = true) (hu : u = .minutes ∨ u = .hours) (hj : i.startOf u = .ok j)
    (hk : j.startOf u = .ok k) :
    (j.face.day = i.face.day ∧ j.face.clock = { i.face.clock.startOf u with second := 1 }) ∧
      k.face.day = i.face.day ∧ k.face.clock = i.face.clock.startOf u := by
  obtain ⟨nanos, hnanos⟩ : ∃ nanos, u.stride = .elapsed nanos := by
    rcases hu with rfl | rfl <;> exact ⟨_, rfl⟩
  obtain ⟨hzone, hface⟩ := face_of_startOf h.unchanging hi.zone_eq hj
  obtain ⟨-, hface'⟩ := face_of_startOf h.unchanging hzone hk
  rw [Reading.startOf_before_second (r := i.face) hl hi.closesMinute hu hnanos] at hface
  have hplain : j.face.leap = false := by rw [hface]
  have hboundary : k.face = ⟨i.face.boundary nanos, false⟩ := by
    rw [hface', Reading.startOf_elapsed hnanos hplain, hface]
    simp only [Reading.boundary, Reading.mk.injEq, and_true]
    rcases TimeUnit.long_cases hu hnanos with ⟨-, rfl⟩ | ⟨-, rfl⟩ <;> omega
  have hday (seconds : Nat) (hs : seconds < 60) :=
    Reading.day_past_boundary (r := i.face) hnanos seconds false (.inr ⟨hu, hs⟩)
  have hclock (seconds : Nat) (hs : seconds < 60) :=
    Reading.clock_past_boundary (r := i.face) hu hnanos hs
  refine ⟨⟨?_, ?_⟩, ?_, ?_⟩
  · simpa [hface] using hday 1 (by decide)
  · simpa [hface] using hclock 1 (by decide)
  · simpa [hboundary] using hday 0 (by decide)
  · have hzero : { i.face.clock.startOf u with second := 0 } = i.face.clock.startOf u := by
      rcases hu with rfl | rfl <;> rfl
    simpa [hboundary, hzero] using hclock 0 (by decide)

end Instant

variable {s : Setting} {host timestamp : String} {zone : Zone} {offset : Int} {i : Instant}
  {u : TimeUnit}

/-- Under a fixed offset, the start of a unit that is sought from within second 60 is always found,
on the same date and not after the instant. It is the beginning of the unit, and starts itself,
exactly for milliseconds and seconds. A minute and an hour start a second late, and their beginning
is only the start that is sought from there. -/
theorem startOf_in_second_sixty_iff [Zone.Names] [Zone.Names.Lawful] {system : Option String}
    (hh : s.host = .ofSetting host system) (hs : s.zone = .ok zone)
    (hz : zone.rules = .constant offset) (hr : s.read timestamp = .ok i) (hl : i.utc.leap = true)
    (hu : ¬ u.MovesDate) :
    i.face.second = 60 ∧ ∃ j, i.startOf u = .ok j ∧ j.zone = zone ∧ ¬ i.utc < j.utc ∧
      j.face.day = i.face.day ∧
      (j.face.clock = i.face.clock.startOf u ↔ u = .milliseconds ∨ u = .seconds) ∧
      (j.startOf u = .ok j ↔ u = .milliseconds ∨ u = .seconds) ∧
      (u = .minutes ∨ u = .hours → j.face.clock = { i.face.clock.startOf u with second := 1 } ∧
        ∃ k, j.startOf u = .ok k ∧ k.face.day = i.face.day ∧
          k.face.clock = i.face.clock.startOf u) := by
  have hknown := Setting.known hh hs
  have hsteady := hknown.steady hz
  rw [Setting.read_eq hs] at hr
  have hregular := hsteady.read_regular hr
  have hwithin := Zone.read_within hknown.bounded hr
  obtain ⟨j, hj, ij⟩ := hwithin.exists_startOf hknown.bounded (by decide) u
  obtain ⟨k, hk, -⟩ := ij.exists_startOf hknown.bounded (by decide) u
  obtain ⟨nanos, hnanos⟩ := TimeUnit.exists_elapsed hu
  refine ⟨Reading.second_eq_sixty hl hregular.closesMinute, j, hj, ij.zone_eq, ?_, ?_⟩
  · obtain ⟨-, hface⟩ := Instant.face_of_startOf hsteady.unchanging hregular.zone_eq hj
    rw [← Instant.face_lt_face_iff hsteady.unchanging hregular.zone_eq ij.zone_eq, hface]
    exact Reading.not_lt_startOf hnanos
  by_cases hshort : u = .milliseconds ∨ u = .seconds
  · obtain ⟨hday, hclock, hself⟩ :=
      Instant.startOf_short_of_inserted hsteady hregular.zone_eq hl hshort hj
    refine ⟨hday, iff_of_true hclock hshort, iff_of_true hself hshort, fun hlong => ?_⟩
    rcases hshort with rfl | rfl <;> simp at hlong
  · have hlong : u = .minutes ∨ u = .hours := by
      rcases TimeUnit.elapsed_cases hnanos with ⟨rfl, -⟩ | ⟨rfl, -⟩ | ⟨rfl, -⟩ | ⟨rfl, -⟩ <;>
        simp at hshort ⊢
    obtain ⟨⟨hday, hclock⟩, hday', hclock'⟩ :=
      Instant.startOf_long_of_inserted hsteady hregular hl hlong hj hk
    have hlate : j.face.clock ≠ i.face.clock.startOf u := by
      rw [hclock]
      rcases hlong with rfl | rfl <;> simp [TimeOfDay.startOf]
    refine ⟨hday, iff_of_false hlate hshort, iff_of_false (fun hself => ?_) hshort,
      fun _ => ⟨hclock, k, hk, hday', hclock'⟩⟩
    obtain rfl := Except.ok.inj (hself.symm.trans hk)
    exact hlate hclock'

/-- The hour on a clock that is half an hour on, in the middle of it. -/
theorem hour_starts_a_second_late :
    ∃ (zone : Zone) (i j k : Instant), Setting.zone ⟨.ofSetting "UTC", some "+05:30"⟩ = .ok zone ∧
      zone.rules = .constant 19800 ∧
      Setting.read ⟨.ofSetting "UTC", some "+05:30"⟩ "2016-12-31T23:59:60.9876Z" = .ok i ∧
      i.utc.leap = true ∧ i.face.clock = ⟨5, 29, 60, 987600000⟩ ∧ i.startOf .hours = .ok j ∧
      j.face.clock = ⟨5, 0, 1, 0⟩ ∧ j.startOf .hours = .ok k ∧ k.face.clock = ⟨5, 0, 0, 0⟩ := by
  have hzone : Setting.zone ⟨.ofSetting "UTC", some "+05:30"⟩ =
      .ok (.fixed ⟨19800, by decide, by decide⟩) := by decide +kernel
  have hread : Setting.read ⟨.ofSetting "UTC", some "+05:30"⟩ "2016-12-31T23:59:60.9876Z" =
      .ok ⟨⟨1483228799987600000, true⟩, .fixed ⟨19800, by decide, by decide⟩, by decide⟩ := by
    decide +kernel
  have hface : (Instant.mk ⟨1483228799987600000, true⟩ (.fixed ⟨19800, by decide, by decide⟩)
      (by decide)).face.clock = ⟨5, 29, 60, 987600000⟩ := by decide +kernel
  have hhost : Setting.host ⟨.ofSetting "UTC", some "+05:30"⟩ = .ofSetting "UTC" := rfl
  have hrules : (Zone.fixed ⟨19800, by decide, by decide⟩).rules = .constant 19800 := rfl
  obtain ⟨-, j, hj, -, -, -, -, -, hlong⟩ :=
    startOf_in_second_sixty_iff (u := .hours) hhost hzone hrules hread rfl (by decide)
  obtain ⟨hclock, k, hk, -, hclock'⟩ := hlong (.inr rfl)
  rw [hface] at hclock hclock'
  exact ⟨_, _, j, k, hzone, hrules, hread, rfl, hface, hj, hclock, hk, hclock'⟩

/-- A minute that does not start at its beginning, nor where it seemed to start. -/
theorem minute_starts_late :
    ∃ i j k : Instant, Setting.read ⟨.utc, some "+00:00"⟩ "2016-12-31T23:59:60.25Z" = .ok i ∧
      i.face.clock = ⟨23, 59, 60, 250000000⟩ ∧ i.startOf .minutes = .ok j ∧
      j.face.clock = ⟨23, 59, 1, 0⟩ ∧ j.startOf .minutes = .ok k ∧ k ≠ j := by
  let i : Instant := ⟨⟨1483228799250000000, true⟩, .fixed .utc, by decide⟩
  let j : Instant := ⟨⟨1483228741000000000, false⟩, .fixed .utc, by decide⟩
  let k : Instant := ⟨⟨1483228740000000000, false⟩, .fixed .utc, by decide⟩
  exact ⟨i, j, k, by decide +kernel, by decide +kernel, by decide +kernel, by decide +kernel,
    by decide +kernel, by decide⟩

end RelativeTime

import Mathlib.Tactic.Common
import RelativeTime.Instant

/-! From a reading of the wall clock to an instant: which instants can result, and when one must.

A clock is less than a day ahead of UTC or behind it, whatever its changes are. This alone gives
the bounds below; that changes lie apart is never used. -/
namespace RelativeTime

theorem Answer.bind_eq_ok {α β : Type} {x : Answer α} {f : α → Answer β} {b : β} :
    (x >>= f) = .ok b ↔ ∃ a, x = .ok a ∧ f a = .ok b := by
  cases x <;> simp [bind, Except.bind]

theorem Answer.bind_eq_error {α β : Type} {x : Answer α} {f : α → Answer β} {e : Failure} :
    (x >>= f) = .error e ↔ x = .error e ∨ ∃ a, x = .ok a ∧ f a = .error e := by
  cases x <;> simp [bind, Except.bind]

theorem Answer.bind_ok {α β : Type} (a : α) (f : α → Answer β) :
    ((.ok a : Answer α) >>= f) = f a := rfl

namespace Rules

def Bounded (z : Rules) : Prop :=
  ∀ offset ∈ z.initial :: z.changes.map Change.offset, -86400 < offset ∧ offset < 86400

instance (z : Rules) : Decidable z.Bounded :=
  inferInstanceAs (Decidable (∀ offset ∈ (_ : List Int), _))

theorem offset_of_mem_periodsFrom {changes : List Change} {start : Option Int} {offset : Int}
    {p : Period} (h : p ∈ periodsFrom start offset changes) :
    p.offset ∈ offset :: changes.map Change.offset := by
  induction changes generalizing start offset with
  | nil =>
    obtain rfl : p = ⟨start, none, offset⟩ := by simpa [periodsFrom] using h
    simp
  | cons c rest ih =>
    rcases List.mem_cons.mp h with rfl | h
    · simp
    · exact List.mem_cons_of_mem _ (ih h)

variable {z : Rules}

theorem Bounded.offsetAt (h : z.Bounded) (second : Int) :
    -86400 < z.offsetAt second ∧ z.offsetAt second < 86400 := by
  unfold Rules.offsetAt
  cases hp : z.periods.find? fun p => p.Covers second with
  | none => exact h _ (by simp)
  | some p => exact h _ (offset_of_mem_periodsFrom (List.mem_of_find?_eq_some hp))

theorem Bounded.of_change (h : z.Bounded) {c : Change} (hc : c ∈ z.changes) :
    -86400 < c.offset ∧ c.offset < 86400 :=
  h c.offset (List.mem_cons_of_mem _ (List.mem_map_of_mem hc))

theorem Bounded.offsetShowing? (h : z.Bounded) {wall offset : Int}
    (ho : z.offsetShowing? wall = some offset) : -86400 < offset ∧ offset < 86400 := by
  obtain ⟨p, hp, rfl⟩ := Option.map_eq_some_iff.mp ho
  exact h _ (offset_of_mem_periodsFrom (List.mem_of_find?_eq_some hp))

@[simp] theorem offsetAt_constant (offset second : Int) :
    (constant offset).offsetAt second = offset := by
  simp [Rules.offsetAt, constant, periods, periodsFrom, Period.Covers]

@[simp] theorem offsetShowing?_constant (offset wall : Int) :
    (constant offset).offsetShowing? wall = some offset := by
  simp [Rules.offsetShowing?, constant, periods, periodsFrom, Period.Shows, Period.Covers]

end Rules

namespace Reading

@[simp] theorem ahead_nanos (r : Reading) (s : Int) :
    (r.ahead s).nanos = r.nanos + 1000000000 * s := rfl

theorem seconds_ahead (r : Reading) (s : Int) : (r.ahead s).seconds = r.seconds + s := by
  simp only [seconds, ahead_nanos]
  omega

theorem ahead_ahead (r : Reading) (s s' : Int) : (r.ahead s).ahead s' = r.ahead (s + s') := by
  simp only [ahead, mk.injEq, and_true]
  omega

theorem onDay_nanos (r : Reading) (date : Int) :
    (r.onDay date).nanos = r.nanos + 86400000000000 * (date - r.day) := by
  simp only [onDay, timeOfDay, day]
  omega

theorem onDay_day (r : Reading) (date : Int) : (r.onDay date).day = date := by
  rw [Reading.day, onDay_nanos]
  unfold Reading.day
  omega

theorem onDay_self (r : Reading) : r.onDay r.day = r := by
  obtain ⟨n, leap⟩ := r
  simp only [onDay, timeOfDay, day, mk.injEq, and_true]
  omega

theorem midnight_day (date : Int) : (midnight date).day = date := by
  simp only [midnight, day]
  omega

theorem day_ahead_bounds (r : Reading) {s : Int} (h : -86400 < s ∧ s < 86400) :
    r.day - 1 ≤ (r.ahead s).day ∧ (r.ahead s).day ≤ r.day + 1 := by
  simp only [day, ahead_nanos]
  omega

theorem inRange_ahead_of_inner {r : Reading} (hd : firstDay < r.day ∧ r.day < lastDay) {s : Int}
    (h : -86400 < s ∧ s < 86400) : (r.ahead s).InRange := by
  have := r.day_ahead_bounds h
  exact ⟨by omega, by omega⟩

theorem after_of_not_leap {r : Reading} (h : r.leap = false) (nanos : Int) :
    r.after nanos = ⟨r.nanos + nanos, false⟩ := by
  simp [after, h]

theorem after_zero (r : Reading) : r.after 0 = r := by
  obtain ⟨n, leap⟩ := r
  have hsub := Int.emod_nonneg n (show (1000000000 : Int) ≠ 0 by decide)
  have hsub' := Int.emod_lt_of_pos n (show (0 : Int) < 1000000000 by decide)
  unfold after
  cases leap with
  | false => simp
  | true =>
    simp only [if_true, Int.add_zero]
    rw [if_neg (by omega)]
    simp [hsub']

theorem after_nanos_bounds (r : Reading) (nanos : Int) :
    r.nanos + nanos ≤ (r.after nanos).nanos ∧
      (r.after nanos).nanos ≤ r.nanos + nanos + 1000000000 := by
  unfold after
  split
  · simp only
    split <;> simp only <;> omega
  · simp only
    omega

theorem lt_iff_of_not_leap {a b : Reading} (ha : a.leap = false) (hb : b.leap = false) :
    a < b ↔ a.nanos < b.nanos := by
  change (a.seconds < b.seconds ∨ a.seconds = b.seconds ∧ a.subsecond < b.subsecond) ↔ _
  simp only [seconds, subsecond, inserted, ha, hb, Bool.false_eq_true, if_false]
  omega

theorem lt_asymm {a b : Reading} (h : a < b) : ¬ b < a := by
  change a.seconds < b.seconds ∨ a.seconds = b.seconds ∧ a.subsecond < b.subsecond at h
  change ¬ (b.seconds < a.seconds ∨ b.seconds = a.seconds ∧ b.subsecond < a.subsecond)
  omega

theorem nanos_of_not_lt {a b : Reading} (h : ¬ a < b) : b.nanos < a.nanos + 1000000000 := by
  change ¬ (a.seconds < b.seconds ∨ a.seconds = b.seconds ∧ a.subsecond < b.subsecond) at h
  simp only [seconds] at h
  omega

theorem elapsed_bounds (a b : Reading) : a.nanos - b.nanos - 1000000000 ≤ a.elapsed b ∧
    a.elapsed b ≤ a.nanos - b.nanos + 1000000000 := by
  have hinserted (r : Reading) : 0 ≤ r.inserted ∧ r.inserted ≤ 1000000000 := by
    unfold inserted
    split <;> omega
  have ha := hinserted a
  have hb := hinserted b
  unfold elapsed
  split <;> split <;> omega

theorem elapsed_of_not_leap {a b : Reading} (ha : a.leap = false) (hb : b.leap = false) :
    a.elapsed b = a.nanos - b.nanos := by
  simp [elapsed, inserted, ha, hb]

end Reading

theorem Instant.ofUtc?_of_inRange (zone : Zone) {utc : Reading} (h : utc.InRange) :
    Instant.ofUtc? zone utc = some ⟨utc, zone, h⟩ := by
  simp [Instant.ofUtc?, h]

theorem Instant.ofUtc?_eq_some {zone : Zone} {utc : Reading} {i : Instant}
    (h : Instant.ofUtc? zone utc = some i) : i.zone = zone ∧ i.utc = utc := by
  unfold Instant.ofUtc? at h
  split at h
  · obtain rfl := Option.some.inj h
    exact ⟨rfl, rfl⟩
  · cases h

theorem Instant.ofUtc?_eq_some_iff {zone : Zone} {i : Instant} {utc : Reading} :
    Instant.ofUtc? zone utc = some i ↔ i.zone = zone ∧ i.utc = utc := by
  constructor
  · intro h
    exact Instant.ofUtc?_eq_some h
  · rintro ⟨rfl, rfl⟩
    exact Instant.ofUtc?_of_inRange i.zone i.inRange

theorem Instant.ofUtc?_eq_none_iff {zone : Zone} {utc : Reading} :
    Instant.ofUtc? zone utc = none ↔ ¬ utc.InRange := by
  unfold Instant.ofUtc?
  split <;> simp [*]

theorem Instant.after?_zero (i : Instant) : i.after? 0 = some i := by
  rw [after?, Reading.after_zero]
  exact ofUtc?_of_inRange i.zone i.inRange

namespace Zone

variable {zone : Zone} {wall : Reading} {i : Instant}

theorem earliestShowing?_eq {offset : Int}
    (h : zone.rules.offsetShowing? wall.seconds = some offset) :
    zone.earliestShowing? wall = Instant.ofUtc? zone (wall.ahead (-offset)) := by
  simp only [earliestShowing?, h]
  rfl

theorem acrossGap?_eq (zone : Zone) (wall : Reading) : zone.acrossGap? wall =
    if (wall.after (-86400000000000)).InRange then
      Instant.ofUtc? zone
        (wall.after (-1000000000 * zone.rules.offsetAt (wall.after (-86400000000000)).seconds))
    else none := by
  change (guard (wall.after (-86400000000000)).InRange : Option Unit).bind _ = _
  by_cases h : (wall.after (-86400000000000)).InRange
  · have hguard : (guard (wall.after (-86400000000000)).InRange : Option Unit) = some () := if_pos h
    rw [if_pos h, hguard]
    rfl
  · have hguard : (guard (wall.after (-86400000000000)).InRange : Option Unit) = none := if_neg h
    rw [if_neg h, hguard]
    rfl

/-- The way across a gap is taken only if the reading is not shown. -/
theorem resolve_eq_ok_iff : zone.resolve wall = .ok i ↔ zone.earliestShowing? wall = some i ∨
    zone.earliestShowing? wall = none ∧ zone.acrossGap? wall = some i := by
  rw [← Option.or_eq_some_iff]
  unfold resolve
  cases (zone.earliestShowing? wall).or (zone.acrossGap? wall) <;> simp

theorem resolve_of_offsetShowing? {offset : Int}
    (h : zone.rules.offsetShowing? wall.seconds = some offset)
    (hr : (wall.ahead (-offset)).InRange) :
    zone.resolve wall = .ok ⟨wall.ahead (-offset), zone, hr⟩ := by
  refine resolve_eq_ok_iff.mpr (.inl ?_)
  rw [earliestShowing?_eq h, Instant.ofUtc?_of_inRange _ hr]

theorem zone_of_resolve (h : zone.resolve wall = .ok i) : i.zone = zone := by
  rcases resolve_eq_ok_iff.mp h with h | ⟨-, h⟩
  · obtain ⟨_, -, hi⟩ := Option.bind_eq_some_iff.mp h
    exact (Instant.ofUtc?_eq_some hi).1
  · obtain ⟨_, -, hi⟩ := Option.bind_eq_some_iff.mp h
    exact (Instant.ofUtc?_eq_some hi).1

theorem plain_of_resolve (h : zone.resolve wall = .ok i) (hl : wall.leap = false) :
    i.utc.leap = false := by
  rcases resolve_eq_ok_iff.mp h with h | ⟨-, h⟩
  · obtain ⟨_, -, hi⟩ := Option.bind_eq_some_iff.mp h
    rw [(Instant.ofUtc?_eq_some hi).2]
    exact hl
  · obtain ⟨_, -, hi⟩ := Option.bind_eq_some_iff.mp h
    rw [(Instant.ofUtc?_eq_some hi).2, Reading.after_of_not_leap hl]

/-- A reading is resolved with some offset that a clock can have: the clock is set back by it, or
across a gap that time elapses backward. -/
theorem resolve_cases (hb : zone.rules.Bounded) (h : zone.resolve wall = .ok i) : i.zone = zone ∧
    ∃ offset : Int, (-86400 < offset ∧ offset < 86400) ∧
      (i.utc = wall.ahead (-offset) ∨ i.utc = wall.after (-1000000000 * offset)) := by
  rcases resolve_eq_ok_iff.mp h with h | ⟨-, h⟩
  · obtain ⟨offset, ho, hi⟩ := Option.bind_eq_some_iff.mp h
    obtain ⟨hz, hu⟩ := Instant.ofUtc?_eq_some hi
    exact ⟨hz, offset, hb.offsetShowing? ho, .inl hu⟩
  · obtain ⟨-, -, hi⟩ := Option.bind_eq_some_iff.mp h
    obtain ⟨hz, hu⟩ := Instant.ofUtc?_eq_some hi
    exact ⟨hz, _, hb.offsetAt (wall.after (-86400000000000)).seconds, .inr hu⟩

theorem resolve_eq_ok (hb : zone.rules.Bounded) (hl : wall.leap = false)
    (h : zone.resolve wall = .ok i) : i.zone = zone ∧
      ∃ offset : Int, (-86400 < offset ∧ offset < 86400) ∧ i.utc = wall.ahead (-offset) := by
  obtain ⟨hz, offset, ho, hu | hu⟩ := resolve_cases hb h
  · exact ⟨hz, offset, ho, hu⟩
  · refine ⟨hz, offset, ho, ?_⟩
    rw [hu, Reading.after_of_not_leap hl, Reading.ahead, hl]
    simp only [Reading.mk.injEq, and_true]
    omega

theorem nanos_of_resolve (hb : zone.rules.Bounded) (h : zone.resolve wall = .ok i) :
    wall.nanos - 86400000000000 ≤ i.utc.nanos ∧ i.utc.nanos ≤ wall.nanos + 86400000000000 := by
  obtain ⟨-, offset, ho, hu | hu⟩ := resolve_cases hb h
  · rw [hu, Reading.ahead_nanos]
    omega
  · have hafter := wall.after_nanos_bounds (-1000000000 * offset)
    rw [← hu] at hafter
    omega

theorem resolve_of_inner (hb : zone.rules.Bounded) (hd : firstDay < wall.day ∧ wall.day < lastDay) :
    ∃ i, zone.resolve wall = .ok i := by
  suffices hs : ((zone.earliestShowing? wall).or (zone.acrossGap? wall)).isSome = true by
    obtain ⟨i, hi⟩ := Option.isSome_iff_exists.mp hs
    exact ⟨i, by simp [resolve, hi]⟩
  rw [Option.isSome_or, Bool.or_eq_true]
  cases ho : zone.rules.offsetShowing? wall.seconds with
  | some offset =>
    left
    have hoffset := hb.offsetShowing? ho
    have hrange := Reading.inRange_ahead_of_inner hd (s := -offset) ⟨by omega, by omega⟩
    rw [earliestShowing?_eq ho, Instant.ofUtc?_of_inRange _ hrange]
    rfl
  | none =>
    right
    -- Time that elapses across an inserted second leads up to a second further than the count.
    have hprobe : (wall.after (-86400000000000)).InRange := by
      have hbefore := wall.after_nanos_bounds (-86400000000000)
      simp only [Reading.InRange, DayInRange, Reading.day] at hd ⊢
      omega
    have hoffset := hb.offsetAt (wall.after (-86400000000000)).seconds
    have hgap := wall.after_nanos_bounds
      (-1000000000 * zone.rules.offsetAt (wall.after (-86400000000000)).seconds)
    rw [acrossGap?_eq, if_pos hprobe, Instant.ofUtc?_of_inRange]
    · rfl
    · simp only [Reading.InRange, DayInRange, Reading.day] at hd ⊢
      omega

end Zone

end RelativeTime

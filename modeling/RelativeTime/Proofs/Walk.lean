import RelativeTime.Difference
import RelativeTime.Proofs.Calendar.Moves

/-! The walk from an anchor toward a target, in any zone whose clock is less than a day from UTC.

Far from the ends of the calendar no leg of the walk can fail, and none passes the target. What a
leg reaches is told by wall dates up to two days: a day for the offset before, one for that
after. -/
namespace RelativeTime

open Calendar

namespace Sign

@[simp] theorem apply_zero (s : Sign) : s.apply 0 = 0 := by cases s <;> rfl

theorem apply_eq_zero_iff {s : Sign} {n : Nat} : s.apply n = 0 ↔ n = 0 := by
  cases s <;> simp [apply]

theorem apply_natAbs (n : Int) : (ofInt n).apply n.natAbs = n := by
  unfold ofInt
  split <;> simp only [apply] <;> omega

@[simp] theorem natAbs_apply (s : Sign) (n : Nat) : (s.apply n).natAbs = n := by
  cases s <;> simp [apply]

end Sign

namespace Instant

/-- Seen in the zone, outside inserted seconds, and with a wall date that many days at most from
the first day counted. -/
structure Inner (i : Instant) (zone : Zone) (days : Int) : Prop where
  zone_eq : i.zone = zone
  plain : i.utc.leap = false
  near : -days ≤ i.face.day ∧ i.face.day ≤ days

variable {i j goal : Instant} {zone : Zone} {b : Int} {u : TimeUnit}

theorem Inner.mono (h : i.Inner zone b) {c : Int} (hc : b ≤ c) : i.Inner zone c :=
  ⟨h.zone_eq, h.plain, by have := h.near; omega, by have := h.near; omega⟩

theorem offset_bounds (hb : zone.rules.Bounded) (hz : i.zone = zone) :
    -86400 < i.offset ∧ i.offset < 86400 := by
  subst hz
  exact hb.offsetAt _

theorem face_nanos (i : Instant) : i.face.nanos = i.utc.nanos + 1000000000 * i.offset := rfl

theorem face_day_bounds (hb : zone.rules.Bounded) (hz : i.zone = zone) :
    i.utc.day - 1 ≤ i.face.day ∧ i.face.day ≤ i.utc.day + 1 :=
  i.utc.day_ahead_bounds (offset_bounds hb hz)

theorem Inner.utc_bounds (hb : zone.rules.Bounded) (h : i.Inner zone b) :
    -86400000000000 * (b + 1) ≤ i.utc.nanos ∧ i.utc.nanos < 86400000000000 * (b + 2) := by
  have hnear := h.near
  have hday := face_day_bounds hb h.zone_eq
  have : i.utc.day = i.utc.nanos / 86400000000000 := rfl
  omega

theorem Inner.face_inRange (h : i.Inner zone b) (hb : b ≤ 90000000) : i.face.InRange := by
  have := h.near
  exact ⟨by rw [firstDay_eq]; omega, by rw [lastDay_eq]; omega⟩

structure Within (i : Instant) (zone : Zone) (days : Int) : Prop where
  zone_eq : i.zone = zone
  near : -86400000000000 * days ≤ i.utc.nanos ∧ i.utc.nanos ≤ 86400000000000 * days

theorem Within.mono (h : i.Within zone b) {c : Int} (hc : b ≤ c) : i.Within zone c :=
  ⟨h.zone_eq, by have := h.near; omega, by have := h.near; omega⟩

theorem Within.face_near (hb : zone.rules.Bounded) (h : i.Within zone b) :
    -(b + 1) ≤ i.face.day ∧ i.face.day ≤ b + 1 := by
  have hnear := h.near
  have hday := face_day_bounds hb h.zone_eq
  have : i.utc.day = i.utc.nanos / 86400000000000 := rfl
  omega

theorem Within.face_inRange (hb : zone.rules.Bounded) (h : i.Within zone b)
    (hbound : b ≤ 90000000) : i.face.InRange := by
  have := h.face_near hb
  exact ⟨by rw [firstDay_eq]; omega, by rw [lastDay_eq]; omega⟩

theorem Within.inner (hb : zone.rules.Bounded) (h : i.Within zone b) (hl : i.utc.leap = false) :
    i.Inner zone (b + 1) :=
  ⟨h.zone_eq, hl, h.face_near hb⟩

theorem Inner.within (hb : zone.rules.Bounded) (h : i.Inner zone b) : i.Within zone (b + 2) :=
  ⟨h.zone_eq, by have := h.utc_bounds hb; omega, by have := h.utc_bounds hb; omega⟩

structure Near (i j : Instant) (zone : Zone) (day : Int) : Prop where
  zone_eq : j.zone = zone
  plain : j.utc.leap = false
  date : day - 2 ≤ j.face.day ∧ j.face.day ≤ day + 2
  subsecond : (j.utc.nanos - i.utc.nanos) % 1000000000 = 0

theorem resolve_near (hb : zone.rules.Bounded) {wall : Reading} (hl : wall.leap = false)
    (h : zone.resolve wall = .ok j) : j.zone = zone ∧ j.utc.leap = false ∧
      (wall.day - 2 ≤ j.face.day ∧ j.face.day ≤ wall.day + 2) ∧
      (j.utc.nanos - wall.nanos) % 1000000000 = 0 := by
  obtain ⟨hzone, offset, ho, hutc⟩ := Zone.resolve_eq_ok hb hl h
  have ho' := offset_bounds hb hzone
  have hnanos : j.utc.nanos = wall.nanos + 1000000000 * -offset := by rw [hutc, Reading.ahead_nanos]
  have hface := face_nanos j
  refine ⟨hzone, hutc ▸ hl, ?_, by omega⟩
  simp only [Reading.day]
  omega

theorem Inner.plus_near (hb : zone.rules.Bounded) (hu : u.MovesDate) (h : i.Inner zone b) {n : Int}
    (hj : i.plus u n = .ok j) : Near i j zone (u.stride.move i.face.day n) := by
  obtain ⟨-, hresolve⟩ := resolve_of_plus hu hj
  rw [h.zone_eq] at hresolve
  obtain ⟨hzone, hplain, hdate, hnanos⟩ := resolve_near hb (by exact h.plain) hresolve
  rw [Reading.onDay_day] at hdate
  rw [Reading.onDay_nanos, face_nanos] at hnanos
  exact ⟨hzone, hplain, hdate, by omega⟩

theorem Inner.plus_succeeds (hb : zone.rules.Bounded) (hu : u.MovesDate) (h : i.Inner zone b)
    (hbound : b ≤ 90000000) {n : Int}
    (hn : -90000000 ≤ u.stride.move i.face.day n ∧ u.stride.move i.face.day n ≤ 90000000) :
    ∃ j, i.plus u n = .ok j := by
  rw [plus_of_inner hu (h.face_inRange hbound) (by rw [firstDay_eq, lastDay_eq]; omega), h.zone_eq]
  exact Zone.resolve_of_inner hb (by rw [Reading.onDay_day, firstDay_eq, lastDay_eq]; omega)

theorem passes_iff (hi : i.utc.leap = false) (hg : goal.utc.leap = false) (heading : Sign) :
    i.Passes heading goal.utc ↔ 0 < heading.apply 1 * (i.utc.nanos - goal.utc.nanos) := by
  cases heading
  · rw [Passes, Reading.lt_iff_of_not_leap hg hi]
    simp only [Sign.apply]
    omega
  · rw [Passes, Reading.lt_iff_of_not_leap hi hg]
    simp only [Sign.apply]
    omega

/-- In inserted seconds, too, the count tells what passes, up to a second. -/
theorem nanos_of_not_passes {heading : Sign} {target : Reading} (h : ¬ i.Passes heading target) :
    heading.apply 1 * (i.utc.nanos - target.nanos) < 1000000000 := by
  cases heading <;>
  · have hlt := Reading.nanos_of_not_lt h
    simp only [Sign.apply]
    omega

/-- A leg of the walk: how far it goes, and that every longer one allowed would pass the target or
fail. -/
structure Leg (i : Instant) (unit : TimeUnit) (heading : Sign) (target : Reading)
    (most count : Nat) (reached : Instant) : Prop where
  count_le : count ≤ most
  stays : count = 0 → reached = i
  moves : count ≠ 0 → i.plus unit (heading.apply count) = .ok reached
  short : count ≠ 0 → ¬ reached.Passes heading target
  greedy : ∀ n, count < n → n ≤ most → ∀ j, i.plus unit (heading.apply n) = .ok j →
    j.Passes heading target

/-- Induction on the counts left to try, which are tried from the largest down. -/
theorem walkUpTo_leg (hi : i.face.InRange) (heading : Sign) (target : Reading) (most : Nat) :
    ∃ count reached, i.walkUpTo u heading target most = .ok (count, reached) ∧
      i.Leg u heading target most count reached := by
  induction most with
  | zero =>
    exact ⟨0, i, rfl, Nat.le_refl 0, fun _ => rfl, fun h => absurd rfl h, fun h => absurd rfl h,
      fun n hn hn' => by omega⟩
  | succ most ih =>
    obtain ⟨count, reached, hwalk, hleg⟩ := ih
    have extend (hlast : ∀ j, i.plus u (heading.apply (most + 1)) = .ok j →
        j.Passes heading target) : i.Leg u heading target (most + 1) count reached := by
      refine { hleg with count_le := Nat.le_succ_of_le hleg.count_le, greedy := ?_ }
      intro n hn hn' j hj
      rcases Nat.lt_or_eq_of_le hn' with hlt | rfl
      · exact hleg.greedy n hn (by omega) j hj
      · exact hlast j hj
    rw [walkUpTo]
    split
    · rename_i next hnext
      split
      · rename_i hpass
        refine ⟨count, reached, hwalk, extend fun j hj => ?_⟩
        rw [hnext] at hj
        exact Except.ok.inj hj ▸ hpass
      · rename_i hpass
        exact ⟨most + 1, next, rfl, Nat.le_refl _, fun h => by omega, fun _ => hnext,
          fun _ => hpass, fun n hn hn' => by omega⟩
    · rename_i e he
      exact ⟨count, reached, hwalk, extend fun j hj => by rw [he] at hj; cases hj⟩
    · rename_i he
      exact absurd he (plus_ne_unshowable hi)

def most (i : Instant) (u : TimeUnit) (heading : Sign) (goal : Instant) : Nat :=
  (heading.apply 1 * unitsBetween u.stride i.face.day goal.face.day).toNat

theorem most_days {c : Nat} (hu : u.stride = .days c) (heading : Sign) :
    i.most u heading goal = (heading.apply 1 * (goal.face.day - i.face.day)).toNat / c := by
  have htdiv (n : Int) : (n.tdiv c).toNat = n.toNat / c := by
    rcases Int.le_total 0 n with h | h
    · obtain ⟨k, rfl⟩ := Int.eq_ofNat_of_zero_le h
      rfl
    · obtain ⟨k, hk⟩ := Int.eq_ofNat_of_zero_le (Int.neg_nonneg.mpr h)
      have hneg : n.tdiv c = -((k / c : Nat) : Int) := by
        rw [← Int.neg_neg n, hk, Int.neg_tdiv]
        rfl
      rw [hneg, Int.toNat_neg_natCast, Int.toNat_of_nonpos h, Nat.zero_div]
  rw [← htdiv]
  cases heading <;> simp only [most, hu, unitsBetween, Sign.apply] <;> congr 1
  · rw [Int.natCast_one, Int.one_mul, Int.one_mul]
  · rw [Int.natCast_one, Int.neg_one_mul, Int.neg_one_mul, Int.neg_tdiv]

theorem walk_leg (hi : i.face.InRange) (hg : goal.face.InRange) (heading : Sign) :
    ∃ count reached, i.walk u heading goal = .ok (heading.apply count, reached) ∧
      i.Leg u heading goal.utc (i.most u heading goal) count reached := by
  obtain ⟨count, reached, hwalk, hleg⟩ :=
    walkUpTo_leg hi heading goal.utc (i.most u heading goal) (u := u)
  refine ⟨count, reached, ?_, hleg⟩
  rw [most] at hwalk
  simp only [walk, wall_of_inRange hi, wall_of_inRange hg, Answer.bind_ok, hwalk]
  rfl

theorem Leg.not_passes {heading : Sign} {target : Reading} {most count : Nat}
    (h : i.Leg u heading target most count j) (hi : ¬ i.Passes heading target) :
    ¬ j.Passes heading target := by
  by_cases hc : count = 0
  · rwa [h.stays hc]
  · exact h.short hc

theorem Leg.near (hb : zone.rules.Bounded) (hu : u.MovesDate) (hi : i.Inner zone b)
    {heading : Sign} {target : Reading} {most count : Nat}
    (h : i.Leg u heading target most count j) :
    Near i j zone (u.stride.move i.face.day (heading.apply count)) := by
  by_cases hc : count = 0
  · rw [h.stays hc, hc, Sign.apply_zero, TimeUnit.move_zero hu]
    exact ⟨hi.zone_eq, hi.plain, ⟨by omega, by omega⟩, by simp⟩
  · exact hi.plus_near hb hu (h.moves hc)

theorem Leg.inner (hb : zone.rules.Bounded) (hu : u.MovesDate) (hi : i.Inner zone b)
    (hg : goal.Inner zone b) {heading : Sign} (hp : ¬ i.Passes heading goal.utc)
    {most count : Nat} (h : i.Leg u heading goal.utc most count j) : j.Inner zone (b + 2) := by
  have hnear := h.near hb hu hi
  have hpass := h.not_passes hp
  rw [passes_iff hnear.plain hg.plain] at hpass
  have hj := face_day_bounds hb hnear.zone_eq
  have hgoal := face_day_bounds hb hg.zone_eq
  have hdate := hnear.date
  have hi' := hi.near
  have hg' := hg.near
  have hmove : 0 ≤ heading.apply 1 *
      (u.stride.move i.face.day (heading.apply count) - i.face.day) := by
    rcases Nat.eq_zero_or_pos count with rfl | hc
    · simp [TimeUnit.move_zero hu]
    · cases heading
      · have hpos : (0 : Int) < count := by omega
        have := TimeUnit.move_lt hu i.face.day hpos
        rw [TimeUnit.move_zero hu] at this
        simp only [Sign.apply]
        omega
      · have hneg : (-count : Int) < 0 := by omega
        have := TimeUnit.move_lt hu i.face.day hneg
        rw [TimeUnit.move_zero hu] at this
        simp only [Sign.apply]
        omega
  have hjday : j.utc.day = j.utc.nanos / 86400000000000 := rfl
  have hgday : goal.utc.day = goal.utc.nanos / 86400000000000 := rfl
  refine ⟨hnear.zone_eq, hnear.plain, ?_⟩
  cases heading <;> simp only [Sign.apply] at hpass hmove hdate <;> constructor <;> omega

end Instant

end RelativeTime

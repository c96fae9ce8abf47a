import RelativeTime.Proofs.Passage
import RelativeTime.Proofs.Zone.Constant

/-! The walk where the clock is never changed. A move of the date then keeps the time of day, and
the wall clock alone decides what passes the target. -/
namespace RelativeTime

open Calendar

theorem Reading.InRange.between {r s t : Reading} (hr : r.InRange) (hs : s.InRange)
    (hlow : min r.nanos s.nanos ≤ t.nanos) (hhigh : t.nanos ≤ max r.nanos s.nanos) :
    t.InRange := by
  simp only [Reading.InRange, DayInRange, Reading.day] at hr hs ⊢
  omega

namespace Instant

variable {i j goal anchor target : Instant} {zone : Zone} {b offset : Int} {u : TimeUnit}

theorem face_of_shift_constant (hz : zone.rules = .constant offset)
    (ho : -86400 < offset ∧ offset < 86400) (hi : i.Inner zone b) (hu : u.MovesDate) {n : Int}
    (h : i.shift u n = .ok j) :
    j.face.day = u.stride.move i.face.day n ∧ j.face.nanos =
      i.face.nanos + 86400000000000 * (u.stride.move i.face.day n - i.face.day) := by
  unfold shift at h
  split at h
  · rename_i hzero
    obtain rfl := Except.ok.inj h
    rw [hzero, TimeUnit.move_zero hu]
    exact ⟨rfl, by omega⟩
  · rw [(face_of_plus_constant hz ho hi.zone_eq hu h).2, Reading.onDay_day, Reading.onDay_nanos]
    exact ⟨rfl, rfl⟩

theorem passes_constant (hz : zone.rules = .constant offset) (hi : i.zone = zone)
    (hl : i.utc.leap = false) (hg : goal.zone = zone) (hl' : goal.utc.leap = false)
    (heading : Sign) :
    i.Passes heading goal.utc ↔ 0 < heading.apply 1 * (i.face.nanos - goal.face.nanos) := by
  have h₁ := face_nanos i
  have h₂ := face_nanos goal
  rw [offset_constant hz hi] at h₁
  rw [offset_constant hz hg] at h₂
  rw [passes_iff hl hl', h₁, h₂, Int.add_sub_add_right]

theorem move_of_le_most (hi : i.Inner zone b) (hg : goal.Inner zone b) (hu : u.MovesDate)
    {heading : Sign} {n : Nat} (hn : n ≤ i.most u heading goal) :
    -(b + 500) ≤ u.stride.move i.face.day (heading.apply n) ∧
      u.stride.move i.face.day (heading.apply n) ≤ b + 500 := by
  have hi' := hi.near
  have hg' := hg.near
  have him := day_near_month i.face.day
  have hgm := day_near_month goal.face.day
  rcases hu with rfl | rfl | rfl | rfl
  · rw [most_days (c := 1) rfl] at hn
    cases heading <;> simp only [TimeUnit.stride, Sign.apply, Stride.move] at hn ⊢ <;> omega
  · rw [most_days (c := 7) rfl] at hn
    cases heading <;> simp only [TimeUnit.stride, Sign.apply, Stride.move] at hn ⊢ <;> omega
  · have hmove := monthsOn_near i.face.day (heading.apply n * 1)
    cases heading <;> simp only [most, TimeUnit.stride, unitsBetween, Sign.apply, Stride.move]
      at hn hmove ⊢ <;> omega
  · have hmove := monthsOn_near i.face.day (heading.apply n * 12)
    cases heading <;> simp only [most, TimeUnit.stride, unitsBetween, Sign.apply, Stride.move]
      at hn hmove ⊢ <;> omega

variable {heading : Sign} {count : TimeUnit → Nat}
  {afterYears afterMonths afterWeeks stop : Instant}

theorem date_beyond_of_month {day goal n : Int}
    (h : 0 < heading.apply 1 * (Calendar.monthOf day + n - Calendar.monthOf goal)) :
    0 < heading.apply 1 * (monthsOn day n - goal) := by
  rw [← monthOf_monthsOn day n] at h
  cases heading with
  | plus =>
    simp only [Sign.apply] at h ⊢
    have hlt := lt_of_monthOf_lt (a := goal) (b := monthsOn day n) (by omega)
    omega
  | minus =>
    simp only [Sign.apply] at h ⊢
    have hlt := lt_of_monthOf_lt (a := monthsOn day n) (b := goal) (by omega)
    omega

theorem date_beyond_of_most_lt (hu : u.MovesDate) {m : Nat} (h : i.most u heading goal < m) :
    0 < heading.apply 1 * (u.stride.move i.face.day (heading.apply m) - goal.face.day) := by
  rcases hu with rfl | rfl | rfl | rfl
  · rw [most_days (c := 1) rfl] at h
    cases heading <;> simp only [TimeUnit.stride, Stride.move, Sign.apply] at h ⊢ <;> omega
  · rw [most_days (c := 7) rfl] at h
    cases heading <;> simp only [TimeUnit.stride, Stride.move, Sign.apply] at h ⊢ <;> omega
  all_goals
    simp only [most, TimeUnit.stride, unitsBetween] at h
    apply date_beyond_of_month
    cases heading <;> simp only [Sign.apply] at h ⊢ <;> omega

/-- Seen in the zone, outside inserted seconds, with a date on the wall before the last month of the
calendar. -/
structure Early (i : Instant) (zone : Zone) : Prop where
  zone_eq : i.zone = zone
  plain : i.utc.leap = false
  dated : firstDay ≤ i.face.day
  early : i.face.day < monthStart (12 * 262142 + 11)

theorem Early.face_inRange (h : i.Early zone) : i.face.InRange := by
  have hlast : monthStart (12 * 262142 + 11) ≤ lastDay := by decide
  have hearly := h.early
  exact ⟨h.dated, by omega⟩

theorem Early.inner (h : i.Early zone) : i.Inner zone 97000000 := by
  have hrange := h.face_inRange
  rw [Reading.InRange, DayInRange, firstDay_eq, lastDay_eq] at hrange
  exact ⟨h.zone_eq, h.plain, by omega, by omega⟩

theorem Inner.early (h : i.Inner zone b) (hb : b ≤ 90000000) : i.Early zone := by
  have hlast : monthStart (12 * 262142 + 11) = lastDay - 30 := by decide
  have hnear := h.near
  refine ⟨h.zone_eq, h.plain, ?_, ?_⟩
  · rw [firstDay_eq]
    omega
  · rw [hlast, lastDay_eq]
    omega

theorem move_toward (hu : u.MovesDate) (heading : Sign) (day : Int) (c : Nat) :
    0 ≤ heading.apply 1 * (u.stride.move day (heading.apply c) - day) := by
  have hzero := TimeUnit.move_zero hu day
  rcases Nat.eq_zero_or_pos c with rfl | hc
  · rw [Sign.apply_zero, hzero]
    omega
  · cases heading with
    | plus =>
      have hlt := TimeUnit.move_lt hu day (show (0 : Int) < Sign.plus.apply c by
        simp only [Sign.apply]; omega)
      simp only [Sign.apply] at hlt ⊢
      omega
    | minus =>
      have hlt := TimeUnit.move_lt hu day (show Sign.minus.apply c < (0 : Int) by
        simp only [Sign.apply]; omega)
      simp only [Sign.apply] at hlt ⊢
      omega

theorem inRange_between (hz : zone.rules = .constant offset) (hi : i.zone = zone)
    (hg : goal.zone = zone) {wall : Reading} (h : min i.face.nanos goal.face.nanos ≤ wall.nanos ∧
      wall.nanos ≤ max i.face.nanos goal.face.nanos) : (wall.ahead (-offset)).InRange := by
  have hface := face_nanos i
  have hface' := face_nanos goal
  rw [offset_constant hz hi] at hface
  rw [offset_constant hz hg] at hface'
  refine i.inRange.between goal.inRange ?_ ?_ <;>
  · rw [Reading.ahead_nanos]
    omega

/-- A move succeeds if it leads to a wall clock between those of two instants, by months not into
the last month of the calendar. -/
theorem exists_plus_between (hz : zone.rules = .constant offset)
    (ho : -86400 < offset ∧ offset < 86400) (hi : i.zone = zone) (hd : i.face.InRange)
    (hg : goal.zone = zone) (hd' : goal.face.InRange) (hu : u.MovesDate) {n : Int}
    (hlast : ¬ (u.MovesMonth ∧ Calendar.monthOf (u.stride.move i.face.day n) = 12 * 262142 + 11))
    (hbetween : min i.face.nanos goal.face.nanos ≤
        (i.face.onDay (u.stride.move i.face.day n)).nanos ∧
      (i.face.onDay (u.stride.move i.face.day n)).nanos ≤ max i.face.nanos goal.face.nanos) :
    ∃ j, i.plus u n = .ok j := by
  have hrange := inRange_between hz hi hg hbetween
  have hdated := hd.between hd' hbetween.1 hbetween.2
  rw [Reading.InRange, Reading.onDay_day] at hdated
  refine ⟨⟨_, zone, hrange⟩, ?_⟩
  rw [plus_of_dated hu hd hdated hlast, hi]
  exact (Zone.resolve_constant_iff hz ho).mpr ⟨rfl, face_of_ahead_neg hz hrange⟩

theorem Early.exists_plus (hz : zone.rules = .constant offset)
    (ho : -86400 < offset ∧ offset < 86400) (hi : i.Early zone) (hg : goal.Early zone)
    (hu : u.MovesDate) {heading : Sign} {c : Nat} (h : heading.apply 1 * (i.face.nanos +
      86400000000000 * (u.stride.move i.face.day (heading.apply c) - i.face.day) -
        goal.face.nanos) ≤ 0) : ∃ j, i.plus u (heading.apply c) = .ok j := by
  have htoward := move_toward hu heading i.face.day c
  have hnanos := i.face.onDay_nanos (u.stride.move i.face.day (heading.apply c))
  have hi' := hi.early
  have hg' := hg.early
  have hday : i.face.day = i.face.nanos / 86400000000000 := rfl
  have hday' : goal.face.day = goal.face.nanos / 86400000000000 := rfl
  have hbetween : min i.face.nanos goal.face.nanos ≤
        (i.face.onDay (u.stride.move i.face.day (heading.apply c))).nanos ∧
      (i.face.onDay (u.stride.move i.face.day (heading.apply c))).nanos ≤
        max i.face.nanos goal.face.nanos := by
    cases heading <;> simp only [Sign.apply] at h htoward hnanos ⊢ <;> omega
  refine exists_plus_between hz ho hi.zone_eq hi.face_inRange hg.zone_eq hg.face_inRange hu ?_
    hbetween
  rintro ⟨-, hmonth⟩
  have hlate := monthStart_le_iff.mpr (Int.le_of_eq hmonth.symm)
  rw [Reading.onDay_nanos] at hbetween
  generalize monthStart (12 * 262142 + 11) = december at *
  omega

theorem Leg.beyond (hz : zone.rules = .constant offset) (ho : -86400 < offset ∧ offset < 86400)
    (hi : i.Early zone) (hg : goal.Early zone) (hu : u.MovesDate) {n m : Nat}
    (h : i.Leg u heading goal.utc (i.most u heading goal) n j) (hlt : n < m) :
    0 < heading.apply 1 * (i.face.nanos + 86400000000000 *
      (u.stride.move i.face.day (heading.apply m) - i.face.day) - goal.face.nanos) := by
  by_contra hshort
  rcases Nat.lt_or_ge (i.most u heading goal) m with hmost | hle
  · have hbeyond := date_beyond_of_most_lt hu hmost
    have hday : i.face.day = i.face.nanos / 86400000000000 := rfl
    have hgoal : goal.face.day = goal.face.nanos / 86400000000000 := rfl
    cases heading <;> simp only [Sign.apply] at hbeyond hshort <;> omega
  · obtain ⟨k, hk⟩ := hi.exists_plus hz ho hg hu (Int.not_lt.mp hshort)
    obtain ⟨hzone, hface⟩ := face_of_plus_constant hz ho hi.zone_eq hu hk
    have hpass := h.greedy m hlt hle k hk
    have hplain : k.utc.leap = false := (congrArg Reading.leap hface).trans hi.plain
    rw [passes_constant hz hzone hplain hg.zone_eq hg.plain, hface, Reading.onDay_nanos] at hpass
    exact hshort hpass

theorem Leg.early (hz : zone.rules = .constant offset) (ho : -86400 < offset ∧ offset < 86400)
    (hi : i.Early zone) (hg : goal.Early zone) (hu : u.MovesDate)
    (hp : ¬ i.Passes heading goal.utc) {most n : Nat} (h : i.Leg u heading goal.utc most n j) :
    j.Early zone := by
  have hnear := h.near (hz ▸ Rules.bounded_constant ho) hu hi.inner
  have hshort := h.not_passes hp
  rw [passes_constant hz hnear.zone_eq hnear.plain hg.zone_eq hg.plain] at hshort
  obtain ⟨hday, -⟩ := face_of_shift_constant hz ho hi.inner hu h.shift
  have htoward := move_toward hu heading i.face.day n
  rw [← hday] at htoward
  have hi₁ := hi.dated
  have hi₂ := hi.early
  have hg₁ := hg.dated
  have hg₂ := hg.early
  have hj : j.face.day = j.face.nanos / 86400000000000 := rfl
  have hgoal : goal.face.day = goal.face.nanos / 86400000000000 := rfl
  refine ⟨hnear.zone_eq, hnear.plain, ?_, ?_⟩
  · cases heading <;> simp only [Sign.apply] at htoward hshort <;> omega
  · cases heading <;> simp only [Sign.apply] at htoward hshort <;> omega

structure Route.Faces (anchor target : Instant) (heading : Sign) (count : TimeUnit → Nat)
    (afterYears afterMonths afterWeeks stop : Instant) : Prop where
  years : afterYears.face.day =
    monthsOn anchor.face.day (heading.apply (count .years) * 12)
  months : afterMonths.face.day =
    monthsOn afterYears.face.day (heading.apply (count .months))
  weeks : afterWeeks.face.day = afterMonths.face.day + heading.apply (count .weeks) * 7
  days : stop.face.day = afterWeeks.face.day + heading.apply (count .days)
  time : ∀ i ∈ [afterYears, afterMonths, afterWeeks, stop],
    i.face.nanos = anchor.face.nanos + 86400000000000 * (i.face.day - anchor.face.day)
  short : ∀ i ∈ [anchor, afterYears, afterMonths, afterWeeks, stop],
    heading.apply 1 * (i.face.nanos - target.face.nanos) ≤ 0

section Faces

variable (h : Route.Faces anchor target heading count afterYears afterMonths afterWeeks stop)
include h

theorem Route.Faces.times :
    afterYears.face.nanos =
        anchor.face.nanos + 86400000000000 * (afterYears.face.day - anchor.face.day) ∧
      afterMonths.face.nanos =
        anchor.face.nanos + 86400000000000 * (afterMonths.face.day - anchor.face.day) ∧
      afterWeeks.face.nanos =
        anchor.face.nanos + 86400000000000 * (afterWeeks.face.day - anchor.face.day) ∧
      stop.face.nanos = anchor.face.nanos + 86400000000000 * (stop.face.day - anchor.face.day) := by
  simpa only [List.forall_mem_cons, List.not_mem_nil, false_implies, implies_true, and_true]
    using h.time

theorem Route.Faces.shorts :
    heading.apply 1 * (anchor.face.nanos - target.face.nanos) ≤ 0 ∧
      heading.apply 1 * (afterYears.face.nanos - target.face.nanos) ≤ 0 ∧
      heading.apply 1 * (afterMonths.face.nanos - target.face.nanos) ≤ 0 ∧
      heading.apply 1 * (afterWeeks.face.nanos - target.face.nanos) ≤ 0 ∧
      heading.apply 1 * (stop.face.nanos - target.face.nanos) ≤ 0 := by
  simpa only [List.forall_mem_cons, List.not_mem_nil, false_implies, implies_true, and_true]
    using h.short

end Faces

section Legs

variable (hz : zone.rules = .constant offset) (ho : -86400 < offset ∧ offset < 86400)
  (ha : anchor.Early zone) (ht : target.Early zone) (hp : ¬ anchor.Passes heading target.utc)
  (h : Legs anchor target heading count afterYears afterMonths afterWeeks stop)
include hz ho ha ht hp h

theorem Legs.early :
    afterYears.Early zone ∧ afterMonths.Early zone ∧ afterWeeks.Early zone ∧ stop.Early zone := by
  have py := h.years.not_passes hp
  have pm := h.months.not_passes py
  have pw := h.weeks.not_passes pm
  have hy := h.years.early hz ho ha ht (by decide) hp
  have hm := h.months.early hz ho hy ht (by decide) py
  have hw := h.weeks.early hz ho hm ht (by decide) pm
  exact ⟨hy, hm, hw, h.days.early hz ho hw ht (by decide) pw⟩

theorem Legs.faces :
    Route.Faces anchor target heading count afterYears afterMonths afterWeeks stop := by
  obtain ⟨ey, em, ew, es⟩ := h.early hz ho ha ht hp
  have hy := face_of_shift_constant hz ho ha.inner (by decide) h.years.shift
  have hm := face_of_shift_constant hz ho ey.inner (by decide) h.months.shift
  have hw := face_of_shift_constant hz ho em.inner (by decide) h.weeks.shift
  have hd := face_of_shift_constant hz ho ew.inner (by decide) h.days.shift
  have py := h.years.not_passes hp
  have pm := h.months.not_passes py
  have pw := h.weeks.not_passes pm
  have pd := h.days.not_passes pw
  rw [passes_constant hz ha.zone_eq ha.plain ht.zone_eq ht.plain] at hp
  rw [passes_constant hz ey.zone_eq ey.plain ht.zone_eq ht.plain] at py
  rw [passes_constant hz em.zone_eq em.plain ht.zone_eq ht.plain] at pm
  rw [passes_constant hz ew.zone_eq ew.plain ht.zone_eq ht.plain] at pw
  rw [passes_constant hz es.zone_eq es.plain ht.zone_eq ht.plain] at pd
  simp only [TimeUnit.stride, Stride.move, Int.mul_one] at hy hm hw hd
  refine ⟨hy.1, hm.1, hw.1, hd.1, ?_, ?_⟩
  · simp only [List.forall_mem_cons, List.not_mem_nil, false_implies, implies_true, and_true]
    omega
  · simp only [List.forall_mem_cons, List.not_mem_nil, false_implies, implies_true, and_true]
    omega

/-- Seven days would have been another week. -/
theorem Legs.days_lt : count .days < 7 := by
  have hf := h.faces hz ho ha ht hp
  have hw := hf.weeks
  have hd := hf.days
  have htime := hf.times
  have hshort := hf.shorts
  have hgreedy := h.weeks.beyond hz ho (h.early hz ho ha ht hp).2.1 ht (by decide)
    (Nat.lt_succ_self _)
  simp only [TimeUnit.stride, Stride.move] at hgreedy
  by_contra hge
  cases heading <;> simp only [Sign.apply] at hw hd hshort hgreedy <;> omega

end Legs

theorem utc_of_shift_elapsed (hl : i.utc.leap = false) {nanos n : Int}
    (hu : u.stride = .elapsed nanos) (h : i.shift u n = .ok j) :
    j.utc.nanos = i.utc.nanos + n * nanos := by
  unfold shift at h
  split at h
  · rename_i hzero
    obtain rfl := Except.ok.inj h
    rw [hzero, Int.zero_mul, Int.add_zero]
  · rw [((plus_elapsed_eq_ok_iff hu).mp h).2, Reading.after_of_not_leap hl]

/-- Where a chain leads: its years and months move the date, and its weeks, days and milliseconds
then add up, as carried as they may be. -/
theorem Passage.face_constant (hz : zone.rules = .constant offset)
    (ho : -86400 < offset ∧ offset < 86400)
    (h : Passage zone b (fun u => heading.apply (Difference.carried count u))
      TimeUnit.descending i j) :
    j.face.nanos = i.face.nanos + 86400000000000 *
        (monthsOn (monthsOn i.face.day (heading.apply (Difference.carried count .years) * 12))
            (heading.apply (Difference.carried count .months)) +
          heading.apply (Difference.totalDays count) - i.face.day) +
      heading.apply (Difference.totalMillis count) * 1000000 := by
  rw [TimeUnit.descending] at h
  simp only [Passage.cons_iff] at h
  obtain ⟨iy, y, sy, im, m, sm, iw, w, sw, id, d, sd, ih, h, sh, imin, min, smin, is, s, ss, ims,
    k, sk, hk⟩ := h
  cases hk with
  | done ik =>
    have hy := face_of_shift_constant hz ho iy (by decide) sy
    have hm := face_of_shift_constant hz ho im (by decide) sm
    have hw := face_of_shift_constant hz ho iw (by decide) sw
    have hd := face_of_shift_constant hz ho id (by decide) sd
    have hh := utc_of_shift_elapsed ih.plain rfl sh
    have hmin := utc_of_shift_elapsed imin.plain rfl smin
    have hs := utc_of_shift_elapsed is.plain rfl ss
    have hk := utc_of_shift_elapsed ims.plain rfl sk
    have hoffset : j.face.nanos = d.face.nanos + (j.utc.nanos - d.utc.nanos) := by
      rw [face_nanos, face_nanos, offset_constant hz ik.zone_eq, offset_constant hz ih.zone_eq]
      omega
    simp only [TimeUnit.stride, Stride.move, Int.mul_one] at hy hm hw hd
    have hdays : heading.apply (Difference.carried count .weeks) * 7 +
        heading.apply (Difference.carried count .days) =
        heading.apply (Difference.totalDays count) := by
      cases heading <;> simp only [Sign.apply, Difference.carried] <;> omega
    have hmillis : heading.apply (Difference.carried count .hours) * 3600000 +
        heading.apply (Difference.carried count .minutes) * 60000 +
        heading.apply (Difference.carried count .seconds) * 1000 +
        heading.apply (Difference.carried count .milliseconds) =
        heading.apply (Difference.totalMillis count) := by
      cases heading <;> simp only [Sign.apply, Difference.carried] <;> omega
    rw [← hy.1, ← hm.1]
    omega

end Instant

end RelativeTime

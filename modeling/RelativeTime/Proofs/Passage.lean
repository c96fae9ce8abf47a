import RelativeTime.Proofs.Route
import RelativeTime.Reconstruction

/-! Applying the chain of a difference: a passage through instants that all lie within the calendar.

Whatever normalizing has made of the counts, the passage ends within a year or so of the target, so
no token of the chain can fail. -/
namespace RelativeTime

open Calendar

namespace Difference

def delta (d : Difference) (u : TimeUnit) : Token :=
  .delta (.saturating (.ofInt (d.get u)) (d.get u).natAbs u)

theorem chain_eq (d : Difference) : d.chain = d.units.map d.delta := rfl

theorem delta_apply {d : Difference} {u : TimeUnit}
    (h : (d.get u).natAbs < 0x8000000000000000) (i : Instant) :
    (d.delta u).apply i = i.plus u (d.get u) := by
  have hmin : min (d.get u).natAbs 0xFFFFFFFFFFFFFFFF = (d.get u).natAbs := by omega
  simp only [delta, Token.apply, Delta.apply, Delta.amount?, Delta.saturating, hmin, h, if_true,
    Sign.apply_natAbs]

end Difference

namespace Instant

/-- Moved, unless by nothing, for which there is no token. -/
def shift (i : Instant) (u : TimeUnit) (n : Int) : Answer Instant :=
  if n = 0 then .ok i else i.plus u n

def shiftDate (i : Instant) (d : Difference) : Answer Instant :=
  [TimeUnit.years, .months, .weeks, .days].foldlM (fun i u => i.shift u (d.get u)) i

/-- From one instant to another by the amounts of some units in turn, all of the way within the
calendar. -/
inductive Passage (zone : Zone) (days : Int) (amount : TimeUnit → Int) :
    List TimeUnit → Instant → Instant → Prop
  | done {i : Instant} : i.Inner zone days → Passage zone days amount [] i i
  | step {i j k : Instant} {u : TimeUnit} {us : List TimeUnit} : i.Inner zone days →
      i.shift u (amount u) = .ok j → Passage zone days amount us j k →
      Passage zone days amount (u :: us) i k

variable {i j k anchor target afterYears afterMonths afterWeeks stop : Instant} {zone : Zone}
  {b : Int} {amount : TimeUnit → Int} {us vs : List TimeUnit}

namespace Passage

theorem inner_stop (h : Passage zone b amount us i j) : j.Inner zone b := by
  induction h with
  | done hi => exact hi
  | step _ _ _ ih => exact ih

theorem cons_iff {u : TimeUnit} : Passage zone b amount (u :: us) i k ↔ i.Inner zone b ∧
    ∃ j, i.shift u (amount u) = .ok j ∧ Passage zone b amount us j k := by
  constructor
  · rintro (_ | ⟨hi, hs, h⟩)
    exact ⟨hi, _, hs, h⟩
  · rintro ⟨hi, j, hs, h⟩
    exact .step hi hs h

theorem append (h : Passage zone b amount us i j) (h' : Passage zone b amount vs j k) :
    Passage zone b amount (us ++ vs) i k := by
  induction h with
  | done _ => exact h'
  | step hi hs _ ih => exact .step hi hs (ih h')

theorem mono (h : Passage zone b amount us i j) {c : Int} (hc : b ≤ c) :
    Passage zone c amount us i j := by
  induction h with
  | done hi => exact .done (hi.mono hc)
  | step hi hs _ ih => exact .step (hi.mono hc) hs ih

theorem foldlM_eq (h : Passage zone b amount us i j) :
    us.foldlM (fun i u => i.shift u (amount u)) i = .ok j := by
  induction h with
  | done _ => rfl
  | step _ hs _ ih =>
    rw [List.foldlM_cons, hs]
    exact ih

theorem evaluate_eq {d : Difference} (hd : ∀ u, (d.get u).natAbs < 0x8000000000000000)
    (h : Passage zone b d.get us i j) :
    evaluate i ((us.filter fun u => d.get u ≠ 0).map d.delta) = .ok j := by
  induction h with
  | done _ => rfl
  | step _ hs _ ih =>
    rename_i u us' _ _
    unfold shift at hs
    split at hs
    · rename_i hzero
      obtain rfl := Except.ok.inj hs
      simpa only [List.filter_cons, hzero, ne_eq, not_true_eq_false, decide_false,
        Bool.false_eq_true, if_false] using ih
    · rename_i hzero
      simp only [List.filter_cons, hzero, ne_eq, not_false_eq_true, decide_true, if_true,
        List.map_cons, evaluate, List.foldlM_cons, Difference.delta_apply (hd u), hs]
      exact ih

end Passage

theorem Near.monthOf {day n : Int} (h : Near i j zone (monthsOn day n)) :
    Calendar.monthOf day + n - 1 ≤ Calendar.monthOf j.face.day ∧
      Calendar.monthOf j.face.day ≤ Calendar.monthOf day + n + 1 := by
  have hdate := h.date
  have := monthOf_near (a := monthsOn day n) (b := j.face.day) ⟨by omega, by omega⟩
  rwa [monthOf_monthsOn] at this

theorem Inner.exists_shift (hb : zone.rules.Bounded) {u : TimeUnit} (hu : u.MovesDate)
    (hi : i.Inner zone b) (hbound : b ≤ 80000000) {n : Int}
    (hn : -80000000 ≤ u.stride.move i.face.day n ∧ u.stride.move i.face.day n ≤ 80000000) :
    ∃ j, i.shift u n = .ok j ∧ Near i j zone (u.stride.move i.face.day n) := by
  by_cases hzero : n = 0
  · refine ⟨i, by rw [shift, if_pos hzero], hi.zone_eq, hi.plain, ?_, by simp⟩
    rw [hzero, TimeUnit.move_zero hu]
    exact ⟨by omega, by omega⟩
  · obtain ⟨j, hj⟩ := hi.plus_succeeds hb hu (by omega) (n := n) ⟨by omega, by omega⟩
    exact ⟨j, by rw [shift, if_neg hzero, hj], hi.plus_near hb hu hj⟩

theorem Near.inner {day : Int} (h : Near i j zone day) (hd : 2 - b ≤ day ∧ day ≤ b - 2) :
    j.Inner zone b :=
  ⟨h.zone_eq, h.plain, by have := h.date; omega, by have := h.date; omega⟩

variable {heading : Sign} {count : TimeUnit → Nat}

theorem Route.exists_months (hb : zone.rules.Bounded) (hbound : b ≤ 60000000)
    (ha : anchor.Inner zone b) (ht : target.Inner zone b) (hp : ¬ anchor.Passes heading target.utc)
    (h : Route anchor target heading count afterYears afterMonths afterWeeks stop) :
    ∃ j k, anchor.shift .years (heading.apply (Difference.carried count .years)) = .ok j ∧
      j.Inner zone (b + 300) ∧
      j.shift .months (heading.apply (Difference.carried count .months)) = .ok k ∧
      k.Inner zone (b + 300) ∧
      afterMonths.face.day - 200 ≤ k.face.day ∧ k.face.day ≤ afterMonths.face.day + 200 := by
  obtain ⟨iy, im, -, -⟩ := h.inner hb ha ht hp
  have hy := h.years.near hb (by decide) ha
  have hm := h.months.near hb (by decide) iy
  simp only [TimeUnit.stride, Stride.move, Int.mul_one] at hy hm
  have my := hy.monthOf
  have mm := hm.monthOf
  have na := ha.near
  have nm := im.near
  have da := day_near_month anchor.face.day
  have dm := day_near_month afterMonths.face.day
  -- The months of the route lead from the anchor to within two months of where it came.
  have hcarried : heading.apply (Difference.carried count .years) * 12 +
      heading.apply (Difference.carried count .months) =
      heading.apply (count .years) * 12 + heading.apply (count .months) := by
    cases heading <;> simp only [Sign.apply, Difference.carried, Difference.totalMonths] <;> omega
  have hbetween : 0 ≤ heading.apply 1 * (heading.apply (Difference.carried count .years) * 12) ∧
      0 ≤ heading.apply 1 * heading.apply (Difference.carried count .months) := by
    cases heading <;> simp only [Sign.apply] <;> omega
  generalize heading.apply (Difference.carried count .years) = years at *
  generalize heading.apply (Difference.carried count .months) = months at *
  have dy := monthsOn_near anchor.face.day (years * 12)
  have hday : -(b + 200) ≤ monthsOn anchor.face.day (years * 12) ∧
      monthsOn anchor.face.day (years * 12) ≤ b + 200 := by
    cases heading <;> simp only [Sign.apply] at hbetween hcarried my mm <;> omega
  obtain ⟨j, hj, nj⟩ := ha.exists_shift hb (u := .years) (by decide) (by omega)
    (n := years) (by simp only [TimeUnit.stride, Stride.move]; omega)
  simp only [TimeUnit.stride, Stride.move] at nj
  have ij : j.Inner zone (b + 300) := nj.inner ⟨by omega, by omega⟩
  have mj := nj.monthOf
  have dj := monthsOn_near j.face.day months
  have hday' : afterMonths.face.day - 190 ≤ monthsOn j.face.day months ∧
      monthsOn j.face.day months ≤ afterMonths.face.day + 190 := by
    constructor <;> omega
  obtain ⟨k, hk, nk⟩ := ij.exists_shift hb (u := .months) (by decide) (by omega)
    (n := months) (by simp only [TimeUnit.stride, Stride.move, Int.mul_one]; omega)
  simp only [TimeUnit.stride, Stride.move, Int.mul_one] at nk
  have dk := nk.date
  exact ⟨j, k, hj, ij, hk, nk.inner ⟨by omega, by omega⟩, by omega, by omega⟩

/-- Whatever the carries, the dates of a chain end within a year of where the walk ended. -/
theorem Route.exists_dates (hb : zone.rules.Bounded) (hbound : b ≤ 60000000)
    (ha : anchor.Inner zone b) (ht : target.Inner zone b) (hp : ¬ anchor.Passes heading target.utc)
    (h : Route anchor target heading count afterYears afterMonths afterWeeks stop) :
    ∃ j, Passage zone (b + 400) (fun u => heading.apply (Difference.carried count u))
        [.years, .months, .weeks, .days] anchor j ∧
      stop.face.day - 300 ≤ j.face.day ∧ j.face.day ≤ stop.face.day + 300 := by
  obtain ⟨y, m, hy, iy, hm, im, dm⟩ := h.exists_months hb hbound ha ht hp
  obtain ⟨-, im', iw', is'⟩ := h.inner hb ha ht hp
  have nw' := (h.weeks.near hb (by decide) im').date
  have ns' := (h.days.near hb (by decide) iw').date
  simp only [TimeUnit.stride, Stride.move, Int.mul_one] at nw' ns'
  have nm := im'.near
  have ns := is'.near
  have hcarried : heading.apply (Difference.carried count .weeks) * 7 +
      heading.apply (Difference.carried count .days) =
      heading.apply (count .weeks) * 7 + heading.apply (count .days) := by
    cases heading <;> simp only [Sign.apply, Difference.carried, Difference.totalDays] <;> omega
  have hbetween : 0 ≤ heading.apply 1 * (heading.apply (Difference.carried count .weeks) * 7) ∧
      0 ≤ heading.apply 1 * heading.apply (Difference.carried count .days) := by
    cases heading <;> simp only [Sign.apply] <;> omega
  generalize hweeks : heading.apply (Difference.carried count .weeks) = weeks at *
  generalize hdays : heading.apply (Difference.carried count .days) = days at *
  have hday : -(b + 300) ≤ m.face.day + weeks * 7 ∧ m.face.day + weeks * 7 ≤ b + 300 := by
    cases heading <;> simp only [Sign.apply] at hbetween hcarried nw' ns' <;> omega
  obtain ⟨w, hw, nw⟩ := im.exists_shift hb (u := .weeks) (by decide) (by omega)
    (n := weeks) (by simp only [TimeUnit.stride, Stride.move]; omega)
  simp only [TimeUnit.stride, Stride.move] at nw
  have iw : w.Inner zone (b + 400) := nw.inner ⟨by omega, by omega⟩
  have dw := nw.date
  obtain ⟨j, hj, nj⟩ := iw.exists_shift hb (u := .days) (by decide) (by omega)
    (n := days) (by simp only [TimeUnit.stride, Stride.move, Int.mul_one]; omega)
  simp only [TimeUnit.stride, Stride.move, Int.mul_one] at nj
  have dj := nj.date
  have ij : j.Inner zone (b + 400) := nj.inner ⟨by omega, by omega⟩
  subst hweeks hdays
  exact ⟨j, .step (ha.mono (by omega)) hy (.step (iy.mono (by omega)) hm
    (.step (im.mono (by omega)) hw (.step iw hj (.done ij)))), by omega, by omega⟩

theorem exists_shift_elapsed (hl : i.utc.leap = false) {u : TimeUnit} {nanos n : Int}
    (hu : u.stride = .elapsed nanos)
    (hrange : Reading.InRange ⟨i.utc.nanos + n * nanos, false⟩) :
    ∃ j, i.shift u n = .ok j ∧ j.zone = i.zone ∧ j.utc.leap = false ∧
      j.utc.nanos = i.utc.nanos + n * nanos := by
  by_cases hzero : n = 0
  · exact ⟨i, by rw [shift, if_pos hzero], rfl, hl, by simp [hzero]⟩
  · refine ⟨⟨⟨i.utc.nanos + n * nanos, false⟩, i.zone, hrange⟩, ?_, rfl, rfl, rfl⟩
    rw [shift, if_neg hzero, plus_elapsed_eq_ok_iff hu]
    exact ⟨rfl, (Reading.after_of_not_leap hl _).symm⟩

/-- Hours, minutes, seconds and milliseconds together add what they were carried from, and no part
of them leads beyond the two ends. -/
theorem exists_elapsed (heading : Sign) (count : TimeUnit → Nat) (hb : zone.rules.Bounded)
    {low high : Int} (hrange : ∀ n, low ≤ n → n ≤ high → Reading.InRange ⟨n, false⟩)
    (hnear : -86400000000000 * b ≤ low ∧ high ≤ 86400000000000 * b) (hz : i.zone = zone)
    (hl : i.utc.leap = false) (hstart : low ≤ i.utc.nanos ∧ i.utc.nanos ≤ high)
    (hstop : low ≤ i.utc.nanos + heading.apply (Difference.totalMillis count) * 1000000 ∧
      i.utc.nanos + heading.apply (Difference.totalMillis count) * 1000000 ≤ high) :
    ∃ j, Passage zone (b + 1) (fun u => heading.apply (Difference.carried count u))
        [.hours, .minutes, .seconds, .milliseconds] i j ∧
      j.utc.nanos = i.utc.nanos + heading.apply (Difference.totalMillis count) * 1000000 := by
  have inner {k : Instant} (hz : k.zone = zone) (hl : k.utc.leap = false)
      (h : low ≤ k.utc.nanos ∧ k.utc.nanos ≤ high) : k.Inner zone (b + 1) :=
    Within.inner hb ⟨hz, by omega, by omega⟩ hl
  have hh : Difference.carried count .hours = Difference.totalMillis count / 3600000 := rfl
  have hm : Difference.carried count .minutes =
    Difference.totalMillis count % 3600000 / 60000 := rfl
  have hs : Difference.carried count .seconds = Difference.totalMillis count % 60000 / 1000 := rfl
  have hms : Difference.carried count .milliseconds = Difference.totalMillis count % 1000 := rfl
  have bound_h : low ≤ i.utc.nanos + heading.apply (Difference.carried count .hours) *
      3600000000000 ∧ i.utc.nanos + heading.apply (Difference.carried count .hours) *
      3600000000000 ≤ high := by
    cases heading <;> simp only [Sign.apply] at hstop ⊢ <;> omega
  obtain ⟨h, shift_h, zh, lh, nh⟩ := exists_shift_elapsed hl (u := .hours) rfl
    (hrange _ bound_h.1 bound_h.2)
  have bound_m : low ≤ h.utc.nanos + heading.apply (Difference.carried count .minutes) *
      60000000000 ∧ h.utc.nanos + heading.apply (Difference.carried count .minutes) *
      60000000000 ≤ high := by
    cases heading <;> simp only [Sign.apply] at hstop nh ⊢ <;> omega
  obtain ⟨m, shift_m, zm, lm, nm⟩ := exists_shift_elapsed lh (u := .minutes) rfl
    (hrange _ bound_m.1 bound_m.2)
  have bound_s : low ≤ m.utc.nanos + heading.apply (Difference.carried count .seconds) *
      1000000000 ∧ m.utc.nanos + heading.apply (Difference.carried count .seconds) *
      1000000000 ≤ high := by
    cases heading <;> simp only [Sign.apply] at hstop nh nm ⊢ <;> omega
  obtain ⟨s, shift_s, zs, ls, ns⟩ := exists_shift_elapsed lm (u := .seconds) rfl
    (hrange _ bound_s.1 bound_s.2)
  have hsum : s.utc.nanos + heading.apply (Difference.carried count .milliseconds) * 1000000 =
      i.utc.nanos + heading.apply (Difference.totalMillis count) * 1000000 := by
    cases heading <;> simp only [Sign.apply] at nh nm ns ⊢ <;> omega
  rw [← hsum] at hstop ⊢
  obtain ⟨j, shift_j, zj, lj, nj⟩ := exists_shift_elapsed ls (u := .milliseconds) rfl
    (hrange _ hstop.1 hstop.2)
  have zh' := zh.trans hz
  have zm' := zm.trans zh'
  have zs' := zs.trans zm'
  exact ⟨j, .step (inner hz hl hstart) shift_h (.step (inner zh' lh (nh ▸ bound_h)) shift_m
    (.step (inner zm' lm (nm ▸ bound_m)) shift_s (.step (inner zs' ls (ns ▸ bound_s)) shift_j
      (.done (inner (zj.trans zs') lj (nj ▸ hstop)))))), nj⟩

theorem Route.totalMillis_eq
    (h : Route anchor target heading count afterYears afterMonths afterWeeks stop) :
    Difference.totalMillis count = count .milliseconds := by
  obtain ⟨hh, hm, hs⟩ := h.subday
  simp only [Difference.totalMillis, hh, hm, hs]
  omega

theorem Leg.shift {u : TimeUnit} {target : Reading} {most n : Nat}
    (h : i.Leg u heading target most n j) : i.shift u (heading.apply n) = .ok j := by
  by_cases hn : n = 0
  · rw [hn, Sign.apply_zero, Instant.shift, if_pos rfl, h.stays hn]
  · rw [Instant.shift, if_neg (Sign.apply_eq_zero_iff.not.mpr hn), h.moves hn]

theorem eq_of_utc {i j : Instant} (hz : i.zone = j.zone) (hi : i.utc.leap = false)
    (hj : j.utc.leap = false) (h : i.utc.nanos = j.utc.nanos) : i = j := by
  obtain ⟨⟨n, l⟩, z, hn⟩ := i
  obtain ⟨⟨n', l'⟩, z', hn'⟩ := j
  simp only at hz hi hj h
  subst hz hi hj h
  rfl

/-- The chain of a difference never leaves the calendar, and it leads to the target if and only if
its years, months, weeks and days lead to where the walk ended. -/
theorem Route.exists_passage (hb : zone.rules.Bounded) (hbound : b ≤ 60000000)
    (ha : anchor.Inner zone b) (ht : target.Inner zone b) (hp : ¬ anchor.Passes heading target.utc)
    (h : Route anchor target heading count afterYears afterMonths afterWeeks stop) :
    ∃ i j, anchor.shiftDate (.ofCounts heading (Difference.carried count)) = .ok i ∧
      Passage zone (b + 801) (fun u => heading.apply (Difference.carried count u))
        TimeUnit.descending anchor j ∧ (j = target ↔ i = stop) := by
  obtain ⟨i, hdates, hi⟩ := h.exists_dates hb hbound ha ht hp
  have ii := hdates.inner_stop
  have is := (h.inner hb ha ht hp).2.2.2
  have hrest := h.rest
  have hstop := is.utc_bounds hb
  have htarget := ht.utc_bounds hb
  have hnanos := ii.utc_bounds hb
  have hnear : stop.utc.nanos - 86400000000000 * 304 ≤ i.utc.nanos ∧
      i.utc.nanos ≤ stop.utc.nanos + 86400000000000 * 304 := by
    have h₁ := face_day_bounds hb ii.zone_eq
    have h₂ := face_day_bounds hb is.zone_eq
    have : i.utc.day = i.utc.nanos / 86400000000000 := rfl
    have : stop.utc.day = stop.utc.nanos / 86400000000000 := rfl
    omega
  have hrange (n : Int) (hlow : -86400000000000 * (b + 800) ≤ n)
      (hhigh : n ≤ 86400000000000 * (b + 800)) : Reading.InRange ⟨n, false⟩ := by
    simp only [Reading.InRange, DayInRange, firstDay_eq, lastDay_eq, Reading.day]
    omega
  obtain ⟨j, htimes, hj⟩ := exists_elapsed heading count hb hrange ⟨Int.le_refl _, Int.le_refl _⟩
    ii.zone_eq ii.plain (by omega) (by rw [h.totalMillis_eq]; omega)
  have ij := htimes.inner_stop
  have hshift : anchor.shiftDate (.ofCounts heading (Difference.carried count)) = .ok i := by
    simp only [shiftDate, Difference.get_ofCounts]
    exact hdates.foldlM_eq
  rw [h.totalMillis_eq] at hj
  refine ⟨i, j, hshift, (hdates.mono (by omega)).append (htimes.mono (by omega)), ?_, ?_⟩
  · rintro rfl
    exact eq_of_utc (ii.zone_eq.trans is.zone_eq.symm) ii.plain is.plain (by omega)
  · rintro rfl
    exact eq_of_utc (ij.zone_eq.trans ht.zone_eq.symm) ij.plain ht.plain (by omega)

theorem Route.shiftDate_of_not_carried
    (h : Route anchor target heading count afterYears afterMonths afterWeeks stop)
    (hmonths : count .months < 12) (hdays : count .days < 7) :
    anchor.shiftDate (.ofCounts heading (Difference.carried count)) = .ok stop := by
  obtain ⟨cy, cm, cw, cd⟩ := Difference.carried_date hmonths hdays
  simp only [shiftDate, List.foldlM_cons, Difference.get_ofCounts, cy, cm, cw, cd,
    h.years.shift, h.months.shift, h.weeks.shift, h.days.shift, Answer.bind_ok]
  rfl

end Instant

end RelativeTime

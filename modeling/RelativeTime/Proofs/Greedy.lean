import RelativeTime.Proofs.ShortOfLeapDay
import RelativeTime.Zone.Catalogue

/-! Under a fixed offset the difference is greedy: of every unit in turn it takes as many as do not
pass the target, and normalizing then finds nothing to carry. Only from a 29 February can twelve
months be left over. -/
namespace RelativeTime

open Calendar

namespace Calendar

theorem monthsOn_succ_le (day n : Int) : monthsOn day (n + 1) ≤ monthsOn day n + 31 := by
  have hlen := (monthLength_bounds (monthOf day + n)).2
  have hlen' := (monthLength_bounds (monthOf day + n + 1)).2
  rw [monthsOn, monthsOn, ← Int.add_assoc]
  rw [monthLength] at hlen
  unfold monthLength at hlen' ⊢
  omega

end Calendar

/-- No field is enough for one more of the unit above it; four weeks do not make a month yet. -/
structure Difference.Small (d : Difference) : Prop where
  months : d.months.natAbs ≤ 11
  weeks : d.weeks.natAbs ≤ 4
  days : d.days.natAbs ≤ 6
  hours : d.hours.natAbs ≤ 23
  minutes : d.minutes.natAbs ≤ 59
  seconds : d.seconds.natAbs ≤ 59
  milliseconds : d.milliseconds.natAbs ≤ 999

theorem Difference.small_ofCounts {heading : Sign} {count : TimeUnit → Nat}
    (hmonths : count .months < 12) (hweeks : count .weeks < 5) (hdays : count .days < 7)
    (hmillis : totalMillis count < 86400000) : (ofCounts heading (carried count)).Small := by
  obtain ⟨-, cm, cw, cd⟩ := carried_date hmonths hdays
  constructor <;> simp only [ofCounts, Sign.natAbs_apply, cm, cw, cd] <;>
    try simp only [carried]
  all_goals omega

namespace Instant

structure Farthest (i : Instant) (u : TimeUnit) (heading : Sign) (target : Instant) (count : Nat)
    (reached : Instant) : Prop where
  reaches : i.plus u (heading.apply count) = .ok reached
  short : ¬ reached.Passes heading target.utc
  largest : ∀ n j, count < n → i.plus u (heading.apply n) = .ok j → j.Passes heading target.utc

/-- Each count of dates is the largest, and what remains is split into hours, minutes, seconds and
milliseconds. -/
structure Greedy (anchor target : Instant) (heading : Sign) (d : Difference)
    (afterYears afterMonths afterWeeks stop : Instant) : Prop where
  years : anchor.Farthest .years heading target d.years.natAbs afterYears
  months : afterYears.Farthest .months heading target d.months.natAbs afterMonths
  weeks : afterMonths.Farthest .weeks heading target d.weeks.natAbs afterWeeks
  days : afterWeeks.Farthest .days heading target d.days.natAbs stop
  sign : ∀ u, d.get u = heading.apply (d.get u).natAbs
  hours : d.hours = ((target.utc.nanos - stop.utc.nanos).tdiv 1000000).tdiv 3600000
  minutes : d.minutes =
    (((target.utc.nanos - stop.utc.nanos).tdiv 1000000).tmod 3600000).tdiv 60000
  seconds : d.seconds =
    (((target.utc.nanos - stop.utc.nanos).tdiv 1000000).tmod 60000).tdiv 1000
  milliseconds : d.milliseconds = ((target.utc.nanos - stop.utc.nanos).tdiv 1000000).tmod 1000

variable {i j goal anchor target afterYears afterMonths afterWeeks stop : Instant} {zone : Zone}
  {offset : Int} {heading : Sign} {u : TimeUnit} {count : TimeUnit → Nat}

section Leg

variable (hz : zone.rules = .constant offset) (ho : -86400 < offset ∧ offset < 86400)
include hz ho

theorem Early.plus_zero (hi : i.Early zone) (hu : u.MovesDate) : i.plus u 0 = .ok i := by
  have hmove : u.stride.move i.face.day 0 = i.face.day := TimeUnit.move_zero hu _
  rw [plus_of_early hu hi.face_inRange (hmove.symm ▸ ⟨hi.dated, hi.early⟩), hmove, hi.zone_eq]
  exact (Zone.resolve_constant_iff hz ho).mpr ⟨hi.zone_eq, (Reading.onDay_self _).symm⟩

/-- A leg of the walk is the farthest of all, not only of those that it tries. -/
theorem Leg.farthest (hi : i.Early zone) (hg : goal.Early zone) (hu : u.MovesDate)
    (hp : ¬ i.Passes heading goal.utc) {n : Nat}
    (h : i.Leg u heading goal.utc (i.most u heading goal) n j) :
    i.Farthest u heading goal n j where
  reaches := by
    by_cases hn : n = 0
    · rw [hn, Sign.apply_zero, h.stays hn]
      exact hi.plus_zero hz ho hu
    · exact h.moves hn
  short := h.not_passes hp
  largest := by
    intro m k hlt hk
    have hbeyond := h.beyond hz ho hi hg hu hlt
    obtain ⟨hzone, hface⟩ := face_of_plus_constant hz ho hi.zone_eq hu hk
    have hplain : k.utc.leap = false := (congrArg Reading.leap hface).trans hi.plain
    rw [passes_constant hz hzone hplain hg.zone_eq hg.plain, hface, Reading.onDay_nanos]
    exact hbeyond

end Leg

/-! ### The counts are small -/

section Legs

variable (hz : zone.rules = .constant offset) (ho : -86400 < offset ∧ offset < 86400)
  (ha : anchor.Early zone) (ht : target.Early zone) (hp : ¬ anchor.Passes heading target.utc)
  (h : Legs anchor target heading count afterYears afterMonths afterWeeks stop)
include hz ho ha ht hp h

/-- Only from a 29 February are twelve months left. -/
theorem Legs.months_lt (hleap : ¬ IsLeapDay anchor.face.day) : count .months < 12 := by
  by_contra hmonths
  exact hleap (h.leap_of_months hz ho ha ht hp (Nat.not_lt.mp hmonths)).2.2.2.1

theorem Legs.weeks_lt : count .weeks < 5 := by
  have hf := h.faces hz ho ha ht hp
  have hm := hf.months
  have hw := hf.weeks
  have htime := hf.times
  have hshort := hf.shorts
  have hgreedy := h.months.beyond hz ho (h.early hz ho ha ht hp).1 ht (by decide)
    (Nat.lt_succ_self _)
  simp only [TimeUnit.stride, Stride.move, Int.mul_one] at hgreedy
  by_contra hge
  cases heading with
  | plus =>
    simp only [Sign.apply, Nat.succ_eq_add_one, Int.natCast_add, Int.natCast_one]
      at hm hw hshort hgreedy
    have hnext := monthsOn_succ_le afterYears.face.day (count .months)
    omega
  | minus =>
    simp only [Sign.apply, Nat.succ_eq_add_one, Int.natCast_add, Int.natCast_one]
      at hm hw hshort hgreedy
    have hnext := monthsOn_succ_le afterYears.face.day (-(count .months + 1))
    have hindex : -((count .months : Int) + 1) + 1 = -count .months := by omega
    rw [hindex] at hnext
    omega

theorem Legs.rest_lt :
    heading.apply 1 * (target.utc.nanos - stop.utc.nanos) < 86400000000000 := by
  have hf := h.faces hz ho ha ht hp
  have hd := hf.days
  have htime := hf.times
  have hearly := h.early hz ho ha ht hp
  have hgreedy := h.days.beyond hz ho hearly.2.2.1 ht (by decide) (Nat.lt_succ_self _)
  simp only [TimeUnit.stride, Stride.move, Int.mul_one] at hgreedy
  have hstop := face_nanos stop
  have htarget := face_nanos target
  rw [offset_constant hz hearly.2.2.2.zone_eq] at hstop
  rw [offset_constant hz ht.zone_eq] at htarget
  cases heading <;> simp only [Sign.apply] at hd hgreedy ⊢ <;> omega

theorem Legs.passage (hmonths : count .months < 12) (hdays : count .days < 7) :
    Passage zone 97000000 (fun u => heading.apply (Difference.carried count u))
      [.years, .months, .weeks, .days] anchor stop := by
  obtain ⟨hy, hm, hw, hd⟩ := h.early hz ho ha ht hp
  obtain ⟨cy, cm, cw, cd⟩ := Difference.carried_date hmonths hdays
  refine .step ha.inner ?_ (.step hy.inner ?_ (.step hm.inner ?_ (.step hw.inner ?_
    (.done hd.inner))))
  · exact cy ▸ h.years.shift
  · exact cm ▸ h.months.shift
  · exact cw ▸ h.weeks.shift
  · exact cd ▸ h.days.shift

theorem Legs.greedy (hmonths : count .months < 12) (hdays : count .days < 7)
    (hrest : (target.utc.nanos - stop.utc.nanos).tdiv 1000000 =
      heading.apply (Difference.totalMillis count)) :
    Greedy anchor target heading (.ofCounts heading (Difference.carried count)) afterYears
      afterMonths afterWeeks stop := by
  obtain ⟨hy, hm, hw, -⟩ := h.early hz ho ha ht hp
  have py := h.years.not_passes hp
  have pm := h.months.not_passes py
  have pw := h.weeks.not_passes pm
  obtain ⟨cy, cm, cw, cd⟩ := Difference.carried_date hmonths hdays
  obtain ⟨ch, cmin, cs, cms⟩ := Difference.apply_carried_elapsed heading count
  rw [← hrest] at ch cmin cs cms
  refine { years := ?_, months := ?_, weeks := ?_, days := ?_, sign := fun u => ?_, hours := ch,
           minutes := cmin, seconds := cs, milliseconds := cms }
  · rw [Difference.ofCounts, Sign.natAbs_apply, cy]
    exact h.years.farthest hz ho ha ht (by decide) hp
  · rw [Difference.ofCounts, Sign.natAbs_apply, cm]
    exact h.months.farthest hz ho hy ht (by decide) py
  · rw [Difference.ofCounts, Sign.natAbs_apply, cw]
    exact h.weeks.farthest hz ho hm ht (by decide) pm
  · rw [Difference.ofCounts, Sign.natAbs_apply, cd]
    exact h.days.farthest hz ho hw ht (by decide) pw
  · rw [Difference.get_ofCounts, Sign.natAbs_apply]

end Legs

theorem Early.exists_rest_elapsed (count : TimeUnit → Nat) (hb : zone.rules.Bounded)
    (hs : stop.Early zone) (ht : target.Early zone) {r : Nat} (hrest : target.utc.nanos =
      stop.utc.nanos + heading.apply (Difference.totalMillis count * 1000000 + r)) :
    ∃ reached, Passage zone 97000003 (fun u => heading.apply (Difference.carried count u))
        [.hours, .minutes, .seconds, .milliseconds] stop reached ∧
      heading.apply 1 * (target.utc.nanos - reached.utc.nanos) = r := by
  have hstop := hs.inner.utc_bounds hb
  have htarget := ht.inner.utc_bounds hb
  have hrange (n : Int) (hlow : min stop.utc.nanos target.utc.nanos ≤ n)
      (hhigh : n ≤ max stop.utc.nanos target.utc.nanos) : Reading.InRange ⟨n, false⟩ :=
    stop.inRange.between target.inRange hlow hhigh
  obtain ⟨reached, hpassage, hreached⟩ := exists_elapsed heading count hb (b := 97000002) hrange
    ⟨by omega, by omega⟩ hs.zone_eq hs.plain ⟨by omega, by omega⟩
    (by cases heading <;> simp only [Sign.apply] at hrest ⊢ <;> omega)
  refine ⟨reached, hpassage, ?_⟩
  cases heading <;> simp only [Sign.apply] at hrest hreached ⊢ <;> omega

/-- Where no twelve months are left over, nothing is left to carry, and the chain leads to the
target but for less than a millisecond. -/
theorem exists_greedy (hz : zone.rules = .constant offset)
    (ho : -86400 < offset ∧ offset < 86400) (ha : anchor.Early zone) (ht : target.Early zone)
    (hmonths : ∀ {count afterYears afterMonths afterWeeks stop},
      Legs anchor target (anchor.heading target) count afterYears afterMonths afterWeeks stop →
        count .months < 12) :
    ∃ d afterYears afterMonths afterWeeks stop reached,
      anchor.difference target = .ok d ∧
      Greedy anchor target (anchor.heading target) d afterYears afterMonths afterWeeks stop ∧
      d.Small ∧ evaluate anchor d.chain = .ok reached ∧
      0 ≤ (anchor.heading target).apply 1 * (target.utc.nanos - reached.utc.nanos) ∧
      (anchor.heading target).apply 1 * (target.utc.nanos - reached.utc.nanos) < 1000000 := by
  have hb : zone.rules.Bounded := hz ▸ Rules.bounded_constant ho
  have hp := not_passes_heading anchor target
  obtain ⟨years, months, weeks, days, afterYears, afterMonths, afterWeeks, stop, legs, -, -, -, -,
    hitinerary, by', bm, bw, bd⟩ := exists_legs anchor target
    (P := fun _ i => i.Early zone ∧ ¬ i.Passes (anchor.heading target) target.utc)
    (fun _ _ i hi => hi.1.face_inRange)
    (fun _ _ u i j n hu hi leg =>
      ⟨leg.early hz ho hi.1 ht hu hi.2, leg.not_passes hi.2⟩)
    (ht.zone_eq.trans ha.zone_eq.symm) ⟨ha, hp⟩ ht.face_inRange
  generalize anchor.heading target = heading at *
  obtain ⟨-, -, -, hd⟩ := (legs 0).early hz ho ha ht hp
  obtain ⟨k, r, hr, hsplit, hrest⟩ := exists_rest hd.plain ht.plain ((legs 0).not_passes hp)
  have bmonths := hmonths (legs k)
  have bweeks := (legs k).weeks_lt hz ho ha ht hp
  have bdays := (legs k).days_lt hz ho ha ht hp
  have hk : k < 86400000 := by
    have hlt := (legs k).rest_lt hz ho ha ht hp
    rw [hsplit] at hlt
    cases heading <;> simp only [Sign.apply] at hlt <;> omega
  obtain ⟨hdifference, hsmall⟩ := difference_of_itinerary hitinerary hrest by' bm bw bd (by omega)
  rw [Difference.ofParts_self] at hdifference
  have htotal : Difference.totalMillis (countOf years months weeks days k) = k := by
    simp [Difference.totalMillis, countOf]
  obtain ⟨reached, hrestpassage, hreached⟩ :=
    hd.exists_rest_elapsed (countOf years months weeks days k) hb ht (htotal.symm ▸ hsplit)
  have hpassage := ((legs k).passage hz ho ha ht hp bmonths bdays).mono
    (show (97000000 : Int) ≤ 97000003 by decide) |>.append hrestpassage
  rw [Reading.elapsed_of_not_leap ht.plain hd.plain] at hrest
  exact ⟨_, afterYears, afterMonths, afterWeeks, stop, reached, hdifference,
    (legs k).greedy hz ho ha ht hp bmonths bdays (htotal.symm ▸ hrest),
    Difference.small_ofCounts bmonths bweeks bdays (htotal.symm ▸ hk),
    hpassage.evaluate_chain hsmall, by omega, by omega⟩

/-- Under a fixed offset the difference is greedy. Nothing is left to carry, and its chain leads to
the target but for less than a millisecond. -/
theorem difference_isGreedy (hz : zone.rules = .constant offset)
    (ho : -86400 < offset ∧ offset < 86400) (ha : anchor.Early zone) (ht : target.Early zone)
    (hleap : ¬ IsLeapDay anchor.face.day) :
    ∃ d afterYears afterMonths afterWeeks stop reached,
      anchor.difference target = .ok d ∧
      Greedy anchor target (anchor.heading target) d afterYears afterMonths afterWeeks stop ∧
      d.Small ∧ evaluate anchor d.chain = .ok reached ∧
      0 ≤ (anchor.heading target).apply 1 * (target.utc.nanos - reached.utc.nanos) ∧
      (anchor.heading target).apply 1 * (target.utc.nanos - reached.utc.nanos) < 1000000 :=
  exists_greedy hz ho ha ht fun legs =>
    legs.months_lt hz ho ha ht (not_passes_heading anchor target) hleap

/-- Two years and seven months back, from the end of a month over shorter ones. -/
theorem difference_back_from_month_end :
    ∃ zone anchor target, Zone.ofText "-08:00" = .ok zone ∧
      zone.read "2024-08-31T12:00:00.0005" = .ok anchor ∧
      zone.read "2022-01-30T23:15" = .ok target ∧
      ∃ d afterYears afterMonths afterWeeks stop reached,
        anchor.difference target = .ok d ∧
        Greedy anchor target (anchor.heading target) d afterYears afterMonths afterWeeks stop ∧
        d.Small ∧ evaluate anchor d.chain = .ok reached ∧
        0 ≤ (anchor.heading target).apply 1 * (target.utc.nanos - reached.utc.nanos) ∧
        (anchor.heading target).apply 1 * (target.utc.nanos - reached.utc.nanos) < 1000000 := by
  have hanchor : (Zone.fixed ⟨-28800, by decide, by decide⟩).read "2024-08-31T12:00:00.0005" =
      .ok ⟨⟨1725134400000500000, false⟩, .fixed ⟨-28800, by decide, by decide⟩, by decide⟩ := by
    decide +kernel
  have htarget : (Zone.fixed ⟨-28800, by decide, by decide⟩).read "2022-01-30T23:15" =
      .ok ⟨⟨1643613300000000000, false⟩, .fixed ⟨-28800, by decide, by decide⟩, by decide⟩ := by
    decide +kernel
  exact ⟨_, _, _, by decide +kernel, hanchor, htarget,
    difference_isGreedy rfl ⟨by decide, by decide⟩
      ⟨rfl, rfl, by decide, by decide⟩ ⟨rfl, rfl, by decide, by decide⟩ (by decide)⟩

end Instant

end RelativeTime

import RelativeTime.Proofs.Passage
import RelativeTime.Proofs.Zone.Ends

/-! The direction of a difference. No leg of the walk passes the target, whatever the clock does on
the way, so that all counts and what remains after them go one way: from the anchor to the
target. -/
namespace RelativeTime

open Calendar

theorem Sign.ofInt_apply {s : Sign} {n : Nat} (hn : n ≠ 0) : ofInt (s.apply n) = s := by
  cases s with
  | plus => exact if_neg (by simp only [apply]; omega)
  | minus => exact if_pos (by simp only [apply]; omega)

namespace Difference

def Directed (d : Difference) (heading : Sign) : Prop :=
  ∀ u, d.get u = heading.apply (d.get u).natAbs

variable {d : Difference} {heading : Sign} {count : TimeUnit → Nat}

theorem directed_ofCounts (heading : Sign) (count : TimeUnit → Nat) :
    (ofCounts heading count).Directed heading := by
  intro u
  rw [get_ofCounts, Sign.natAbs_apply]

theorem Directed.nonneg (h : d.Directed .plus) (u : TimeUnit) : 0 ≤ d.get u := by
  rw [h u]
  exact Int.natCast_nonneg _

theorem Directed.nonpos (h : d.Directed .minus) (u : TimeUnit) : d.get u ≤ 0 := by
  rw [h u]
  exact Int.neg_nonpos_of_nonneg (Int.natCast_nonneg _)

theorem Directed.sign_of_mem_chain (h : d.Directed heading) {t : Token} (ht : t ∈ d.chain) :
    ∃ delta, t = .delta delta ∧ delta.sign = heading := by
  obtain ⟨u, hu, rfl⟩ := List.mem_map.mp ht
  have hne : (d.get u).natAbs ≠ 0 := by
    have hnonzero : d.get u ≠ 0 := of_decide_eq_true (List.mem_filter.mp hu).2
    omega
  refine ⟨_, rfl, ?_⟩
  have hsign : Sign.ofInt (d.get u) = heading := by
    rw [h u]
    exact Sign.ofInt_apply hne
  exact hsign

theorem totals_of_carried (h : ∀ u, carried count u = 0) :
    totalMonths count = 0 ∧ totalDays count = 0 ∧ totalMillis count = 0 := by
  have hyears := h .years
  have hmonths := h .months
  have hweeks := h .weeks
  have hdays := h .days
  have hhours := h .hours
  have hminutes := h .minutes
  have hseconds := h .seconds
  have hmillis := h .milliseconds
  simp only [carried] at hyears hmonths hweeks hdays hhours hminutes hseconds hmillis
  omega

end Difference

namespace Instant

variable {i j goal anchor target stop : Instant} {u : TimeUnit} {heading : Sign} {n : Int}
  {most count : Nat} {d : Difference}

theorem dated_of_plus (hu : u.MovesDate) (h : i.plus u n = .ok j) :
    ∃ wall : Reading, wall.InRange ∧ wall.leap = i.utc.leap ∧ i.zone.resolve wall = .ok j := by
  refine ⟨i.face.onDay (u.stride.move i.face.day n), ?_, rfl, (resolve_of_plus hu h).2⟩
  rw [Reading.InRange, Reading.onDay_day]
  exact dayInRange_of_plus hu h

/-! ### One leg -/

theorem Leg.zone_eq {target : Reading} (h : i.Leg u heading target most count j) :
    j.zone = i.zone := by
  by_cases hc : count = 0
  · rw [h.stays hc]
  · exact (move_of_plus (h.moves hc)).zone_eq

theorem Leg.plain (hl : i.utc.leap = false) {target : Reading}
    (h : i.Leg u heading target most count j) : j.utc.leap = false := by
  by_cases hc : count = 0
  · rw [h.stays hc]
    exact hl
  · exact (move_of_plus (h.moves hc)).plain hl

/-- Where the clock is settled, a leg ends where the wall clock is dated. -/
theorem Leg.dated (hs : i.zone.rules.Settled) (hu : u.MovesDate) (hl : i.utc.leap = false)
    (hi : i.face.InRange) {target : Reading} (h : i.Leg u heading target most count j) :
    j.face.InRange := by
  by_cases hc : count = 0
  · rw [h.stays hc]
    exact hi
  · obtain ⟨wall, hwall, hleap, hresolve⟩ := dated_of_plus hu (h.moves hc)
    exact Zone.face_inRange_of_resolve hs hwall (hleap.trans hl) hresolve

theorem leg_of_walk (h : i.walk u heading goal = .ok (n, j)) :
    i.face.InRange ∧ goal.face.InRange ∧ ∃ count : Nat, n = heading.apply count ∧
      i.Leg u heading goal.utc (i.most u heading goal) count j := by
  have hfaces := h
  obtain ⟨wall, hwall, hfaces⟩ := Answer.bind_eq_ok.mp hfaces
  obtain ⟨goalWall, hgoal, -⟩ := Answer.bind_eq_ok.mp hfaces
  obtain ⟨hi, -⟩ := inRange_of_wall hwall
  obtain ⟨hg, -⟩ := inRange_of_wall hgoal
  refine ⟨hi, hg, ?_⟩
  obtain ⟨count, reached, hwalk, hleg⟩ := i.walk_leg hi hg heading (u := u)
  obtain ⟨rfl, rfl⟩ := Prod.mk.inj (Except.ok.inj (h.symm.trans hwalk))
  exact ⟨count, rfl, hleg⟩

theorem unshowable_of_walk (hg : goal.face.InRange) {e : Failure}
    (h : i.walk u heading goal = .error e) : e = .unshowable := by
  by_cases hi : i.face.InRange
  · obtain ⟨_, _, hwalk, -⟩ := i.walk_leg hi hg heading (u := u)
    rw [hwalk] at h
    cases h
  · rcases Answer.bind_eq_error.mp h with h | ⟨wall, hwall, -⟩
    · exact (wall_eq_error_iff.mp h).1
    · exact absurd (inRange_of_wall hwall).1 hi

/-! ### All legs -/

theorem legs_of_itinerary (hz : target.zone = anchor.zone) {raw : Difference}
    (h : anchor.itinerary target = .ok (raw, stop)) :
    ∃ years months weeks days afterYears afterMonths afterWeeks,
      (∀ k, Legs anchor target (anchor.heading target) (countOf years months weeks days k)
        afterYears afterMonths afterWeeks stop) ∧
      raw = .ofCounts (anchor.heading target) (countOf years months weeks days 0) ∧
      years < 0x100000000 ∧ months < 0x100000000 ∧ weeks < 0x100000000 ∧ days < 0x100000000 := by
  simp only [itinerary, inZone_of_eq hz] at h
  obtain ⟨⟨_, afterYears⟩, hyears, h⟩ := Answer.bind_eq_ok.mp h
  obtain ⟨⟨_, afterMonths⟩, hmonths, h⟩ := Answer.bind_eq_ok.mp h
  obtain ⟨⟨_, afterWeeks⟩, hweeks, h⟩ := Answer.bind_eq_ok.mp h
  obtain ⟨⟨_, afterDays⟩, hdays, h⟩ := Answer.bind_eq_ok.mp h
  obtain ⟨rfl, rfl⟩ := Prod.mk.inj (Except.ok.inj h)
  obtain ⟨ia, it, years, rfl, legy⟩ := leg_of_walk hyears
  obtain ⟨iy, -, months, rfl, legm⟩ := leg_of_walk hmonths
  obtain ⟨im, -, weeks, rfl, legw⟩ := leg_of_walk hweeks
  obtain ⟨iw, -, days, rfl, legd⟩ := leg_of_walk hdays
  refine ⟨years, months, weeks, days, afterYears, afterMonths, afterWeeks,
    fun _ => ⟨legy, legm, legw, legd⟩, ?_, ?_, ?_, ?_, ?_⟩
  · simp only [Difference.ofCounts, countOf, Sign.apply_zero]
  · exact Nat.lt_of_le_of_lt legy.count_le (most_lt (by decide) ia it)
  · exact Nat.lt_of_le_of_lt legm.count_le (most_lt (by decide) iy it)
  · exact Nat.lt_of_le_of_lt legw.count_le (most_lt (by decide) im it)
  · exact Nat.lt_of_le_of_lt legd.count_le (most_lt (by decide) iw it)

variable {counts : TimeUnit → Nat} {afterYears afterMonths afterWeeks : Instant}

theorem Legs.plain (ha : anchor.utc.leap = false)
    (h : Legs anchor target heading counts afterYears afterMonths afterWeeks stop) :
    stop.utc.leap = false := by
  have hy := h.years.plain ha
  have hm := h.months.plain hy
  have hw := h.weeks.plain hm
  exact h.days.plain hw

theorem Legs.stays (h : Legs anchor target heading counts afterYears afterMonths afterWeeks stop)
    (hmonths : Difference.totalMonths counts = 0) (hdays : Difference.totalDays counts = 0) :
    stop = anchor := by
  unfold Difference.totalMonths at hmonths
  unfold Difference.totalDays at hdays
  rw [h.days.stays (by omega), h.weeks.stays (by omega), h.months.stays (by omega),
    h.years.stays (by omega)]

theorem directed_of_difference (hz : target.zone = anchor.zone) (hal : anchor.utc.leap = false)
    (htl : target.utc.leap = false) (h : anchor.difference target = .ok d) :
    d.Directed (anchor.heading target) ∧
      ((∀ u, d.get u = 0) → (target.utc.nanos - anchor.utc.nanos).natAbs < 1000000) := by
  have hitinerary := h
  rw [difference_eq] at hitinerary
  cases hi : anchor.itinerary target with
  | error e =>
    rw [hi] at hitinerary
    cases hitinerary
  | ok route =>
    obtain ⟨raw, stop⟩ := route
    obtain ⟨years, months, weeks, days, afterYears, afterMonths, afterWeeks, legs, rfl, hy, hm, hw,
      hd⟩ := legs_of_itinerary hz hi
    have hp := (legs 0).not_passes (not_passes_heading anchor target)
    obtain ⟨k, r, hr, hsplit, hrest⟩ := exists_rest ((legs 0).plain hal) htl hp
    have hk : k < 0x8000000000000000 := by
      have hstop := stop.inRange
      have htarget := target.inRange
      simp only [Reading.InRange, DayInRange, Reading.day, firstDay_eq, lastDay_eq]
        at hstop htarget
      revert hsplit
      cases anchor.heading target <;> simp only [Sign.apply] <;> omega
    have hdifference := (difference_of_itinerary hi hrest hy hm hw hd hk).1
    rw [Difference.ofParts_self] at hdifference
    obtain rfl := Except.ok.inj (h.symm.trans hdifference)
    refine ⟨Difference.directed_ofCounts _ _, ?_⟩
    intro hzero
    obtain ⟨hmonths, hdays, hmillis⟩ := Difference.totals_of_carried fun u =>
      Sign.apply_eq_zero_iff.mp ((Difference.get_ofCounts _ _ u).symm.trans (hzero u))
    have hstay := (legs k).stays hmonths hdays
    have hnone : k = 0 := by
      simp only [Difference.totalMillis, countOf] at hmillis
      omega
    rw [hstay, hnone] at hsplit
    revert hsplit
    cases anchor.heading target <;> simp only [Sign.apply] <;> omega

/-- Where the clock is settled, a difference is always found. -/
theorem exists_difference_of_settled (hs : anchor.zone.rules.Settled)
    (hal : anchor.utc.leap = false) (ha : anchor.face.InRange)
    (ht : (target.inZone anchor.zone).face.InRange) : ∃ d, anchor.difference target = .ok d := by
  obtain ⟨_, _, _, _, _, _, _, _, -, -, -, -, -, hitinerary, -⟩ :=
    exists_legs anchor (target.inZone anchor.zone)
    (P := fun _ i => i.zone = anchor.zone ∧ i.utc.leap = false ∧ i.face.InRange)
    (fun _ _ i hi => hi.2.2)
    (fun _ _ u i j n hu hi leg => by
      obtain ⟨zi, li, di⟩ := hi
      exact ⟨leg.zone_eq.trans zi, leg.plain li, leg.dated (zi ▸ hs) hu li di⟩)
    rfl ⟨rfl, hal, ha⟩ ht
  have hdifference := difference_eq anchor (target.inZone anchor.zone)
  rw [hitinerary] at hdifference
  exact ⟨_, hdifference⟩

/-- So it is in every zone that can be asked for. -/
theorem exists_difference_of_known [Zone.Names] [Zone.Names.Lawful] (h : anchor.zone.Known)
    (hal : anchor.utc.leap = false) (ha : anchor.face.InRange)
    (ht : (target.inZone anchor.zone).face.InRange) : ∃ d, anchor.difference target = .ok d :=
  exists_difference_of_settled h.settled hal ha ht

theorem unshowable_of_difference (hz : target.zone = anchor.zone) (ht : target.face.InRange)
    {e : Failure} (h : anchor.difference target = .error e) : e = .unshowable := by
  simp only [difference, inZone_of_eq hz] at h
  rcases Answer.bind_eq_error.mp h with h | ⟨_, -, h⟩
  · exact unshowable_of_walk ht h
  rcases Answer.bind_eq_error.mp h with h | ⟨_, -, h⟩
  · exact unshowable_of_walk ht h
  rcases Answer.bind_eq_error.mp h with h | ⟨_, -, h⟩
  · exact unshowable_of_walk ht h
  rcases Answer.bind_eq_error.mp h with h | ⟨_, -, h⟩
  · exact unshowable_of_walk ht h
  · cases h

/-- All parts of a difference go one way, forward to a target that is not earlier and back to one
that is, and so do the tokens of its chain; where all parts are nothing, the target is less than a
millisecond away. This holds for whatever changes of the clock. Only a clock that is changed
within days of an end of the calendar can keep a difference from being found. -/
theorem difference_one_way (anchor target : Instant) (hal : anchor.utc.leap = false)
    (htl : target.utc.leap = false) (ha : anchor.face.InRange)
    (ht : (target.inZone anchor.zone).face.InRange) :
    (∃ d, anchor.difference target = .ok d ∧
      (¬ target.utc < anchor.utc → ∀ u, 0 ≤ d.get u) ∧
      (target.utc < anchor.utc → ∀ u, d.get u ≤ 0) ∧
      ((∀ u, d.get u = 0) → (target.utc.nanos - anchor.utc.nanos).natAbs < 1000000) ∧
      ∀ t ∈ d.chain, ∃ delta, t = .delta delta ∧ delta.sign = anchor.heading target) ∨
    anchor.difference target = .error .unshowable ∧ ¬ anchor.zone.rules.Settled := by
  have hz : (target.inZone anchor.zone).zone = anchor.zone := rfl
  have hgoal : anchor.difference target = anchor.difference (target.inZone anchor.zone) := rfl
  have hheading : anchor.heading (target.inZone anchor.zone) = anchor.heading target := rfl
  cases hd : anchor.difference target with
  | ok d =>
    obtain ⟨hdirected, hzero⟩ := directed_of_difference hz hal htl (hgoal.symm.trans hd)
    rw [hheading] at hdirected
    refine .inl ⟨d, rfl, ?_, ?_, hzero, fun t => hdirected.sign_of_mem_chain⟩
    · intro hlater
      rw [heading, if_neg hlater] at hdirected
      exact hdirected.nonneg
    · intro hearlier
      rw [heading, if_pos hearlier] at hdirected
      exact hdirected.nonpos
  | error e =>
    obtain rfl := unshowable_of_difference hz ht (hgoal.symm.trans hd)
    refine .inr ⟨rfl, ?_⟩
    intro hs
    obtain ⟨d, hfound⟩ := exists_difference_of_settled hs hal ha ht
    rw [hd] at hfound
    cases hfound

/-- Two years back, from an hour that the clock skips on the way. -/
theorem difference_one_way_across_gap :
    ∃ zone anchor target, Zone.ofText "America/Chicago" = .ok zone ∧
      zone.read "2024-03-12T02:30:00-05:00" = .ok anchor ∧
      zone.read "2022-03-12T03:00:00-06:00" = .ok target ∧ target.utc < anchor.utc ∧
      ∃ d, anchor.difference target = .ok d ∧ (∀ u, d.get u ≤ 0) ∧ (∃ u, d.get u ≠ 0) ∧
        ∀ t ∈ d.chain, ∃ delta, t = .delta delta ∧ delta.sign = .minus := by
  let zone : Zone := .named "America/Chicago" Zone.Table.chicago
  let anchor : Instant := ⟨⟨1710228600000000000, false⟩, zone, by decide⟩
  let target : Instant := ⟨⟨1647075600000000000, false⟩, zone, by decide⟩
  have hanchor : zone.read "2024-03-12T02:30:00-05:00" = .ok anchor := by decide +kernel
  have htarget : zone.read "2022-03-12T03:00:00-06:00" = .ok target := by decide +kernel
  have hsettled : zone.rules.Settled := by decide +kernel
  obtain ⟨d, hd, -, hback, hnothing, hchain⟩ :=
    (difference_one_way anchor target rfl rfl (by decide +kernel) (by decide +kernel)).resolve_right
      fun h => h.2 hsettled
  have hnonzero : ¬ ∀ u, d.get u = 0 := fun hzero => absurd (hnothing hzero) (by decide)
  exact ⟨zone, anchor, target, by decide +kernel, hanchor, htarget, by decide, d, hd,
    hback (by decide), not_forall.mp hnonzero, hchain⟩

/-- A clock set forward by twenty hours on the last day of the calendar, and back before its end. A
week leads into the gap, and from there on the wall clock has no date. -/
example :
    let zone : Zone := .named "" { initial := 0
                                   changes := [⟨8210266804800, 72000⟩, ⟨8210266875000, -72000⟩] }
    let anchor : Instant := ⟨⟨8210266268400000000000, false⟩, zone, by decide⟩
    let target : Instant := ⟨⟨8210266876200000000000, false⟩, zone, by decide⟩
    anchor.face.InRange ∧ target.face.InRange ∧
      anchor.difference target = .error .unshowable := by
  decide +kernel

end Instant

end RelativeTime

import RelativeTime.Proofs.Walk

/-! The four legs of a difference together, and what normalizing makes of their counts.

All counts of a difference go one way, so it is a direction with natural numbers. Normalizing
carries months into years and days into weeks as if the legs could be reordered. -/
namespace RelativeTime

open Calendar

namespace Difference

def ofCounts (heading : Sign) (count : TimeUnit → Nat) : Difference where
  years := heading.apply (count .years)
  months := heading.apply (count .months)
  weeks := heading.apply (count .weeks)
  days := heading.apply (count .days)
  hours := heading.apply (count .hours)
  minutes := heading.apply (count .minutes)
  seconds := heading.apply (count .seconds)
  milliseconds := heading.apply (count .milliseconds)

@[simp] theorem get_ofCounts (heading : Sign) (count : TimeUnit → Nat) (u : TimeUnit) :
    (ofCounts heading count).get u = heading.apply (count u) := by
  cases u <;> rfl

def totalMonths (count : TimeUnit → Nat) : Nat := count .years * 12 + count .months

def totalDays (count : TimeUnit → Nat) : Nat := count .weeks * 7 + count .days

def totalMillis (count : TimeUnit → Nat) : Nat :=
  ((count .hours * 60 + count .minutes) * 60 + count .seconds) * 1000 + count .milliseconds

def carried (count : TimeUnit → Nat) : TimeUnit → Nat
  | .years => totalMonths count / 12
  | .months => totalMonths count % 12
  | .weeks => totalDays count / 7
  | .days => totalDays count % 7
  | .hours => totalMillis count / 3600000
  | .minutes => totalMillis count % 3600000 / 60000
  | .seconds => totalMillis count % 60000 / 1000
  | .milliseconds => totalMillis count % 1000

theorem word_of_small {n : Int} (h : n.natAbs < 0x8000000000000000) : word n = n :=
  Int.bmod_eq_of_le_mul_two (by omega) (by omega)

theorem tdiv_apply (heading : Sign) (n k : Nat) :
    (heading.apply n).tdiv k = heading.apply (n / k) := by
  cases heading
  · rfl
  · exact Int.neg_tdiv n k

theorem tmod_apply (heading : Sign) (n k : Nat) :
    (heading.apply n).tmod k = heading.apply (n % k) := by
  cases heading
  · rfl
  · exact Int.neg_tmod n k

theorem apply_carried_elapsed (rest : Sign) (count : TimeUnit → Nat) :
    rest.apply (carried count .hours) = (rest.apply (totalMillis count)).tdiv 3600000 ∧
      rest.apply (carried count .minutes) =
        ((rest.apply (totalMillis count)).tmod 3600000).tdiv 60000 ∧
      rest.apply (carried count .seconds) =
        ((rest.apply (totalMillis count)).tmod 60000).tdiv 1000 ∧
      rest.apply (carried count .milliseconds) = (rest.apply (totalMillis count)).tmod 1000 := by
  -- The divisors are casts of natural numbers.
  refine ⟨(tdiv_apply rest _ 3600000).symm, ?_, ?_, (tmod_apply rest _ 1000).symm⟩
  · rw [carried, ← tdiv_apply rest _ 60000, ← tmod_apply rest _ 3600000]
    rfl
  · rw [carried, ← tdiv_apply rest _ 1000, ← tmod_apply rest _ 60000]
    rfl

/-- Dates in one direction, and what remains beside them in another. -/
def ofParts (heading rest : Sign) (count : TimeUnit → Nat) : Difference :=
  { ofCounts heading count with
    hours := rest.apply (count .hours)
    minutes := rest.apply (count .minutes)
    seconds := rest.apply (count .seconds)
    milliseconds := rest.apply (count .milliseconds) }

theorem ofParts_self (heading : Sign) (count : TimeUnit → Nat) :
    ofParts heading heading count = ofCounts heading count := rfl

theorem normalize_ofParts (heading rest : Sign) {count : TimeUnit → Nat}
    (hmonths : totalMonths count < 0x8000000000000000)
    (hdays : totalDays count < 0x8000000000000000)
    (hmillis : totalMillis count < 0x8000000000000000) :
    (ofParts heading rest count).normalize = ofParts heading rest (carried count) := by
  have hm : heading.apply (count .years) * 12 + heading.apply (count .months) =
      heading.apply (totalMonths count) := by
    cases heading <;> simp only [Sign.apply, totalMonths] <;> omega
  have hd : heading.apply (count .weeks) * 7 + heading.apply (count .days) =
      heading.apply (totalDays count) := by
    cases heading <;> simp only [Sign.apply, totalDays] <;> omega
  have hs : ((rest.apply (count .hours) * 60 + rest.apply (count .minutes)) * 60 +
      rest.apply (count .seconds)) * 1000 + rest.apply (count .milliseconds) =
      rest.apply (totalMillis count) := by
    cases rest <;> simp only [Sign.apply, totalMillis] <;> omega
  unfold normalize
  simp only [ofParts, ofCounts, hm, hd, hs]
  rw [word_of_small (by simpa using hmonths), word_of_small (by simpa using hdays),
    word_of_small (by simpa using hmillis)]
  obtain ⟨hhours, hminutes, hseconds, hmilliseconds⟩ := apply_carried_elapsed rest count
  rw [hhours, hminutes, hseconds, hmilliseconds]
  simp only [carried, mk.injEq, and_true]
  exact ⟨tdiv_apply heading _ 12, tmod_apply heading _ 12, tdiv_apply heading _ 7,
    tmod_apply heading _ 7⟩

theorem carried_lt {count : TimeUnit → Nat} (hmonths : totalMonths count < 0x8000000000000000)
    (hdays : totalDays count < 0x8000000000000000)
    (hmillis : totalMillis count < 0x8000000000000000) (u : TimeUnit) :
    carried count u < 0x8000000000000000 := by
  cases u <;> simp only [carried] <;> omega

theorem carried_date {count : TimeUnit → Nat} (hmonths : count .months < 12)
    (hdays : count .days < 7) :
    carried count .years = count .years ∧ carried count .months = count .months ∧
      carried count .weeks = count .weeks ∧ carried count .days = count .days := by
  simp only [carried, totalMonths, totalDays]
  omega

def Carries (d : Difference) : Prop := 12 ≤ d.months.natAbs ∨ 7 ≤ d.days.natAbs

instance (d : Difference) : Decidable d.Carries := inferInstanceAs (Decidable (_ ∨ _))

end Difference

namespace Instant

def heading (anchor target : Instant) : Sign := if target.utc < anchor.utc then .minus else .plus

def itinerary (anchor target : Instant) : Answer (Difference × Instant) := do
  let goal := target.inZone anchor.zone
  let heading := anchor.heading target
  let (years, i) ← anchor.walk .years heading goal
  let (months, i) ← i.walk .months heading goal
  let (weeks, i) ← i.walk .weeks heading goal
  let (days, i) ← i.walk .days heading goal
  let raw : Difference :=
    { years, months, weeks, days, hours := 0, minutes := 0, seconds := 0, milliseconds := 0 }
  return (raw, i)

theorem difference_eq (anchor target : Instant) : anchor.difference target =
    (anchor.itinerary target).map fun (raw, stop) =>
      { raw with milliseconds := (target.utc.elapsed stop.utc).tdiv 1000000 }.normalize := by
  change _ = _ <$> anchor.itinerary target
  simp only [itinerary, map_bind]
  rfl

structure Route (anchor target : Instant) (heading : Sign) (count : TimeUnit → Nat)
    (afterYears afterMonths afterWeeks stop : Instant) : Prop where
  years : anchor.Leg .years heading target.utc (anchor.most .years heading target)
    (count .years) afterYears
  months : afterYears.Leg .months heading target.utc (afterYears.most .months heading target)
    (count .months) afterMonths
  weeks : afterMonths.Leg .weeks heading target.utc (afterMonths.most .weeks heading target)
    (count .weeks) afterWeeks
  days : afterWeeks.Leg .days heading target.utc (afterWeeks.most .days heading target)
    (count .days) stop
  subday : count .hours = 0 ∧ count .minutes = 0 ∧ count .seconds = 0
  rest : target.utc.nanos = stop.utc.nanos + heading.apply (count .milliseconds) * 1000000

variable {anchor target afterYears afterMonths afterWeeks stop : Instant} {zone : Zone} {b : Int}
  {heading : Sign} {count : TimeUnit → Nat}

theorem not_passes_heading (anchor target : Instant) :
    ¬ anchor.Passes (anchor.heading target) target.utc := by
  unfold Instant.heading
  split <;> rename_i h
  · exact Reading.lt_asymm h
  · exact h

def countOf (years months weeks days milliseconds : Nat) : TimeUnit → Nat
  | .years => years
  | .months => months
  | .weeks => weeks
  | .days => days
  | .milliseconds => milliseconds
  | _ => 0

theorem most_lt {i goal : Instant} {u : TimeUnit} (hu : u.MovesDate) (hi : i.face.InRange)
    (hg : goal.face.InRange) : i.most u heading goal < 0x100000000 := by
  have him := day_near_month i.face.day
  have hgm := day_near_month goal.face.day
  simp only [Reading.InRange, DayInRange, firstDay_eq, lastDay_eq] at hi hg
  rcases hu with rfl | rfl | rfl | rfl
  · rw [most_days (c := 1) rfl]
    cases heading <;> simp only [Sign.apply] <;> omega
  · rw [most_days (c := 7) rfl]
    cases heading <;> simp only [Sign.apply] <;> omega
  all_goals
    cases heading <;> simp only [most, TimeUnit.stride, unitsBetween, Sign.apply] <;> omega

theorem inZone_of_eq {i : Instant} (h : i.zone = zone) : i.inZone zone = i := by
  subst h
  rfl

structure Legs (anchor target : Instant) (heading : Sign) (count : TimeUnit → Nat)
    (afterYears afterMonths afterWeeks stop : Instant) : Prop where
  years : anchor.Leg .years heading target.utc (anchor.most .years heading target)
    (count .years) afterYears
  months : afterYears.Leg .months heading target.utc (afterYears.most .months heading target)
    (count .months) afterMonths
  weeks : afterMonths.Leg .weeks heading target.utc (afterMonths.most .weeks heading target)
    (count .weeks) afterWeeks
  days : afterWeeks.Leg .days heading target.utc (afterWeeks.most .days heading target)
    (count .days) stop

theorem Route.legs
    (h : Route anchor target heading count afterYears afterMonths afterWeeks stop) :
    Legs anchor target heading count afterYears afterMonths afterWeeks stop :=
  ⟨h.years, h.months, h.weeks, h.days⟩

theorem Legs.inner (hb : zone.rules.Bounded) (ha : anchor.Inner zone b) (ht : target.Inner zone b)
    (hp : ¬ anchor.Passes heading target.utc)
    (h : Legs anchor target heading count afterYears afterMonths afterWeeks stop) :
    afterYears.Inner zone (b + 2) ∧ afterMonths.Inner zone (b + 4) ∧
      afterWeeks.Inner zone (b + 6) ∧ stop.Inner zone (b + 8) := by
  have hy := h.years.inner hb (by decide) ha ht hp
  have py := h.years.not_passes hp
  have hm := h.months.inner hb (by decide) hy (ht.mono (by omega)) py
  have pm := h.months.not_passes py
  have hw := h.weeks.inner hb (by decide) hm (ht.mono (by omega)) pm
  have pw := h.weeks.not_passes pm
  have hd := h.days.inner hb (by decide) hw (ht.mono (by omega)) pw
  exact ⟨hy, hm.mono (by omega), hw.mono (by omega), hd.mono (by omega)⟩

theorem Legs.not_passes (hp : ¬ anchor.Passes heading target.utc)
    (h : Legs anchor target heading count afterYears afterMonths afterWeeks stop) :
    ¬ stop.Passes heading target.utc :=
  h.days.not_passes (h.weeks.not_passes (h.months.not_passes (h.years.not_passes hp)))

theorem Legs.subsecond (hb : zone.rules.Bounded) (ha : anchor.Inner zone b)
    (ht : target.Inner zone b) (hp : ¬ anchor.Passes heading target.utc)
    (h : Legs anchor target heading count afterYears afterMonths afterWeeks stop) :
    (stop.utc.nanos - anchor.utc.nanos) % 1000000000 = 0 := by
  obtain ⟨iy, im, iw, -⟩ := h.inner hb ha ht hp
  have hy := (h.years.near hb (by decide) ha).subsecond
  have hm := (h.months.near hb (by decide) iy).subsecond
  have hw := (h.weeks.near hb (by decide) im).subsecond
  have hd := (h.days.near hb (by decide) iw).subsecond
  omega

theorem Route.inner (hb : zone.rules.Bounded) (ha : anchor.Inner zone b) (ht : target.Inner zone b)
    (hp : ¬ anchor.Passes heading target.utc)
    (h : Route anchor target heading count afterYears afterMonths afterWeeks stop) :
    afterYears.Inner zone (b + 2) ∧ afterMonths.Inner zone (b + 4) ∧
      afterWeeks.Inner zone (b + 6) ∧ stop.Inner zone (b + 8) :=
  h.legs.inner hb ha ht hp

/-- The walk comes to its end if every leg keeps to where the wall clock can be dated. -/
theorem exists_legs (anchor target : Instant) {P : Nat → Instant → Prop}
    (hrange : ∀ k < 4, ∀ i, P k i → i.face.InRange)
    (hleg : ∀ k < 4, ∀ (u : TimeUnit) (i j : Instant) (n : Nat), u.MovesDate → P k i →
      i.Leg u (anchor.heading target) target.utc (i.most u (anchor.heading target) target) n j →
      P (k + 1) j)
    (hz : target.zone = anchor.zone) (ha : P 0 anchor) (ht : target.face.InRange) :
    ∃ years months weeks days afterYears afterMonths afterWeeks stop,
      (∀ k, Legs anchor target (anchor.heading target) (countOf years months weeks days k)
        afterYears afterMonths afterWeeks stop) ∧
      P 1 afterYears ∧ P 2 afterMonths ∧ P 3 afterWeeks ∧ P 4 stop ∧
      anchor.itinerary target = .ok (.ofCounts (anchor.heading target)
        (countOf years months weeks days 0), stop) ∧
      years < 0x100000000 ∧ months < 0x100000000 ∧ weeks < 0x100000000 ∧ days < 0x100000000 := by
  generalize hh : anchor.heading target = heading at hleg ⊢
  have step (k : Nat) (hk : k < 4) (u : TimeUnit) (hu : u.MovesDate) (i : Instant) (hi : P k i) :
      ∃ count reached, i.walk u heading target = .ok (heading.apply count, reached) ∧
        i.Leg u heading target.utc (i.most u heading target) count reached ∧
        P (k + 1) reached ∧ count < 0x100000000 := by
    obtain ⟨count, reached, hwalk, leg⟩ := i.walk_leg (hrange k hk i hi) ht heading (u := u)
    exact ⟨count, reached, hwalk, leg, hleg k hk u i reached count hu hi leg,
      Nat.lt_of_le_of_lt leg.count_le (most_lt hu (hrange k hk i hi) ht)⟩
  obtain ⟨years, afterYears, hy, legy, py, by'⟩ := step 0 (by decide) .years (by decide) anchor ha
  obtain ⟨months, afterMonths, hm, legm, pm, bm⟩ :=
    step 1 (by decide) .months (by decide) afterYears py
  obtain ⟨weeks, afterWeeks, hw, legw, pw, bw⟩ :=
    step 2 (by decide) .weeks (by decide) afterMonths pm
  obtain ⟨days, stop, hd, legd, pd, bd⟩ := step 3 (by decide) .days (by decide) afterWeeks pw
  refine ⟨years, months, weeks, days, afterYears, afterMonths, afterWeeks, stop,
    fun _ => ⟨legy, legm, legw, legd⟩, py, pm, pw, pd, ?_, by', bm, bw, bd⟩
  simp only [itinerary, inZone_of_eq hz, hh, hy, hm, hw, hd, Answer.bind_ok]
  simp only [Difference.ofCounts, countOf, Sign.apply_zero]
  rfl

theorem difference_of_itinerary {stop : Instant} {rest : Sign} {years months weeks days k : Nat}
    (h : anchor.itinerary target =
      .ok (.ofCounts heading (countOf years months weeks days 0), stop))
    (hrest : (target.utc.elapsed stop.utc).tdiv 1000000 = rest.apply k)
    (hy : years < 0x100000000) (hm : months < 0x100000000) (hw : weeks < 0x100000000)
    (hd : days < 0x100000000) (hk : k < 0x8000000000000000) :
    anchor.difference target =
        .ok (.ofParts heading rest (Difference.carried (countOf years months weeks days k))) ∧
      ∀ u, Difference.carried (countOf years months weeks days k) u < 0x8000000000000000 := by
  have hmonths : Difference.totalMonths (countOf years months weeks days k) <
      0x8000000000000000 := by
    simp only [Difference.totalMonths, countOf]
    omega
  have hdays : Difference.totalDays (countOf years months weeks days k) < 0x8000000000000000 := by
    simp only [Difference.totalDays, countOf]
    omega
  have hmillis : Difference.totalMillis (countOf years months weeks days k) <
      0x8000000000000000 := by
    simp only [Difference.totalMillis, countOf]
    omega
  refine ⟨?_, Difference.carried_lt hmonths hdays hmillis⟩
  rw [difference_eq, h, ← Difference.normalize_ofParts heading rest hmonths hdays hmillis]
  simp only [Except.map, hrest, Difference.ofParts, Difference.ofCounts, countOf, Sign.apply_zero]

theorem exists_rest {stop : Instant} (hs : stop.utc.leap = false) (ht : target.utc.leap = false)
    (hp : ¬ stop.Passes heading target.utc) :
    ∃ k r : Nat, r < 1000000 ∧
      target.utc.nanos = stop.utc.nanos + heading.apply (k * 1000000 + r) ∧
      (target.utc.elapsed stop.utc).tdiv 1000000 = heading.apply k := by
  rw [passes_iff hs ht] at hp
  have hrest : target.utc.nanos - stop.utc.nanos =
      heading.apply (target.utc.nanos - stop.utc.nanos).natAbs := by
    cases heading <;> simp only [Sign.apply] at hp ⊢ <;> omega
  generalize (target.utc.nanos - stop.utc.nanos).natAbs = nanos at hrest
  refine ⟨nanos / 1000000, nanos % 1000000, Nat.mod_lt _ (by decide), ?_, ?_⟩
  · rw [Nat.div_add_mod']
    omega
  · rw [Reading.elapsed_of_not_leap ht hs, hrest]
    exact Difference.tdiv_apply heading nanos 1000000

theorem Inner.exists_legs (hb : zone.rules.Bounded) (hbound : b ≤ 70000000)
    (ha : anchor.Inner zone b) (ht : target.Inner zone b) :
    ∃ years months weeks days afterYears afterMonths afterWeeks stop,
      (∀ k, Legs anchor target (anchor.heading target) (countOf years months weeks days k)
        afterYears afterMonths afterWeeks stop) ∧
      anchor.itinerary target = .ok (.ofCounts (anchor.heading target)
        (countOf years months weeks days 0), stop) ∧
      years < 0x100000000 ∧ months < 0x100000000 ∧ weeks < 0x100000000 ∧ days < 0x100000000 := by
  obtain ⟨years, months, weeks, days, afterYears, afterMonths, afterWeeks, stop, legs, -, -, -, -,
    hitinerary, hcounts⟩ := Instant.exists_legs anchor target
    (P := fun k i => i.Inner zone (b + 2 * k) ∧ ¬ i.Passes (anchor.heading target) target.utc)
    (fun k hk i hi => hi.1.face_inRange (by omega))
    (fun k hk u i j n hu hi leg => by
      obtain ⟨ii, pi⟩ := hi
      have hgoal : target.Inner zone (b + 2 * k) := ht.mono (by omega)
      exact ⟨(leg.inner hb hu ii hgoal pi).mono (by omega), leg.not_passes pi⟩)
    (ht.zone_eq.trans ha.zone_eq.symm) ⟨ha.mono (by simp), not_passes_heading anchor target⟩
    (ht.face_inRange (by omega))
  exact ⟨years, months, weeks, days, afterYears, afterMonths, afterWeeks, stop, legs, hitinerary,
    hcounts⟩

/-- Within the calendar there is always a route, and the difference counts what it counts. -/
theorem exists_route (hb : zone.rules.Bounded) (hbound : b ≤ 70000000)
    (ha : anchor.Inner zone b) (ht : target.Inner zone b)
    (hms : (target.utc.nanos - anchor.utc.nanos) % 1000000 = 0) :
    ∃ count afterYears afterMonths afterWeeks stop,
      Route anchor target (anchor.heading target) count afterYears afterMonths afterWeeks stop ∧
      anchor.itinerary target =
        .ok ({ Difference.ofCounts (anchor.heading target) count with milliseconds := 0 }, stop) ∧
      anchor.difference target =
        .ok (.ofCounts (anchor.heading target) (Difference.carried count)) ∧
      ∀ u, Difference.carried count u < 0x8000000000000000 := by
  obtain ⟨years, months, weeks, days, afterYears, afterMonths, afterWeeks, stop, legs, hitinerary,
    by', bm, bw, bd⟩ := ha.exists_legs hb hbound ht
  have hp := not_passes_heading anchor target
  have istop := ((legs 0).inner hb ha ht hp).2.2.2
  have sstop := (legs 0).subsecond hb ha ht hp
  obtain ⟨k, r, hr, hsplit, hrest⟩ := exists_rest istop.plain ht.plain ((legs 0).not_passes hp)
  have hk : target.utc.nanos = stop.utc.nanos + (anchor.heading target).apply k * 1000000 := by
    revert hsplit
    cases anchor.heading target <;> simp only [Sign.apply] <;> omega
  have hmillis : k < 0x8000000000000000 := by
    have hstop := istop.utc_bounds hb
    have htarget := ht.utc_bounds hb
    revert hk
    cases anchor.heading target <;> simp only [Sign.apply] <;> omega
  obtain ⟨hd, hsmall⟩ := difference_of_itinerary hitinerary hrest by' bm bw bd hmillis
  refine ⟨countOf years months weeks days k, afterYears, afterMonths, afterWeeks, stop,
    ⟨(legs k).years, (legs k).months, (legs k).weeks, (legs k).days, ⟨rfl, rfl, rfl⟩, hk⟩, ?_, hd,
    hsmall⟩
  rw [hitinerary]
  simp only [Difference.ofCounts, countOf, Sign.apply_zero]

end Instant

end RelativeTime

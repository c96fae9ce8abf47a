import RelativeTime.Proofs.Normalization
import RelativeTime.Proofs.Search

/-! What a difference is computed with fits into words of 64 bits: the estimates, the counts, the
milliseconds that remain, and the amounts that all this is normalized to. The calendar is so short
that not even its two ends are too far apart, whatever the clock does between them. -/
namespace RelativeTime

open Calendar MachineWord

namespace MachineWord

variable {n : Int}

theorem long?_of_fits (h : -0x8000000000000000 ≤ n ∧ n ≤ 0x7fffffffffffffff) :
    long? n = some n :=
  between?_eq_some_iff.mpr ⟨rfl, h⟩

theorem isLong_of_natAbs_lt (h : n.natAbs < 0x8000000000000000) : IsLong n := by
  rw [IsLong]
  omega

end MachineWord

/-! ### Sums and products that are checked -/

def daysBetween? (day day' : Int) : Option Int := do
  let seconds ← long? ((day' - day) * 86400)
  return seconds.tdiv 86400

def TimeUnit.estimate? (unit : TimeUnit) (day day' : Int) : Option Int :=
  let date := Date.ofDay day
  let date' := Date.ofDay day'
  match unit with
  | .years => long? (date'.year - date.year)
  | .months => do
    let years ← long? (date'.year - date.year)
    let months ← long? ((← long? (years * 12)) + date'.month)
    long? (months - date.month)
  | .weeks => do return (← daysBetween? day day').tdiv 7
  | _ => daysBetween? day day'

def Reading.millisSince? (a b : Reading) : Option Int := do
  let nanos := a.elapsed b
  let seconds ← long? (nanos.tdiv 1000000000)
  long? ((← long? (seconds * 1000)) + (nanos.tmod 1000000000).tdiv 1000000)

def Difference.total? (d : Difference) : Amount → Option Int
  | .months => do long? ((← long? (d.years * 12)) + d.months)
  | .days => do long? ((← long? (d.weeks * 7)) + d.days)
  | .milliseconds => do
    let minutes ← long? ((← long? (d.hours * 60)) + d.minutes)
    let seconds ← long? ((← long? (minutes * 60)) + d.seconds)
    long? ((← long? (seconds * 1000)) + d.milliseconds)

theorem daysBetween?_eq {day day' : Int} (h : DayInRange day) (h' : DayInRange day') :
    daysBetween? day day' = some (day' - day) := by
  rw [DayInRange, firstDay_eq, lastDay_eq] at h h'
  rw [daysBetween?, long?_of_fits (by omega), Option.bind_eq_bind, Option.bind_some,
    Int.mul_tdiv_cancel _ (by decide)]
  rfl

theorem TimeUnit.estimate?_eq {u : TimeUnit} (hu : u.MovesDate) {day day' : Int}
    (h : DayInRange day) (h' : DayInRange day') :
    u.estimate? day day' = some (unitsBetween u.stride day day') := by
  have hm := dayInRange_iff_month.mp h
  have hm' := dayInRange_iff_month.mp h'
  rcases hu with rfl | rfl | rfl | rfl
  · simp only [estimate?, daysBetween?_eq h h', stride, unitsBetween, Int.tdiv_one]
  · simp only [estimate?, daysBetween?_eq h h', stride, unitsBetween]
    rfl
  · simp only [estimate?, Date.ofDay, stride, unitsBetween, Int.ediv_one]
    simp (disch := omega) only [long?_of_fits, Option.bind_eq_bind, Option.bind_some]
    exact congrArg some (by omega)
  · simp only [estimate?, Date.ofDay, stride, unitsBetween]
    exact long?_of_fits (by omega)

namespace Reading

variable {a b : Reading}

theorem millisSince?_eq (ha : a.InRange) (hb : b.InRange) :
    a.millisSince? b = some ((a.elapsed b).tdiv 1000000) ∧
      ((a.elapsed b).tdiv 1000000).natAbs < 0x100000000000000 := by
  have hbounds := elapsed_bounds a b
  have hnear : (a.elapsed b).natAbs < 0x100000000000000 * 1000000 := by
    simp only [InRange, DayInRange, day, firstDay_eq, lastDay_eq] at ha hb
    omega
  rw [millisSince?]
  clear hbounds
  generalize a.elapsed b = nanos at *
  obtain ⟨s, n, rfl⟩ : ∃ (s : Sign) (n : Nat), nanos = s.apply n :=
    ⟨_, _, (Sign.apply_natAbs nanos).symm⟩
  rw [Sign.natAbs_apply] at hnear
  have hmillis : (s.apply n).tdiv 1000000 = s.apply (n / 1000000) := Difference.tdiv_apply s n _
  have hseconds : (s.apply n).tdiv 1000000000 = s.apply (n / 1000000000) :=
    Difference.tdiv_apply s n _
  have hrest : (s.apply n).tmod 1000000000 = s.apply (n % 1000000000) :=
    Difference.tmod_apply s n _
  have hrest' : (s.apply (n % 1000000000)).tdiv 1000000 = s.apply (n % 1000000000 / 1000000) :=
    Difference.tdiv_apply s _ _
  rw [hmillis, hseconds, hrest, hrest', Sign.natAbs_apply]
  refine ⟨?_, by omega⟩
  cases s <;> simp only [Sign.apply]
  all_goals
    simp (disch := omega) only [long?_of_fits, Option.bind_eq_bind, Option.bind_some]
    exact congrArg some (by omega)

end Reading

namespace Difference

variable {d : Difference}

structure Moderate (d : Difference) : Prop where
  counts : ∀ u, u ≠ .milliseconds → -0x100000000 < d.get u ∧ d.get u < 0x100000000
  milliseconds : -0x1000000000000000 < d.milliseconds ∧ d.milliseconds < 0x1000000000000000

theorem Moderate.total?_eq (h : d.Moderate) (a : Amount) :
    d.total? a = some (d.total a) ∧ IsLong (d.total a) := by
  have hyears := h.counts .years (by decide)
  have hmonths := h.counts .months (by decide)
  have hweeks := h.counts .weeks (by decide)
  have hdays := h.counts .days (by decide)
  have hhours := h.counts .hours (by decide)
  have hminutes := h.counts .minutes (by decide)
  have hseconds := h.counts .seconds (by decide)
  have hmillis := h.milliseconds
  simp only [get] at hyears hmonths hweeks hdays hhours hminutes hseconds
  cases a
  all_goals
    simp only [total?, total, IsLong]
    refine ⟨?_, by omega, by omega⟩
    simp (disch := omega) only [long?_of_fits, Option.bind_eq_bind, Option.bind_some]

end Difference

/-! ### All of a difference -/

namespace Instant

variable {anchor target i stop : Instant} {u : TimeUnit} {us : List TimeUnit} {found : Difference}

theorem Underway.counts_bounds (h : Underway anchor target us found i) (v : TimeUnit) :
    -0x100000000 < found.get v ∧ found.get v < 0x100000000 := by
  induction h with
  | start => cases v <;> decide
  | leg h hwalk ih =>
    obtain ⟨hi, hg, count, rfl, leg⟩ := leg_of_walk hwalk
    have hlt := Nat.lt_of_le_of_lt leg.count_le (most_lt (h.movesDate _ List.mem_cons_self) hi hg)
    rw [Difference.get_put]
    split
    · cases anchor.heading target <;> simp only [Sign.apply] <;> omega
    · exact ih

/-- A leg with a date to start from is a search that ends, and none of its counts goes round. -/
theorem Underway.exists_search (h : Underway anchor target (u :: us) found i)
    (hi : i.face.InRange) (ht : (target.inZone anchor.zone).face.InRange) :
    ∃ estimate tried n reached,
      u.estimate? i.face.day (target.inZone anchor.zone).face.day = some estimate ∧
      i.Search u (anchor.heading target) target.utc ((anchor.heading target).toward estimate)
        tried n reached ∧
      tried.length ≤ estimate.natAbs ∧
      (∀ m ∈ tried, IsLong m ∧ i.plusInWords u m = i.plus u m) ∧
      i.walk u (anchor.heading target) (target.inZone anchor.zone) = .ok (n, reached) := by
  have hu := h.movesDate u List.mem_cons_self
  have hestimate := TimeUnit.estimate?_eq hu hi ht
  obtain ⟨tried, count, reached, hwalk, hfinds⟩ :=
    exists_finds_of_walk (anchor.heading target) hu hi ht
  refine ⟨_, tried, _, reached, hestimate, ?_, ?_, fun m hm => ?_, hwalk⟩
  · rw [Sign.toward_eq]
    exact hfinds.search
  · have hle : i.most u (anchor.heading target) (target.inZone anchor.zone) ≤
        (unitsBetween u.stride i.face.day (target.inZone anchor.zone).face.day).natAbs := by
      rw [most]
      cases anchor.heading target <;> simp only [Sign.apply] <;> omega
    rw [hfinds.length]
    omega
  · have hle := hfinds.tried_le m hm
    have hlt := Nat.lt_of_le_of_lt hle (most_lt hu hi ht)
    exact ⟨isLong_of_natAbs_lt (by omega), plusInWords_eq i u m⟩

theorem Underway.exists_amounts (h : Underway anchor target [] found stop) :
    ∃ rest d, target.utc.millisSince? stop.utc = some rest ∧
      d = { found with milliseconds := rest } ∧
      (∀ a, d.total? a = some (d.total a) ∧ IsLong (d.total a)) ∧
      anchor.difference target = .ok (.ofTotals d.total) := by
  obtain ⟨hrest, hsmall⟩ := Reading.millisSince?_eq target.inRange stop.inRange
  have hmoderate : { found with
      milliseconds := (target.utc.elapsed stop.utc).tdiv 1000000 : Difference }.Moderate := by
    refine ⟨fun u hu => ?_, by simp only; omega⟩
    have hbounds := h.counts_bounds u
    cases u <;> first | exact absurd rfl hu | exact hbounds
  refine ⟨_, _, hrest, rfl, hmoderate.total?_eq, ?_⟩
  rw [h.difference_of_end, Difference.normalize_eq_ofTotals fun a => (hmoderate.total?_eq a).2]

/-- Nothing that a difference is computed with goes round, and no search for a count goes on for
ever. The walk may break off for want of a date, but only where the clock is changed within days
of an end of the calendar, and what was counted before that fits as well. -/
theorem difference_fits_words (hal : anchor.utc.leap = false) (ha : anchor.face.InRange)
    (ht : (target.inZone anchor.zone).face.InRange) :
    (∀ us found i, Underway anchor target us found i → ∀ u, IsLong (found.get u)) ∧
    (∀ u us found i, Underway anchor target (u :: us) found i →
      (∃ estimate tried n reached,
        u.estimate? i.face.day (target.inZone anchor.zone).face.day = some estimate ∧
        i.Search u (anchor.heading target) target.utc ((anchor.heading target).toward estimate)
          tried n reached ∧
        tried.length ≤ estimate.natAbs ∧
        (∀ m ∈ tried, IsLong m ∧ i.plusInWords u m = i.plus u m) ∧
        i.walk u (anchor.heading target) (target.inZone anchor.zone) = .ok (n, reached)) ∨
      ¬ i.face.InRange ∧ anchor.difference target = .error .unshowable ∧
        ¬ anchor.zone.rules.Settled) ∧
    ∀ found stop, Underway anchor target [] found stop →
      ∃ rest d, target.utc.millisSince? stop.utc = some rest ∧
        d = { found with milliseconds := rest } ∧
        (∀ a, d.total? a = some (d.total a) ∧ IsLong (d.total a)) ∧
        anchor.difference target = .ok (.ofTotals d.total) := by
  refine ⟨fun us found i h u => ?_, fun u us found i h => ?_, fun found stop h => h.exists_amounts⟩
  · have hbounds := h.counts_bounds u
    exact isLong_of_natAbs_lt (by omega)
  · by_cases hi : i.face.InRange
    · exact .inl (h.exists_search hi ht)
    · have hbroken := h.unshowable hi
      refine .inr ⟨hi, hbroken, fun hs => ?_⟩
      obtain ⟨d, hd⟩ := exists_difference_of_settled hs hal ha ht
      exact absurd (hd.symm.trans hbroken) nofun

/-- From the first midnight of the calendar to its last day, on a clock that is changed. No months
lead into the last one, so one is taken less than estimated, and more than four weeks follow. -/
theorem difference_fits_words_over_calendar :
    ∃ zone anchor target stop, Zone.ofText "America/Chicago" = .ok zone ∧ anchor.zone = zone ∧
      anchor.utc.leap = false ∧ anchor.face = ⟨firstDay * 86400000000000, false⟩ ∧
      (target.inZone zone).face.day = lastDay ∧
      Underway anchor target [] ⟨524285, 10, 8, 4, 0, 0, 0, 0⟩ stop ∧
      (∀ u, IsLong ((⟨524285, 10, 8, 4, 0, 0, 0, 0⟩ : Difference).get u)) ∧
      (∃ tried n reached, anchor.Search .years .plus target.utc 524285 tried n reached ∧
        tried.length ≤ 524285) ∧
      target.utc.millisSince? stop.utc = some 64799999 ∧
      anchor.difference target = .ok ⟨524285, 10, 8, 4, 17, 59, 59, 999⟩ := by
  let zone : Zone := .named "America/Chicago" Zone.Table.chicago
  let anchor : Instant := ⟨⟨-8334601207764000000000, false⟩, zone, by decide⟩
  let target : Instant := ⟨⟨8210266876799999999999, false⟩, .fixed .utc, by decide⟩
  let yearsOn : Instant := ⟨⟨8210235362400000000000, false⟩, zone, by decide⟩
  let monthsOn : Instant := ⟨⟨8210261628000000000000, false⟩, zone, by decide⟩
  let weeksOn : Instant := ⟨⟨8210266466400000000000, false⟩, zone, by decide⟩
  let stop : Instant := ⟨⟨8210266812000000000000, false⟩, zone, by decide⟩
  have hyears : anchor.walk .years .plus (target.inZone zone) = .ok (524285, yearsOn) := by
    decide +kernel
  have hmonths : yearsOn.walk .months .plus (target.inZone zone) = .ok (10, monthsOn) := by
    decide +kernel
  have hweeks : monthsOn.walk .weeks .plus (target.inZone zone) = .ok (8, weeksOn) := by
    decide +kernel
  have hdays : weeksOn.walk .days .plus (target.inZone zone) = .ok (4, stop) := by
    decide +kernel
  have hend : Underway anchor target [] ⟨524285, 10, 8, 4, 0, 0, 0, 0⟩ stop :=
    .leg (.leg (.leg (.leg .start hyears) hmonths) hweeks) hdays
  have hfirst : anchor.face.InRange := by decide +kernel
  have hlast : (target.inZone anchor.zone).face.InRange := by decide +kernel
  obtain ⟨hcounts, hsearch, hrest⟩ := difference_fits_words rfl hfirst hlast
  obtain ⟨estimate, tried, n, reached, hestimate, htried, hlength, -⟩ :=
    (hsearch _ _ _ _ .start).resolve_right fun h => h.2.2 (by decide +kernel)
  have hestimate' : TimeUnit.years.estimate? anchor.face.day (target.inZone zone).face.day =
      some 524285 := by decide +kernel
  obtain rfl := Option.some.inj (hestimate'.symm.trans hestimate)
  obtain ⟨rest, d, hmillis, rfl, -, hdifference⟩ := hrest _ _ hend
  have hmillis' : target.utc.millisSince? stop.utc = some 64799999 := by decide +kernel
  obtain rfl := Option.some.inj (hmillis'.symm.trans hmillis)
  exact ⟨zone, anchor, target, stop, by decide +kernel, rfl, rfl, by decide +kernel,
    by decide +kernel, hend, hcounts _ _ _ hend, ⟨tried, n, reached, htried, hlength⟩, hmillis',
    hdifference⟩

end Instant

end RelativeTime

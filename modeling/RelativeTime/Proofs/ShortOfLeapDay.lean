import RelativeTime.Proofs.Calendar.LeapDay
import RelativeTime.Proofs.FixedOffset
import RelativeTime.Proofs.Landing
import RelativeTime.Proofs.Timestamp.Stamp

/-! When a walk under a fixed offset takes twelve months: from a 29 February, to less than a day
before its time of day on a later one. All years but one lead to a 28th, twelve months more to the
28th before the target, and the twelve months make one year more in the chain, which leads to the
29th. -/
namespace RelativeTime

open Calendar

namespace Reading

/-- From a 29 February, a reading less than a day before the same time on a later one. -/
def ShortOfLeapDay (anchor target : Reading) : Prop :=
  IsLeapDay anchor.day ∧ ∃ leap, IsLeapDay leap ∧ anchor.day < leap ∧
    (anchor.onDay (leap - 1)).nanos ≤ target.nanos ∧ target.nanos < (anchor.onDay leap).nanos

/-- All years between the two lead beyond the target, all but one and then twelve months do not. -/
theorem ShortOfLeapDay.exists_years {anchor target : Reading} (h : anchor.ShortOfLeapDay target) :
    ∃ years : Nat, 1 ≤ years ∧
      target.nanos <
        anchor.nanos + 86400000000000 * (monthsOn anchor.day (years * 12) - anchor.day) ∧
      anchor.nanos + 86400000000000 *
          (monthsOn (monthsOn anchor.day ((years - 1) * 12)) 12 - anchor.day) ≤ target.nanos := by
  obtain ⟨hday, leap, hleap, hlater, hfrom, hto⟩ := h
  rw [Reading.onDay_nanos] at hfrom hto
  obtain ⟨hm, hd⟩ := isLeapDay_iff.mp hday
  obtain ⟨hm', hd'⟩ := isLeapDay_iff.mp hleap
  have hmono := monthOf_mono (Int.le_of_lt hlater)
  have hne : monthOf leap ≠ monthOf anchor.day := by
    intro heq
    rw [heq] at hd'
    omega
  have hmonth : monthOf leap =
      monthOf anchor.day + (((monthOf leap - monthOf anchor.day) / 12).toNat : Int) * 12 := by
    omega
  obtain ⟨hall, hlast⟩ := hday.monthsOn_eq hleap hmonth
  refine ⟨((monthOf leap - monthOf anchor.day) / 12).toNat, by omega, ?_, ?_⟩
  · rw [hall]
    exact hto
  · rw [hlast]
    exact hfrom

end Reading

namespace Instant

variable {anchor target : Instant} {zone : Zone} {b offset : Int} {heading : Sign}
  {count : TimeUnit → Nat} {afterYears afterMonths afterWeeks stop : Instant}

section Legs

variable (hz : zone.rules = .constant offset) (ho : -86400 < offset ∧ offset < 86400)
  (ha : anchor.Early zone) (ht : target.Early zone) (hp : ¬ anchor.Passes heading target.utc)
  (h : Legs anchor target heading count afterYears afterMonths afterWeeks stop)
include hz ho ha ht hp h

theorem Legs.leap_of_months (hmonths : 12 ≤ count .months) :
    heading = .plus ∧ count .months = 12 ∧
      afterMonths.face.day = monthsOn anchor.face.day ((count .years + 1 : Nat) * 12) - 1 ∧
      anchor.face.ShortOfLeapDay target.face := by
  have hf := h.faces hz ho ha ht hp
  have hyears := hf.years
  have hmonths' := hf.months
  have htime := hf.times
  have hshort := hf.shorts
  have hmy := monthOf_monthsOn anchor.face.day (heading.apply (count .years) * 12)
  have hmm := monthOf_monthsOn afterYears.face.day (heading.apply (count .months))
  rw [← hyears] at hmy
  rw [← hmonths'] at hmm
  have hgreedy := h.years.beyond hz ho ha ht (by decide) (m := count .years + 1)
    (Nat.lt_succ_self _)
  simp only [TimeUnit.stride, Stride.move] at hgreedy
  have htwelve := monthsOn_monthsOn_le anchor.face.day (heading.apply (count .years) * 12)
    (heading.apply 12)
  have hmore : heading.apply (count .years) * 12 + heading.apply 12 =
      heading.apply (count .years + 1) * 12 := by
    cases heading <;> simp only [Sign.apply] <;> omega
  rw [← hyears, hmore] at htwelve
  have hcast : ((count .years + 1 : Nat) : Int) = count .years + 1 := rfl
  have htwelve' : ((12 : Nat) : Int) = 12 := rfl
  cases heading with
  | minus =>
    have hmany : -(count .months : Int) ≤ -12 := by omega
    have hle := monthsOn_le afterYears.face.day hmany
    simp only [Sign.apply, htwelve'] at hmonths' hshort hgreedy htwelve
    omega
  | plus =>
    simp only [Sign.apply, htwelve', hcast] at hyears hmonths' hmy hmm hshort hgreedy htwelve
    have hnext := monthOf_monthsOn anchor.face.day ((count .years + 1) * 12)
    have hdate : afterMonths.face.day ≤
        monthsOn anchor.face.day ((count .years + 1) * 12) := by omega
    have hmono := monthOf_mono hdate
    have hexact : count .months = 12 := by omega
    rw [hexact, htwelve', hyears] at hmonths'
    obtain ⟨hleap, hlater, hbefore⟩ := leapDay_of_monthsOn_lt anchor.face.day (count .years)
      (by omega)
    refine ⟨rfl, hexact, hmonths'.trans hbefore, hleap, _, hlater, ?_, ?_, ?_⟩
    · have hpos : 0 < ((count .years : Int) + 1) * 12 := by omega
      have hlt := monthsOn_lt anchor.face.day hpos
      rwa [monthsOn_zero] at hlt
    · rw [Reading.onDay_nanos]
      omega
    · rw [Reading.onDay_nanos]
      omega

theorem Legs.months_of_leap (hshortOf : anchor.face.ShortOfLeapDay target.face) :
    12 ≤ count .months := by
  have hf := h.faces hz ho ha ht hp
  have hyears := hf.years
  have htime := hf.times
  have hshort := hf.shorts
  obtain ⟨years, hpos, hbeyond, hfrom⟩ := hshortOf.exists_years
  have hothers : (0 : Int) ≤ (years - 1) * 12 := by omega
  have hless := monthsOn_le anchor.face.day hothers
  have htwelve := monthsOn_lt (m := 0) (n := 12)
    (monthsOn anchor.face.day ((years - 1) * 12)) (by decide)
  rw [monthsOn_zero] at hless htwelve
  obtain rfl : heading = .plus := by
    cases heading with
    | plus => rfl
    | minus =>
      simp only [Sign.apply] at hshort
      omega
  simp only [Sign.apply] at hyears hshort
  have hyear : count .years + 1 = years := by
    rcases Nat.lt_trichotomy (count .years + 1) years with hfew | heq | hmany
    · have hgreedy := h.years.beyond hz ho ha ht (by decide) (m := years - 1) (by omega)
      have hcast : ((years - 1 : Nat) : Int) = years - 1 := by omega
      simp only [TimeUnit.stride, Stride.move, Sign.apply, hcast] at hgreedy
      omega
    · exact heq
    · have hmore : (years : Int) * 12 ≤ count .years * 12 := by omega
      have hle := monthsOn_le anchor.face.day hmore
      omega
  have hcount : (count .years : Int) = years - 1 := by omega
  rw [hcount] at hyears
  by_contra hmonths
  have hgreedy := h.months.beyond hz ho (h.early hz ho ha ht hp).1 ht (by decide) (m := 12)
    (by omega)
  simp only [TimeUnit.stride, Stride.move, Sign.apply, Int.mul_one, hyears,
    show ((12 : Nat) : Int) = 12 from rfl] at hgreedy
  rw [hyears] at htime
  omega

end Legs

/-- With twelve months made into a year, the chain leads to the day after the target. -/
theorem Route.day_after (hz : zone.rules = .constant offset)
    (ho : -86400 < offset ∧ offset < 86400) (hb : b ≤ 60000000) (ha : anchor.Inner zone b)
    (ht : target.Inner zone b) (hp : ¬ anchor.Passes heading target.utc)
    (h : Route anchor target heading count afterYears afterMonths afterWeeks stop)
    (hmonths : 12 ≤ count .months) {j : Instant} {c : Int}
    (hpassage : Passage zone c (fun u => heading.apply (Difference.carried count u))
      TimeUnit.descending anchor j) : j.face.day = target.face.day + 1 := by
  have ea := ha.early (by omega)
  have et := ht.early (by omega)
  obtain ⟨rfl, hexact, hbefore, -⟩ := h.legs.leap_of_months hz ho ea et hp hmonths
  have hbounded : zone.rules.Bounded := hz ▸ Rules.bounded_constant ho
  have hf := h.legs.faces hz ho ea et hp
  have hweeks := hf.weeks
  have hdays := hf.days
  have hrest := h.rest
  have htime := hf.times
  have hyears : Difference.carried count .years = count .years + 1 := by
    simp only [Difference.carried, Difference.totalMonths]
    omega
  have hmonths' : Difference.carried count .months = 0 := by
    simp only [Difference.carried, Difference.totalMonths]
    omega
  have hface := hpassage.face_constant hz ho
  rw [hyears, hmonths', Sign.apply_zero, monthsOn_zero, h.totalMillis_eq] at hface
  have hstop := face_nanos stop
  have htarget := face_nanos target
  rw [offset_constant hz (h.inner hbounded ha ht hp).2.2.2.zone_eq] at hstop
  rw [offset_constant hz ht.zone_eq] at htarget
  have htotal : Difference.totalDays count = count .weeks * 7 + count .days := rfl
  have hday : j.face.day = j.face.nanos / 86400000000000 := rfl
  have hday' : target.face.day = target.face.nanos / 86400000000000 := rfl
  simp only [Sign.apply] at hweeks hdays hrest hface
  omega

theorem Inner.exists_instruction_constant (hz : zone.rules = .constant offset)
    (ho : -86400 < offset ∧ offset < 86400) (hb : b ≤ 40000000) (ha : anchor.Inner zone b)
    (ht : target.Inner zone b) (hms : (target.utc.nanos - anchor.utc.nanos) % 1000000 = 0) :
    ∃ tokens reached written, anchor.instructionTo target = .ok (render tokens) ∧
      parse (render tokens) = .ok tokens ∧ evaluate anchor tokens = .ok reached ∧
      target.format = .ok written ∧
      (reached.format = .ok written ↔ ¬ anchor.face.ShortOfLeapDay target.face) := by
  have hbounded : zone.rules.Bounded := hz ▸ Rules.bounded_constant ho
  have hp := not_passes_heading anchor target
  have ea := ha.early (by omega)
  have et := ht.early (by omega)
  obtain ⟨count, afterYears, afterMonths, afterWeeks, stop, hroute, -, hd, hsmall⟩ :=
    exists_route hbounded (by omega) ha ht hms
  obtain ⟨d, tokens, reached, written, hd', htext, hparse, he, hw, hiff⟩ :=
    (ha.within hbounded).exists_instruction hbounded (by omega) (ht.within hbounded)
  obtain rfl := Except.ok.inj (hd'.symm.trans hd)
  refine ⟨tokens, reached, written, htext, hparse, he, hw, hiff.trans ?_⟩
  constructor
  · rintro ⟨candidate, hmem, hlands⟩ hshort
    have hmonths := hroute.legs.months_of_leap hz ho ea et hp hshort
    obtain ⟨-, j, -, hpassage, -⟩ := hroute.exists_passage hbounded (by omega) ha ht hp
    have hday := hroute.day_after hz ho (by omega) ha ht hp hmonths hpassage
    have hforward : ∀ u, 0 ≤ (Difference.ofCounts (anchor.heading target)
        (Difference.carried count)).get u := by
      intro u
      rw [(hroute.legs.leap_of_months hz ho ea et hp hmonths).1, Difference.get_ofCounts]
      exact Int.natCast_nonneg _
    rw [Difference.candidates_of_forward hforward candidate hmem] at hlands
    obtain ⟨lands, hl, hiff⟩ :=
      landsOn_eq_ok hbounded (by omega) (hpassage.evaluate_chain hsmall)
        (hpassage.inner_stop.within hbounded) hw
    rw [hlands] at hl
    exact format_ne_of_next_day hday hw (hiff.mp (Except.ok.inj hl).symm)
  · intro hshort
    have hmonths : count .months < 12 := by
      by_contra hge
      exact hshort (hroute.legs.leap_of_months hz ho ea et hp (by omega)).2.2.2
    have hdate := hroute.shiftDate_of_not_carried hmonths (hroute.legs.days_lt hz ho ea et hp)
    exact ⟨_, chain_mem_candidates _,
      (hroute.chain_lands_iff hbounded (by omega) ha ht hp hsmall hw).mpr (.inl hdate)⟩

end Instant

end RelativeTime

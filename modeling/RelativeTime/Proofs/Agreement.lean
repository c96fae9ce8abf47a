import Mathlib.Data.List.Infix
import RelativeTime.Proofs.Evaluation
import RelativeTime.Proofs.Zone.Constant
import RelativeTime.Proofs.Zone.Periods
import RelativeTime.Zone.Table.NorthAmerica

/-! Away from the changes of its clock, a zone is like one whose clock is never changed. An
evaluation that stays well inside a period leads through the same instants in either, even though a
snap on weeks passes, on its way, an instant that may lie anywhere in the day after the result. -/
namespace RelativeTime

namespace Period

def Surrounds (p : Period) (second : Int) : Prop :=
  p.Covers (second - 172800) ∧ p.Covers (second + 172800)

instance (p : Period) (second : Int) : Decidable (p.Surrounds second) :=
  inferInstanceAs (Decidable (_ ∧ _))

/-- Two days before the second are covered, too, so that a reading of the wall clock in the period
cannot be shown in an earlier one. -/
def Shelters (p : Period) (second : Int) : Prop := p.Covers (second - 172800) ∧ p.Covers second

variable {p : Period} {a b : Int}

theorem Surrounds.shelters (h : p.Surrounds a) (hb : a ≤ b ∧ b ≤ a + 86400) : p.Shelters b :=
  ⟨h.1.between h.2 (by omega), h.1.between h.2 (by omega)⟩

end Period

/-- In the period, the clock of the zone is set like that of another, which is never changed. -/
structure Zone.Follows (zone : Zone) (p : Period) (fixed : Zone) : Prop where
  bounded : zone.rules.Bounded
  mem : p ∈ zone.rules.periods
  rules_eq : fixed.rules = .constant p.offset

namespace Zone.Follows

variable {zone fixed : Zone} {p : Period} {i j : Instant} {u : TimeUnit} {n : Int}

theorem bounds (h : zone.Follows p fixed) : -86400 < p.offset ∧ p.offset < 86400 :=
  h.bounded _ (Rules.offset_of_mem_periodsFrom h.mem)

theorem face_inZone (h : zone.Follows p fixed) (hi : i.zone = fixed)
    (hc : p.Covers i.utc.seconds) : (i.inZone zone).face = i.face := by
  rw [Instant.face_constant h.rules_eq hi]
  simp only [Instant.face, Instant.offset, Instant.inZone, Rules.offsetAt_of_covers h.mem hc]

/-- A reading that stands for a sheltered instant stands for it in the zone as well: no earlier
period shows it. -/
theorem resolve_inZone (h : zone.Follows p fixed) {wall : Reading}
    (hr : fixed.resolve wall = .ok j) (hj : p.Shelters j.utc.seconds) :
    zone.resolve wall = .ok (j.inZone zone) := by
  obtain ⟨hzone, hface⟩ := (resolve_constant_iff h.rules_eq h.bounds).mp hr
  rw [Instant.face_constant h.rules_eq hzone] at hface
  have hseconds : wall.seconds - p.offset = j.utc.seconds := by
    rw [← hface, Reading.seconds_ahead, Int.add_sub_cancel]
  obtain ⟨hsince, hc⟩ := hj
  rw [← hseconds] at hsince hc
  have hoffset := Rules.offsetShowing?_of_covers h.bounded h.mem hc hsince
  have hearliest : zone.earliestShowing? wall = some (j.inZone zone) := by
    rw [earliestShowing?_eq hoffset]
    exact Instant.ofUtc?_eq_some_iff.mpr ⟨rfl, Reading.ahead_eq_iff.mp hface⟩
  simp only [resolve, hearliest, Option.some_or]

theorem plus_inZone (h : zone.Follows p fixed) (hi : i.zone = fixed)
    (hc : p.Covers i.utc.seconds) (hp : i.plus u n = .ok j) (hj : p.Shelters j.utc.seconds) :
    (i.inZone zone).plus u n = .ok (j.inZone zone) := by
  by_cases hu : u.MovesDate
  · obtain ⟨hdated, hdate, hlast, hr⟩ := (Instant.plus_date_eq_ok_iff hu).mp hp
    rw [Instant.plus_date_eq_ok_iff hu, h.face_inZone hi hc]
    exact ⟨hdated, hdate, hlast, h.resolve_inZone (hi ▸ hr) hj⟩
  · obtain ⟨nanos, hnanos⟩ := TimeUnit.exists_elapsed hu
    obtain ⟨-, hutc⟩ := (Instant.plus_elapsed_eq_ok_iff hnanos).mp hp
    exact (Instant.plus_elapsed_eq_ok_iff hnanos).mpr ⟨rfl, hutc⟩

theorem startOf_inZone (h : zone.Follows p fixed) (hi : i.zone = fixed)
    (hc : p.Covers i.utc.seconds) (hs : i.startOf u = .ok j) (hj : p.Shelters j.utc.seconds) :
    (i.inZone zone).startOf u = .ok (j.inZone zone) := by
  by_cases hu : u.MovesDate
  · obtain ⟨hdated, hr⟩ := (Instant.startOf_date_eq_ok_iff hu).mp hs
    rw [Instant.startOf_date_eq_ok_iff hu, h.face_inZone hi hc]
    exact ⟨hdated, h.resolve_inZone (hi ▸ hr) hj⟩
  · obtain ⟨nanos, hnanos⟩ := TimeUnit.exists_elapsed hu
    obtain ⟨-, hutc⟩ := (Instant.startOf_elapsed_eq_ok_iff hnanos).mp hs
    rw [Instant.startOf_elapsed_eq_ok_iff hnanos, h.face_inZone hi hc]
    exact ⟨rfl, hutc⟩

theorem seconds_of_startOf_days (h : zone.Follows p fixed) (hi : i.zone = fixed)
    (hs : i.startOf .days = .ok j) :
    j.utc.seconds ≤ i.utc.seconds ∧ i.utc.seconds ≤ j.utc.seconds + 86400 := by
  obtain ⟨-, hresolve⟩ := (Instant.startOf_date_eq_ok_iff (by decide)).mp hs
  rw [hi] at hresolve
  obtain ⟨hzone, hface⟩ := (resolve_constant_iff h.rules_eq h.bounds).mp hresolve
  have hnanos := congrArg Reading.nanos hface
  rw [Instant.face_constant h.rules_eq hzone, Instant.face_constant h.rules_eq hi] at hnanos
  simp only [Reading.ahead_nanos, Reading.midnight, Reading.day, TimeUnit.firstDate,
    TimeUnit.stride] at hnanos
  simp only [Reading.seconds]
  omega

theorem snap_inZone (h : zone.Follows p fixed) (hi : i.zone = fixed)
    (hc : p.Covers i.utc.seconds) {s : Snap} (hs : s.apply i = .ok j)
    (hj : p.Surrounds j.utc.seconds) : s.apply (i.inZone zone) = .ok (j.inZone zone) := by
  have hresult := hj.shelters ⟨Int.le_refl _, by omega⟩
  by_cases hweeks : s.unit = .weeks
  · have hweekday : (i.inZone zone).weekday = i.weekday := by
      rw [Instant.weekday, h.face_inZone hi hc, Instant.weekday]
    simp only [Snap.apply, hweeks, hweekday] at hs ⊢
    obtain ⟨aligned, haligned, hstart⟩ := Answer.bind_eq_ok.mp hs
    -- Nothing is assumed of the instant between, but it lies in the day that the result starts.
    have hfixed : aligned.zone = fixed := (Instant.move_of_plus haligned).zone_eq.trans hi
    have hbetween := hj.shelters (h.seconds_of_startOf_days hfixed hstart)
    rw [h.plus_inZone hi hc haligned hbetween, Answer.bind_ok]
    exact h.startOf_inZone hfixed hbetween.2 hstart hresult
  · rw [Snap.apply_of_ne_weeks hweeks] at hs ⊢
    exact h.startOf_inZone hi hc hs hresult

theorem apply_inZone (h : zone.Follows p fixed) (hi : i.zone = fixed)
    (hc : p.Covers i.utc.seconds) {t : Token} (ht : t.apply i = .ok j)
    (hj : p.Surrounds j.utc.seconds) : t.apply (i.inZone zone) = .ok (j.inZone zone) := by
  cases t with
  | delta d =>
    simp only [Token.apply, Delta.apply] at ht ⊢
    split at ht
    · exact h.plus_inZone hi hc ht (hj.shelters ⟨Int.le_refl _, by omega⟩)
    · cases ht
  | snap s => exact h.snap_inZone hi hc ht hj

theorem evaluate_inZone (h : zone.Follows p fixed) {ts : List Token} (hi : i.zone = fixed)
    (he : evaluate i ts = .ok j)
    (hinside : ∀ before k, before <+: ts → evaluate i before = .ok k →
      p.Surrounds k.utc.seconds) :
    evaluate (i.inZone zone) ts = .ok (j.inZone zone) := by
  induction ts generalizing i with
  | nil =>
    obtain rfl := Except.ok.inj he
    rfl
  | cons t ts ih =>
    rw [Instant.evaluate_cons] at he ⊢
    obtain ⟨k, hk, he⟩ := Answer.bind_eq_ok.mp he
    have hone : evaluate i [t] = .ok k := by
      rw [Instant.evaluate_singleton, hk]
    have hstart := hinside [] i (List.nil_prefix) rfl
    have hnext := hinside [t] k (by simp) hone
    have hc := (hstart.shelters ⟨Int.le_refl _, by omega⟩).2
    rw [h.apply_inZone hi hc hk hnext, Answer.bind_ok]
    refine ih ((Instant.zone_of_apply hk).trans hi) he fun before l hbefore hl => ?_
    refine hinside (t :: before) l (by simpa using hbefore) ?_
    rw [Instant.evaluate_cons, hk]
    exact hl

end Zone.Follows

variable {name : String} {rules : Rules} {p : Period} {offset : FixedOffset}
  {start reached : Instant} {tokens : List Token}

/-- Under the offset of a period, an evaluation that stays more than two days inside the period is
that of the zone, instant by instant. -/
theorem evaluate_in_period (hb : rules.Bounded) (hp : p ∈ rules.periods)
    (ho : offset.seconds = p.offset) (hz : start.zone = .fixed offset)
    (he : evaluate start tokens = .ok reached)
    (hinside : ∀ before i, before <+: tokens → evaluate start before = .ok i →
      p.Surrounds i.utc.seconds) :
    ∀ before, before <+: tokens → ∃ i, evaluate start before = .ok i ∧
      evaluate (start.inZone (.named name rules)) before = .ok (i.inZone (.named name rules)) := by
  have hfollows : (Zone.named name rules).Follows p (.fixed offset) :=
    ⟨hb, hp, congrArg Rules.constant ho⟩
  rintro before ⟨rest, rfl⟩
  rw [Instant.evaluate_append] at he
  obtain ⟨i, hi, -⟩ := Answer.bind_eq_ok.mp he
  refine ⟨i, hi, hfollows.evaluate_inZone hz hi fun earlier k hearlier hk => ?_⟩
  exact hinside earlier k (hearlier.trans (List.prefix_append _ _)) hk

/-- From June into October, back to a Wednesday and half a day further, in one summer. -/
theorem evaluate_in_chicago_summer :
    ∃ start tokens reached, start.zone = .fixed ⟨-18000, by decide, by decide⟩ ∧
      start.format = .ok "2024-06-15T12:00:00.000-05:00" ∧ parse "+4mon@w3-36h" = .ok tokens ∧
      evaluate start tokens = .ok reached ∧ reached.format = .ok "2024-10-07T12:00:00.000-05:00" ∧
      Zone.Table.chicago.Bounded ∧
      ⟨some 1710057600, some 1730617200, -18000⟩ ∈ Zone.Table.chicago.periods ∧
      ∃ i, evaluate start tokens = .ok i ∧
        evaluate (start.inZone (.named "America/Chicago" Zone.Table.chicago)) tokens =
          .ok (i.inZone (.named "America/Chicago" Zone.Table.chicago)) := by
  obtain ⟨start, hstart⟩ : ∃ start : Instant, start = ⟨⟨1718470800000000000, false⟩,
    .fixed ⟨-18000, by decide, by decide⟩, by decide⟩ := ⟨_, rfl⟩
  have hparse : parse "+4mon@w3-36h" = .ok [.delta ⟨.plus, 4, .months, by decide⟩,
      .snap ⟨.weeks, some 3⟩, .delta ⟨.minus, 36, .hours, by decide⟩] := by
    decide +kernel
  have hmonths : evaluate start [.delta ⟨.plus, 4, .months, by decide⟩] =
      .ok ⟨⟨1729011600000000000, false⟩, .fixed ⟨-18000, by decide, by decide⟩, by decide⟩ := by
    subst hstart
    decide +kernel
  have hweeks : evaluate start [.delta ⟨.plus, 4, .months, by decide⟩, .snap ⟨.weeks, some 3⟩] =
      .ok ⟨⟨1728450000000000000, false⟩, .fixed ⟨-18000, by decide, by decide⟩, by decide⟩ := by
    subst hstart
    decide +kernel
  have hhours : evaluate start [.delta ⟨.plus, 4, .months, by decide⟩, .snap ⟨.weeks, some 3⟩,
      .delta ⟨.minus, 36, .hours, by decide⟩] =
      .ok ⟨⟨1728320400000000000, false⟩, .fixed ⟨-18000, by decide, by decide⟩, by decide⟩ := by
    subst hstart
    decide +kernel
  have hbounded : Zone.Table.chicago.Bounded := by decide +kernel
  have hperiod : ⟨some 1710057600, some 1730617200, -18000⟩ ∈ Zone.Table.chicago.periods := by
    decide +kernel
  have hwritten : start.format = .ok "2024-06-15T12:00:00.000-05:00" := by
    subst hstart
    decide +kernel
  refine ⟨start, _, _, by rw [hstart], hwritten, hparse, hhours, by decide +kernel, hbounded,
    hperiod, evaluate_in_period hbounded hperiod rfl (by rw [hstart]) hhours ?_ _
      (List.prefix_refl _)⟩
  intro before i hbefore hi
  rw [← List.mem_inits] at hbefore
  simp only [List.inits, List.map_cons, List.map_nil, List.mem_cons, List.not_mem_nil,
    or_false] at hbefore
  rcases hbefore with rfl | rfl | rfl | rfl
  · obtain rfl := Except.ok.inj hi
    subst hstart
    decide
  · obtain rfl := Except.ok.inj (hmonths.symm.trans hi)
    decide
  · obtain rfl := Except.ok.inj (hweeks.symm.trans hi)
    decide
  · obtain rfl := Except.ok.inj (hhours.symm.trans hi)
    decide

end RelativeTime

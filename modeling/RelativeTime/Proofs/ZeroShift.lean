import RelativeTime.Proofs.Exactness
import RelativeTime.Proofs.Floor
import RelativeTime.Proofs.Zone.Earliest

/-! A shift by nothing. A unit of elapsed time leaves the instant as it is. From days on the instant
is taken apart into what the wall clock shows, which is then read again, and where a clock that was
set back shows the same twice, what is read is the first of the two. -/
namespace RelativeTime

namespace Instant

def ShownFirst (i : Instant) : Prop :=
  ∀ utc, i.zone.rules.faceAt utc = i.face → ¬ utc < i.utc

variable {i : Instant} {u : TimeUnit}

theorem shownFirst_iff :
    i.ShownFirst ↔ Reading.FirstOf (fun utc => i.zone.rules.faceAt utc = i.face) i.utc :=
  ⟨fun h => ⟨rfl, h⟩, fun h => h.first⟩

/-- What the wall clock shows is read as the first instant that shows it. That instant may come
before the first date of UTC, but then so does the day before the wall clock, and the way across a
gap, which is open where no instant is found, leads nowhere either. -/
theorem exists_resolve_face (hb : i.zone.rules.Bounded) :
    ∃ b, Reading.FirstOf (fun utc => i.zone.rules.faceAt utc = i.face) b ∧
      (∀ hr : b.InRange, i.zone.resolve i.face = .ok ⟨b, i.zone, hr⟩) ∧
      (¬ b.InRange →
        i.zone.resolve i.face = .error (.reported (.readingOutOfRange i.face))) := by
  cases ho : i.zone.rules.offsetShowing? i.face.seconds with
  | none => exact absurd i.face_eq.symm (Rules.offsetShowing?_eq_none_iff.mp ho i.utc)
  | some offset =>
    have hfirst := Rules.firstOf_of_offsetShowing? ho
    have hearliest := Zone.earliestShowing?_eq ho
    refine ⟨_, hfirst, fun hr => ?_, fun hr => ?_⟩
    · exact Zone.resolve_of_offsetShowing? ho hr
    · have hoffset := hb.offsetShowing? ho
      have hlast := Reading.day_le_of_not_lt (hfirst.first i.utc i.face_eq.symm)
      have hprobe : ¬ (i.face.after (-86400000000000)).InRange := by
        have hafter := i.face.after_nanos_bounds (-86400000000000)
        have hutc := i.inRange
        simp only [Reading.InRange, DayInRange, Reading.day, Reading.ahead_nanos]
          at hr hlast hafter hutc ⊢
        omega
      have hgap : i.zone.acrossGap? i.face = none := by
        rw [Zone.acrossGap?_eq, if_neg hprobe]
      rw [Zone.resolve, hearliest, ofUtc?_eq_none_iff.mpr hr, hgap]
      rfl

theorem plus_zero_of_elapsed (hu : ¬ u.MovesDate) : i.plus u 0 = .ok i := by
  obtain ⟨nanos, hnanos⟩ := TimeUnit.exists_elapsed hu
  rw [plus_elapsed_eq_ok_iff hnanos, Int.zero_mul, Reading.after_zero]
  exact ⟨rfl, rfl⟩

theorem plus_zero_of_movesDate (hu : u.MovesDate) (hd : i.face.InRange)
    (hlast : ¬ (u.MovesMonth ∧ i.face.InLastMonth)) :
    i.plus u 0 = i.zone.resolve i.face := by
  have hmove := TimeUnit.move_zero hu i.face.day
  rw [Reading.inLastMonth_iff, ← hmove] at hlast
  rw [plus_of_dated hu hd (hmove.symm ▸ hd) hlast, hmove, Reading.onDay_self]

theorem plus_zero_eq_ok_iff (hb : i.zone.rules.Bounded) (hd : i.face.InRange)
    (hlast : ¬ (u.MovesMonth ∧ i.face.InLastMonth)) :
    i.plus u 0 = .ok i ↔ (u.MovesDate → i.ShownFirst) := by
  by_cases hu : u.MovesDate
  · obtain ⟨b, hfirst, hdated, hundated⟩ := exists_resolve_face hb
    rw [plus_zero_of_movesDate hu hd hlast, shownFirst_iff]
    constructor
    · intro hi _
      by_cases hr : b.InRange
      · have hutc : b = i.utc := congrArg utc (Except.ok.inj ((hdated hr).symm.trans hi))
        exact hutc ▸ hfirst
      · cases (hundated hr).symm.trans hi
    · intro hi
      obtain rfl : b = i.utc := hfirst.unique (hi hu)
      exact hdated i.inRange
  · simp [plus_zero_of_elapsed hu, hu]

theorem shownFirst_of_constant {offset : Int} (hz : i.zone.rules = .constant offset) :
    i.ShownFirst := by
  intro utc hutc hlt
  rw [face_constant hz rfl, hz, Rules.faceAt, Rules.offsetAt_constant, Reading.ahead_eq_iff,
    Reading.ahead_ahead, Int.add_right_neg, Reading.ahead_zero] at hutc
  rw [hutc] at hlt
  exact Reading.lt_asymm hlt hlt

theorem evaluate_insert {t : Token} (ht : t.apply i = .ok i) {start : Instant} {before : List Token}
    (hi : evaluate start before = .ok i) (after : List Token) :
    evaluate start (before ++ t :: after) = evaluate start (before ++ after) := by
  rw [evaluate_append, evaluate_append, hi, Answer.bind_ok, Answer.bind_ok, evaluate_cons, ht,
    Answer.bind_ok]

theorem apply_zero_delta (sign : Sign) (u : TimeUnit) :
    (Token.delta ⟨sign, 0, u, by decide⟩).apply i = i.plus u 0 := by
  cases sign <;> rfl

/-- A shift by nothing leaves an instant as it is if the unit is hours or finer. By days or more it
leads to the first reading of UTC at which the wall clock shows the same, or is reported where UTC
has no date for it. So it leaves those instants as they are that are themselves the first, all of
them where the clock is never changed, and wherever an instruction comes to one of these, it may
have such a shift more. -/
theorem plus_zero_leads_to_first (hb : i.zone.rules.Bounded) (hd : i.face.InRange)
    (hlast : ¬ (u.MovesMonth ∧ i.face.InLastMonth)) :
    (¬ u.MovesDate → i.plus u 0 = .ok i) ∧
    (u.MovesDate → ∃ b, Reading.FirstOf (fun utc => i.zone.rules.faceAt utc = i.face) b ∧
      (∀ hr : b.InRange, i.plus u 0 = .ok ⟨b, i.zone, hr⟩) ∧
      (¬ b.InRange → ∃ e, i.plus u 0 = .error (.reported e) ∧ e.kind = .transform)) ∧
    (i.plus u 0 = .ok i ↔ (u.MovesDate → i.ShownFirst)) ∧
    (∀ offset, i.zone.rules = .constant offset → i.plus u 0 = .ok i) ∧
    ((u.MovesDate → i.ShownFirst) → ∀ start before after sign, evaluate start before = .ok i →
      evaluate start (before ++ .delta ⟨sign, 0, u, by decide⟩ :: after) =
        evaluate start (before ++ after)) := by
  have hiff := plus_zero_eq_ok_iff hb hd hlast
  refine ⟨plus_zero_of_elapsed, fun hu => ?_, hiff, fun offset hz => ?_, ?_⟩
  · obtain ⟨b, hfirst, hdated, hundated⟩ := exists_resolve_face hb
    rw [plus_zero_of_movesDate hu hd hlast]
    exact ⟨b, hfirst, hdated, fun hr => ⟨_, hundated hr, rfl⟩⟩
  · exact hiff.mpr fun _ => shownFirst_of_constant hz
  · intro hfirst start before after sign hi
    exact evaluate_insert ((apply_zero_delta sign u).trans (hiff.mpr hfirst)) hi after

/-- In Apia a day on from 29 December 2011 is the 31st. Coming to it across the gap is coming to the
first instant that shows it, so weeks that are none may follow. -/
theorem zero_weeks_past_skipped_day :
    ∃ (start i : Instant) (next : Token), i.zone = .named "Pacific/Apia" Zone.Table.apia ∧
      Date.ofDay start.face.day = ⟨2011, 12, 29⟩ ∧ Date.ofDay i.face.day = ⟨2011, 12, 31⟩ ∧
      evaluate start [next] = .ok i ∧ i.ShownFirst ∧ i.plus .weeks 0 = .ok i ∧
      ∀ after, evaluate start (next :: .delta ⟨.minus, 0, .weeks, by decide⟩ :: after) =
        evaluate start (next :: after) := by
  let start : Instant := ⟨⟨1325196000000000000, false⟩, .named "Pacific/Apia" Zone.Table.apia,
    by decide⟩
  let i : Instant := ⟨⟨1325282400000000000, false⟩, .named "Pacific/Apia" Zone.Table.apia,
    by decide⟩
  let next : Token := .delta ⟨.plus, 1, .days, by decide⟩
  obtain ⟨-, -, hiff, -, hinsert⟩ := plus_zero_leads_to_first (i := i) (u := .weeks)
    (by decide +kernel) (by decide +kernel) (by decide +kernel)
  have hi : evaluate start [next] = .ok i := by decide +kernel
  have hzero : i.plus .weeks 0 = .ok i := by decide +kernel
  have hfirst := hiff.mp hzero
  exact ⟨start, i, next, rfl, by decide +kernel, by decide +kernel, hi, hfirst (by decide), hzero,
    fun after => hinsert hfirst start [next] after .minus hi⟩

/-- In the second pass of an hour that the clock of Chicago shows twice, a shift by no days goes
back to the first. -/
theorem zero_days_in_second_pass :
    ∃ i j : Instant, i.zone = .named "America/Chicago" Zone.Table.chicago ∧ i.utc.leap = false ∧
      i.face.InRange ∧ i.plus .days 0 = .ok j ∧ j.face = i.face ∧ j.utc = i.utc.ahead (-3600) ∧
      i.plus .days 0 ≠ .ok i := by
  let i : Instant := ⟨⟨1730619000000000000, false⟩,
    .named "America/Chicago" Zone.Table.chicago, by decide⟩
  let j : Instant := ⟨⟨1730615400000000000, false⟩,
    .named "America/Chicago" Zone.Table.chicago, by decide⟩
  have hj : i.plus .days 0 = .ok j := by decide +kernel
  refine ⟨i, j, rfl, rfl, by decide +kernel, hj, by decide +kernel, rfl, fun hi => ?_⟩
  have hsame : j.utc = i.utc := congrArg utc (Except.ok.inj (hj.symm.trans hi))
  exact absurd hsame (by decide)

end Instant

end RelativeTime

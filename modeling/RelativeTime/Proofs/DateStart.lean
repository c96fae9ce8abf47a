import RelativeTime.Proofs.Span
import RelativeTime.Proofs.Floor
import RelativeTime.Proofs.Zone.Reached

/-! The start of a day, a month or a year on a clock that is changed. It is sought as what the
first midnight stands for, and is the first instant of the day, month or year unless a change
skips that midnight: then the midnight is moved on by the length of the gap, and so past the first
instant if the gap begins before it. -/
namespace RelativeTime

namespace Reading

def SameDate (u : TimeUnit) (r r' : Reading) : Prop :=
  match u with
  | .years => (Date.ofDay r.day).year = (Date.ofDay r'.day).year
  | .months => (Date.ofDay r.day).year = (Date.ofDay r'.day).year ∧
      (Date.ofDay r.day).month = (Date.ofDay r'.day).month
  | _ => Date.ofDay r.day = Date.ofDay r'.day

variable {r r' : Reading} {u : TimeUnit}

theorem sameDate_iff (hu : u.MovesDate) :
    SameDate u r r' ↔ u.firstDate r.day = u.firstDate r'.day := by
  have hdays : Date.ofDay r.day = Date.ofDay r'.day ↔ r.day = r'.day := by
    constructor
    · intro h
      rw [← Date.toDay_ofDay r.day, h, Date.toDay_ofDay]
    · intro h
      rw [h]
  rcases hu with rfl | rfl | rfl | rfl
  · exact hdays
  · exact hdays
  · simp only [SameDate, Date.ofDay, TimeUnit.firstDate, TimeUnit.stride,
      Calendar.monthStart_inj]
    omega
  · simp only [SameDate, Date.ofDay, TimeUnit.firstDate, TimeUnit.stride,
      Calendar.monthStart_inj]
    omega

theorem SameDate.self (u : TimeUnit) (r : Reading) : SameDate u r r := by
  unfold SameDate
  split <;> simp

end Reading

namespace Instant

variable {i j : Instant} {u : TimeUnit} {c : Change} {b : Reading}

def FirstOn (i : Instant) (u : TimeUnit) (b : Reading) : Prop :=
  Reading.FirstOf (fun utc => (i.zone.rules.faceAt utc).SameDate u i.face) b

theorem reached_startOf (hu : u.MovesDate) (i : Instant) :
    i.zone.rules.Reached (i.face.startOf u) i.utc := by
  rw [Reading.startOf_of_movesDate hu, Rules.Reached, Reading.not_lt_midnight_iff]
  exact u.firstDate_le i.face.day

/-- Where the clock first comes to the midnight, the date begins, provided that the clock shows no
more there than it does at the instant. -/
theorem firstOn_of_reached (hu : u.MovesDate)
    (h : Reading.FirstOf (i.zone.rules.Reached (i.face.startOf u)) b)
    (hle : ¬ i.face < i.zone.rules.faceAt b) : i.FirstOn u b where
  holds := by
    have hreached := h.holds
    rw [Reading.startOf_of_movesDate hu, Rules.Reached, Reading.not_lt_midnight_iff] at hreached
    exact (Reading.sameDate_iff hu).mpr
      (u.firstDate_between hreached (Reading.day_le_of_not_lt hle))
  first := by
    intro utc hsame
    refine h.first utc ?_
    rw [Reading.startOf_of_movesDate hu, Rules.Reached, Reading.not_lt_midnight_iff,
      ← (Reading.sameDate_iff hu).mp hsame]
    exact u.firstDate_le _

theorem FirstOn.starts (hu : u.MovesDate)
    (hd : firstDay + 400 < i.face.day ∧ i.face.day + 400 < lastDay) (hj : i.startOf u = .ok j)
    (h : i.FirstOn u j.utc) : ¬ i.utc < j.utc ∧ j.startOf u = .ok j := by
  refine ⟨h.first i.utc (Reading.SameDate.self u i.face), ?_⟩
  obtain ⟨-, hresolve⟩ := (startOf_date_eq_ok_iff hu).mp hj
  have hzone := Zone.zone_of_resolve hresolve
  have hsame := h.holds
  rw [← hzone, ← face_eq, Reading.sameDate_iff hu] at hsame
  have hdated : j.face.InRange := by
    have hle := u.firstDate_le j.face.day
    have hnear := u.firstDate_near j.face.day
    have hle' := u.firstDate_le i.face.day
    have hnear' := u.firstDate_near i.face.day
    exact ⟨by omega, by omega⟩
  rw [startOf_date_eq_ok_iff hu, hsame, hzone]
  exact ⟨hdated, hresolve⟩

/-- In a zone whose changes lie two days apart, the start of a day, a month or a year is the first
instant whose wall clock shows that day, month or year, if and only if no change skips the
midnight that it begins with, or the one that does has its gap begin at this midnight. Then it is
not after the given instant, and starts itself. If a change skips the midnight, it is the change
that the first instant comes with, but the start is read off the clock as it was before the
change. -/
theorem startOf_isFirst_iff (hu : u.MovesDate) (hb : i.zone.rules.Bounded)
    (hs : i.zone.rules.Spaced) (hd : firstDay + 400 < i.face.day ∧ i.face.day + 400 < lastDay) :
    ∃ j, i.startOf u = .ok j ∧ j.zone = i.zone ∧
      (i.FirstOn u j.utc ↔ ∀ c, i.zone.rules.Skips c (i.face.startOf u).seconds →
        i.face.startOf u = i.zone.rules.gapStart c) ∧
      (i.FirstOn u j.utc → ¬ i.utc < j.utc ∧ j.startOf u = .ok j) ∧
      ∀ c, i.zone.rules.Skips c (i.face.startOf u).seconds → i.FirstOn u c.utc ∧
        j.utc = (i.face.startOf u).ahead (-i.zone.rules.offsetAt (c.since - 1)) := by
  have hmidnight := Reading.startOf_of_movesDate hu i.face
  have hplain : (i.face.startOf u).leap = false := by rw [hmidnight, Reading.midnight]
  have hinner : firstDay < (i.face.startOf u).day ∧ (i.face.startOf u).day < lastDay := by
    have hle := u.firstDate_le i.face.day
    have hnear := u.firstDate_near i.face.day
    rw [hmidnight, Reading.midnight_day]
    omega
  have hstart {j : Instant} (hj : i.zone.resolve (i.face.startOf u) = .ok j) :
      i.startOf u = .ok j := by
    rw [startOf_date_eq_ok_iff hu, ← hmidnight]
    exact ⟨⟨by omega, by omega⟩, hj⟩
  by_cases hskipped : ∃ c, i.zone.rules.Skips c (i.face.startOf u).seconds
  · obtain ⟨c, hskips⟩ := hskipped
    obtain ⟨j, hj, hzone, -, hutc⟩ := Zone.resolve_of_skips hb hs hplain hinner hskips
    have hfirst : i.FirstOn u c.utc := firstOn_of_reached hu (hskips.firstOf_reached hb hs)
      (hskips.reached_end hb hs (reached_startOf hu i))
    have hat : j.utc = c.utc ↔ i.face.startOf u = i.zone.rules.gapStart c := by
      rw [hutc, Reading.ahead_eq_iff, Int.neg_neg, Rules.gapStart]
    refine ⟨j, hstart hj, hzone, ?_, FirstOn.starts hu hd (hstart hj), ?_⟩
    · constructor
      · intro h c' hskips'
        obtain rfl := hskips.unique hb hs hskips'
        exact hat.mp (h.unique hfirst)
      · intro h
        rw [hat.mpr (h c hskips)]
        exact hfirst
    · intro c' hskips'
      obtain rfl := hskips.unique hb hs hskips'
      exact ⟨hfirst, hutc⟩
  · have hnone : ∀ c, ¬ i.zone.rules.Skips c (i.face.startOf u).seconds := not_exists.mp hskipped
    obtain ⟨j, hj, hzone, hface, hfirst⟩ := Zone.resolve_of_not_skipped hb hs hinner hnone
    have hfirstOn : i.FirstOn u j.utc := by
      refine firstOn_of_reached hu (Rules.firstOf_reached_of_shown hb hs hfirst) ?_
      rw [← hzone, ← face_eq, hface, hmidnight, Reading.not_lt_midnight_iff]
      exact u.firstDate_le i.face.day
    exact ⟨j, hstart hj, hzone, iff_of_true hfirstOn fun c hskips => absurd hskips (hnone c),
      FirstOn.starts hu hd (hstart hj), fun c hskips => absurd hskips (hnone c)⟩

/-- A month whose first midnight the clock of Sao Paulo skipped, so that it began at one o'clock. -/
theorem month_starts_past_midnight :
    ∃ i j : Instant, i.zone = .named "America/Sao_Paulo" Zone.Table.saoPaulo ∧
      Date.ofDay i.face.day = ⟨1967, 11, 15⟩ ∧
      i.zone.rules.Skips ⟨-68418000, -7200⟩ (i.face.startOf .months).seconds ∧
      i.startOf .months = .ok j ∧ j.face = (i.face.startOf .months).ahead 3600 ∧
      i.FirstOn .months j.utc ∧ ¬ i.utc < j.utc ∧ j.startOf .months = .ok j := by
  let i : Instant := ⟨⟨-67168800000000000, false⟩, .named "America/Sao_Paulo" Zone.Table.saoPaulo,
    by decide⟩
  obtain ⟨j, hj, hzone, -, hstarts, hskipped⟩ := startOf_isFirst_iff (i := i) (u := .months)
    (by decide) (by decide +kernel) (by decide +kernel) (by decide +kernel)
  have hskips : i.zone.rules.Skips ⟨-68418000, -7200⟩ (i.face.startOf .months).seconds :=
    ⟨by decide +kernel, by decide +kernel, by decide +kernel⟩
  have hfirst : i.FirstOn .months j.utc := by
    have hutc := (hskipped _ hskips).2.trans
      (show _ = (Change.mk (-68418000) (-7200)).utc by decide +kernel)
    rw [hutc]
    exact (hskipped _ hskips).1
  have hface : j.face = (i.face.startOf .months).ahead 3600 := by
    rw [face_eq, hzone, (hskipped _ hskips).2]
    decide +kernel
  obtain ⟨hle, hagain⟩ := hstarts hfirst
  exact ⟨i, j, rfl, by decide +kernel, hskips, hj, hface, hfirst, hle, hagain⟩

/-- The clock of Toronto was set from 23:30 on one day to 00:30 on the next, and a quarter of an
hour later the start of the day is still to come. -/
theorem day_starts_late :
    ∃ i j : Instant, i.zone = .named "America/Toronto" Zone.Table.toronto ∧
      i.zone.rules.Bounded ∧ i.zone.rules.Spaced ∧ i.utc.leap = false ∧
      Date.ofDay i.face.day = ⟨1919, 3, 31⟩ ∧ i.startOf .days = .ok j ∧ i.utc < j.utc ∧
      ¬ i.FirstOn .days j.utc := by
  let i : Instant := ⟨⟨-1601752500000000000, false⟩, .named "America/Toronto" Zone.Table.toronto,
    by decide⟩
  let j : Instant := ⟨⟨-1601751600000000000, false⟩, .named "America/Toronto" Zone.Table.toronto,
    by decide⟩
  have hlater : i.utc < j.utc := by decide
  refine ⟨i, j, rfl, by decide +kernel, by decide +kernel, rfl, by decide +kernel,
    by decide +kernel, hlater, ?_⟩
  intro hfirst
  exact hfirst.first i.utc (Reading.SameDate.self .days i.face) hlater

end Instant

end RelativeTime

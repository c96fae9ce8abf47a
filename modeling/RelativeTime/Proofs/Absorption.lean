import RelativeTime.Proofs.WeekStart

/-! Snaps side by side. Where a clock is never changed, a snap leads to the last reading of a
kind, and what begins a unit begins every finer one but the week. So a finer snap stops on the way
to where a coarser one leads, and does not move from there: it makes no difference, whether it
stands before the coarser one or behind it. -/
namespace RelativeTime

open Calendar

/-- The finer of the two is lost beside the coarser one. A week begins within any coarser unit,
and is not lost. -/
def Snap.Absorbs (coarse fine : Snap) : Prop :=
  fine.unit ≠ .weeks ∧ ¬ coarse.unit < fine.unit

instance (coarse fine : Snap) : Decidable (coarse.Absorbs fine) :=
  inferInstanceAs (Decidable (_ ∧ _))

theorem TimeUnit.MovesDate.of_finer {u v : TimeUnit} (h : v.MovesDate) (hv : ¬ u < v) :
    u.MovesDate := by
  revert h hv
  cases u <;> cases v <;> decide

theorem TimeUnit.not_days_lt {u : TimeUnit} (h : ¬ u.MovesDate) : ¬ .days < u := by
  revert h
  cases u <;> decide

theorem Snap.Absorbs.movesDate {coarse fine : Snap} (h : coarse.Absorbs fine)
    (hu : fine.unit.MovesDate) : coarse.unit.MovesDate :=
  hu.of_finer h.2

namespace Reading

variable {r a b c : Reading} {u v : TimeUnit} {s coarse fine : Snap}

/-! ### Kinds of readings -/

/-- Where all readings of one kind are of another, the last of the other lies on the way. -/
theorem LastOf.nest {kind kind' : Reading → Prop} (hkind : ∀ c, kind' c → kind c)
    (h : LastOf kind r a) (h' : LastOf kind' r b) : LastOf kind' a b where
  holds := h'.holds
  not_after := h.last b (hkind b h'.holds) h'.not_after
  last := fun c hc hac => h'.last c hc (not_lt_trans hac h.not_after)

theorem InRange.of_not_lt (ha : a.InRange) (hc : c.InRange) (hab : ¬ b < a) (hbc : ¬ c < b) :
    b.InRange :=
  ⟨Int.le_trans ha.1 (day_le_of_not_lt hab), Int.le_trans (day_le_of_not_lt hbc) hc.2⟩

theorem Begins.of_coarser (h : r.Begins u) (hv : ¬ u < v) : r.Begins v := by
  cases u <;> cases v <;>
    first
      | exact absurd (by decide) hv
      | simp_all [Begins, AtMidnight]

def BeginsSnap (s : Snap) (r : Reading) : Prop :=
  match s.unit with
  | .weeks => r.BeginsWeek (s.weekday.getD 0)
  | unit => r.Begins unit

theorem beginsSnap_weeks {asked : Option Nat} :
    r.BeginsSnap ⟨.weeks, asked⟩ ↔ r.BeginsWeek (asked.getD 0) := Iff.rfl

theorem beginsSnap_of_ne_weeks (hs : s.unit ≠ .weeks) : r.BeginsSnap s ↔ r.Begins s.unit := by
  unfold BeginsSnap
  split
  · exact absurd ‹_› hs
  · exact Iff.rfl

theorem BeginsSnap.begins (h : r.BeginsSnap s) : r.Begins s.unit := by
  rcases s.eq_weeks_or_ne with ⟨asked, rfl⟩ | hs
  · exact (beginsSnap_weeks.mp h).1
  · exact (beginsSnap_of_ne_weeks hs).mp h

theorem BeginsSnap.of_absorbs (h : coarse.Absorbs fine) (hr : r.BeginsSnap coarse) :
    r.BeginsSnap fine :=
  (beginsSnap_of_ne_weeks h.1).mpr (hr.begins.of_coarser h.2)

theorem apply_snap_weeks (r : Reading) (asked : Option Nat) :
    r.apply (.snap ⟨.weeks, asked⟩) = .midnight (weekStart (asked.getD 0) r.day) := by
  simp only [apply, startOf, plus, TimeUnit.stride, Stride.move, onDay_day, weekStart]
  congr 1
  omega

theorem apply_snap_of_ne_weeks (hs : s.unit ≠ .weeks) (r : Reading) :
    r.apply (.snap s) = r.startOf s.unit := by
  simp only [apply]

theorem lastOf_snap (hl : r.leap = false) (s : Snap) :
    LastOf (·.BeginsSnap s) r (r.apply (.snap s)) := by
  rcases s.eq_weeks_or_ne with ⟨asked, rfl⟩ | hs
  · rw [apply_snap_weeks]
    exact lastOf_beginsWeek _ r
  · rw [apply_snap_of_ne_weeks hs]
    exact (lastOf_startOf hl s.unit).congr fun c => (beginsSnap_of_ne_weeks hs).symm

theorem leap_apply_snap (hl : r.leap = false) (s : Snap) : (r.apply (.snap s)).leap = false := by
  rcases s.eq_weeks_or_ne with ⟨asked, rfl⟩ | hs
  · rw [apply_snap_weeks, midnight]
  · rw [apply_snap_of_ne_weeks hs]
    exact startOf_leap hl s.unit

theorem apply_absorbs_before (h : coarse.Absorbs fine) (hl : r.leap = false) :
    (r.apply (.snap fine)).apply (.snap coarse) = r.apply (.snap coarse) := by
  have hnest := (lastOf_snap hl fine).nest (fun _ => BeginsSnap.of_absorbs h)
    (lastOf_snap hl coarse)
  exact (lastOf_snap (leap_apply_snap hl fine) coarse).unique hnest

theorem apply_absorbs_behind (h : coarse.Absorbs fine) (hl : r.leap = false) :
    (r.apply (.snap coarse)).apply (.snap fine) = r.apply (.snap coarse) := by
  have hbegins := (lastOf_snap hl coarse).holds.of_absorbs h
  exact (lastOf_snap (leap_apply_snap hl coarse) fine).unique (LastOf.self hbegins)

end Reading

namespace Instant

variable {i j k : Instant} {zone : Zone} {offset : Int} {s coarse fine : Snap}

theorem dated_of_snap (hu : s.unit.MovesDate) (hj : s.apply i = .ok j) : i.face.InRange := by
  rcases s.eq_weeks_or_ne with ⟨asked, rfl⟩ | hs
  · simp only [Snap.apply] at hj
    obtain ⟨aligned, haligned, -⟩ := Answer.bind_eq_ok.mp hj
    exact (resolve_of_plus (by decide) haligned).1
  · rw [Snap.apply_of_ne_weeks hs] at hj
    exact ((startOf_date_eq_ok_iff hu).mp hj).1

theorem snap_constant_iff (h : zone.Unchanging offset) (hi : i.zone = zone) :
    s.apply i = .ok j ↔ (s.unit.MovesDate → i.face.InRange) ∧ j.zone = zone ∧
      j.face = i.face.apply (.snap s) := by
  constructor
  · intro hj
    exact ⟨fun hu => dated_of_snap hu hj, face_of_apply h hi (t := .snap s) hj⟩
  · rintro ⟨hd, hreached⟩
    rcases s.eq_weeks_or_ne with ⟨asked, rfl⟩ | hs
    · rw [Reading.apply_snap_weeks] at hreached
      exact (snap_weeks_iff h hi (hd (.inr (.inl rfl)))).mpr hreached
    · rw [Reading.apply_snap_of_ne_weeks hs] at hreached
      rw [Snap.apply_of_ne_weeks hs]
      by_cases hu : s.unit.MovesDate
      · exact (startOf_constant_iff h hi (hd hu)).mpr hreached
      · exact (startOf_elapsed_constant_iff h hi hu).mpr hreached

/-- The date that a snap leads to is one of the calendar. A week that began before the calendar
has no date in UTC either, or it would not have been led to. -/
theorem dated_of_snap_end (h : zone.Unchanging offset) (hi : i.zone = zone)
    (hl : i.utc.leap = false) (hd : i.face.InRange) (hj : s.apply i = .ok j) : j.face.InRange := by
  obtain ⟨-, hzone, hface⟩ := (snap_constant_iff h hi).mp hj
  rcases s.eq_weeks_or_ne with ⟨asked, rfl⟩ | hs
  · rw [Reading.apply_snap_weeks] at hface
    have hutc := j.inRange
    rw [face_constant h.rules_eq hzone] at hface
    rw [Reading.ahead_eq_iff.mp hface] at hutc
    rw [face_constant h.rules_eq hzone, hface, Reading.InRange, Reading.midnight_day]
    exact (inRange_of_midnight h hi hd (weekStart_le _ _) hutc).1
  · rw [Reading.apply_snap_of_ne_weeks hs] at hface
    rw [hface]
    exact (lastOf_face hl s.unit).inRange hd

theorem utc_constant (h : zone.Unchanging offset) (hi : i.zone = zone) :
    i.utc = i.face.ahead (-offset) :=
  Reading.ahead_eq_iff.mp (face_constant h.rules_eq hi).symm

section Absorbed

variable (h : zone.Unchanging offset) (hi : i.zone = zone) (hl : i.utc.leap = false)
  (ha : coarse.Absorbs fine)
include h hi hl ha

theorem exists_finer_snap (hj : coarse.apply i = .ok j) : ∃ k, fine.apply i = .ok k := by
  obtain ⟨hd, hzone, hface⟩ := (snap_constant_iff h hi).mp hj
  have hfine := Reading.lastOf_snap (r := i.face) hl fine
  have hnest := hfine.nest (fun _ => Reading.BeginsSnap.of_absorbs ha)
    (Reading.lastOf_snap (r := i.face) hl coarse)
  rw [← hface] at hnest
  have hrange : ((i.face.apply (.snap fine)).ahead (-offset)).InRange := by
    refine Reading.InRange.of_not_lt j.inRange i.inRange ?_ ?_
    · rw [utc_constant h hzone, Reading.ahead_lt_ahead_iff]
      exact hnest.not_after
    · rw [utc_constant h hi, Reading.ahead_lt_ahead_iff]
      exact hfine.not_after
  refine ⟨⟨_, zone, hrange⟩, (snap_constant_iff h hi).mpr ⟨fun hu => hd ?_, rfl, ?_⟩⟩
  · exact ha.movesDate hu
  · exact face_of_ahead_neg h.rules_eq hrange

theorem dated_of_finer_snap (hk : fine.apply i = .ok k) (hd : k.face.InRange) :
    i.face.InRange := by
  by_cases hu' : fine.unit.MovesDate
  · exact dated_of_snap hu' hk
  · -- Up to hours all units begin at midnight.
    obtain ⟨-, -, hface⟩ := (snap_constant_iff h hi).mp hk
    have hfine := Reading.lastOf_snap (r := i.face) hl fine
    rw [← hface] at hfine
    have hmidnight : (Reading.midnight i.face.day).BeginsSnap fine := by
      have hday : (Reading.midnight i.face.day).Begins .days :=
        Reading.atMidnight_iff.mpr (by rw [Reading.midnight_day])
      exact (Reading.beginsSnap_of_ne_weeks ha.1).mpr (hday.of_coarser (TimeUnit.not_days_lt hu'))
    have hnot := hfine.last _ hmidnight (Reading.not_lt_midnight_iff.mpr (Int.le_refl _))
    have hsame : i.face.day = k.face.day :=
      Int.le_antisymm (Reading.not_lt_midnight_iff.mp hnot)
        (Reading.day_le_of_not_lt hfine.not_after)
    rw [Reading.InRange, hsame]
    exact hd

theorem snap_absorbed_before :
    coarse.apply i = .ok j ↔ ∃ k, fine.apply i = .ok k ∧ coarse.apply k = .ok j := by
  have hsame := Reading.apply_absorbs_before (r := i.face) ha hl
  constructor
  · intro hj
    obtain ⟨hd, hzone, hface⟩ := (snap_constant_iff h hi).mp hj
    obtain ⟨k, hk⟩ := exists_finer_snap h hi hl ha hj
    obtain ⟨-, hzone', hface'⟩ := (snap_constant_iff h hi).mp hk
    refine ⟨k, hk, (snap_constant_iff h hzone').mpr ⟨fun hu => ?_, hzone, ?_⟩⟩
    · exact dated_of_snap_end h hi hl (hd hu) hk
    · rw [hface', hsame, hface]
  · rintro ⟨k, hk, hj⟩
    obtain ⟨-, hzone', hface'⟩ := (snap_constant_iff h hi).mp hk
    obtain ⟨hd, hzone, hface⟩ := (snap_constant_iff h hzone').mp hj
    refine (snap_constant_iff h hi).mpr ⟨fun hu => ?_, hzone, ?_⟩
    · exact dated_of_finer_snap h hi hl ha hk (hd hu)
    · rw [hface, hface', hsame]

theorem snap_absorbed_behind (hj : coarse.apply i = .ok j) : fine.apply j = .ok j := by
  obtain ⟨hd, hzone, hface⟩ := (snap_constant_iff h hi).mp hj
  refine (snap_constant_iff h hzone).mpr ⟨fun hu => ?_, hzone, ?_⟩
  · exact dated_of_snap_end h hi hl (hd (ha.movesDate hu)) hj
  · rw [hface, Reading.apply_absorbs_behind (r := i.face) ha hl]

end Absorbed

/-! ### Instructions -/

section Removed

variable (h : zone.Unchanging offset) (hi : i.zone = zone) (hl : i.utc.leap = false)
  (ha : coarse.Absorbs fine) {ts ts' : List Token}
include h hi hl ha

theorem evaluate_absorbed_before :
    evaluate i (ts ++ [.snap fine, .snap coarse] ++ ts') = .ok j ↔
      evaluate i (ts ++ [.snap coarse] ++ ts') = .ok j := by
  refine evaluate_replaced hl fun a k hzone hplain => ?_
  rw [evaluate_cons, Answer.bind_eq_ok]
  simp only [evaluate_singleton, Token.apply]
  exact (snap_absorbed_before h (hzone.trans hi) hplain ha).symm

theorem evaluate_absorbed_behind :
    evaluate i (ts ++ [.snap coarse, .snap fine] ++ ts') = .ok j ↔
      evaluate i (ts ++ [.snap coarse] ++ ts') = .ok j := by
  refine evaluate_replaced hl fun a k hzone hplain => ?_
  rw [evaluate_cons, Answer.bind_eq_ok]
  simp only [evaluate_singleton, Token.apply]
  constructor
  · rintro ⟨l, hcoarse, hfine⟩
    have hstays := snap_absorbed_behind h (hzone.trans hi) hplain ha hcoarse
    rw [hcoarse, ← hfine, hstays]
  · intro hcoarse
    exact ⟨k, hcoarse, snap_absorbed_behind h (hzone.trans hi) hplain ha hcoarse⟩

end Removed

/-- Under a fixed offset, a finer snap stops on the way to where a coarser one leads, and stays
there. So it can be left out of an instruction, directly before the coarser one and directly
behind it. Neither the wall clock nor UTC has to have a date for more than the coarser snap asks
for. -/
theorem snap_absorbs_finer (h : zone.Unchanging offset) (hi : i.zone = zone)
    (hl : i.utc.leap = false) :
    (∀ fine coarse : TimeUnit, fine ≠ .weeks → coarse ≠ .weeks → ¬ coarse < fine →
      ∀ j, i.startOf coarse = .ok j →
        (∃ k, i.startOf fine = .ok k ∧ k.startOf coarse = .ok j) ∧ j.startOf fine = .ok j) ∧
    (∀ (fine : TimeUnit) (asked : Option Nat), ¬ .days < fine →
      ∀ j, (Snap.mk .weeks asked).apply i = .ok j →
        (∃ k, i.startOf fine = .ok k ∧ (Snap.mk .weeks asked).apply k = .ok j) ∧
          j.startOf fine = .ok j) ∧
    ∀ fine coarse : Snap, coarse.Absorbs fine → ∀ ts ts' j,
      (evaluate i (ts ++ [.snap fine, .snap coarse] ++ ts') = .ok j ↔
        evaluate i (ts ++ [.snap coarse] ++ ts') = .ok j) ∧
      (evaluate i (ts ++ [.snap coarse, .snap fine] ++ ts') = .ok j ↔
        evaluate i (ts ++ [.snap coarse] ++ ts') = .ok j) := by
  have hone {fine coarse : Snap} (ha : coarse.Absorbs fine) {j : Instant}
      (hj : coarse.apply i = .ok j) :
      (∃ k, fine.apply i = .ok k ∧ coarse.apply k = .ok j) ∧ fine.apply j = .ok j :=
    ⟨(snap_absorbed_before h hi hl ha).mp hj, snap_absorbed_behind h hi hl ha hj⟩
  refine ⟨fun fine coarse hfine hcoarse hle j hj => ?_, fun fine asked hle j hj => ?_,
    fun fine coarse ha ts ts' j => ?_⟩
  · have happly {u : TimeUnit} (hu : u ≠ .weeks) (i : Instant) :
        (Snap.mk u none).apply i = i.startOf u := Snap.apply_of_ne_weeks hu i
    have habsorbs : (Snap.mk coarse none).Absorbs ⟨fine, none⟩ := ⟨hfine, hle⟩
    simpa only [happly hfine, happly hcoarse] using
      hone habsorbs ((happly hcoarse i).trans hj)
  · have hfine : fine ≠ .weeks ∧ ¬ TimeUnit.weeks < fine := by
      revert hle
      cases fine <;> decide
    have happly (i : Instant) : (Snap.mk fine none).apply i = i.startOf fine :=
      Snap.apply_of_ne_weeks hfine.1 i
    have habsorbs : (Snap.mk .weeks asked).Absorbs ⟨fine, none⟩ := hfine
    simpa only [happly] using hone habsorbs hj
  · exact ⟨evaluate_absorbed_before h hi hl ha, evaluate_absorbed_behind h hi hl ha⟩

/-- On a clock behind UTC, in the first hour of the calendar. The year and the minute begin on the
day that is the first in UTC, too. -/
theorem snap_absorbs_finer_in_first_hour :
    ∃ (i j k : Instant), i.zone.Unchanging (-20700) ∧ i.utc.leap = false ∧ i.face.InRange ∧
      Date.ofDay i.face.day = ⟨-262143, 1, 1⟩ ∧ i.startOf .years = .ok j ∧
      i.startOf .minutes = .ok k ∧ k.utc ≠ i.utc ∧ k.utc ≠ j.utc ∧ k.startOf .years = .ok j ∧
      j.startOf .minutes = .ok j := by
  let i : Instant := ⟨⟨-8334601207192750000000, false⟩, .fixed ⟨-20700, by decide, by decide⟩,
    by decide⟩
  let j : Instant := ⟨⟨-8334601208100000000000, false⟩, .fixed ⟨-20700, by decide, by decide⟩,
    by decide⟩
  have hu : i.zone.Unchanging (-20700) := ⟨rfl, by decide⟩
  have hj : i.startOf .years = .ok j := by decide +kernel
  obtain ⟨⟨k, hk, hagain⟩, hstays⟩ := (snap_absorbs_finer hu rfl rfl).1 .minutes .years (by decide)
    (by decide) (by decide) j hj
  have hutc : k.utc = ⟨-8334601207200000000000, false⟩ :=
    ((startOf_elapsed_eq_ok_iff rfl).mp hk).2.trans (by decide)
  exact ⟨i, j, k, hu, rfl, by decide, by decide, hj, hk, by rw [hutc]; decide,
    by rw [hutc]; decide, hagain, hstays⟩

end Instant

end RelativeTime

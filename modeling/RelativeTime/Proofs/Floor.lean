import RelativeTime.Proofs.Unreported
import RelativeTime.Proofs.WallClock

/-! Truncation as a floor. Where a clock is never changed, the start of a unit is the last
instant, not after the given one, at which the wall clock shows that one of the units begins.
Which readings do is told from the face of the clock alone, so that taking off elapsed time and
going back to a midnight come to the same. -/
namespace RelativeTime

open Calendar

namespace Reading

variable {kind kind' : Reading → Prop} {a b b' c r r' : Reading} {u : TimeUnit}

/-! ### The last one of a kind -/

theorem eq_of_not_lt (h : ¬ a < b) (h' : ¬ b < a) : a = b := by
  change ¬ (a.seconds < b.seconds ∨ a.seconds = b.seconds ∧ a.subsecond < b.subsecond) at h
  change ¬ (b.seconds < a.seconds ∨ b.seconds = a.seconds ∧ b.subsecond < a.subsecond) at h'
  obtain ⟨n, l⟩ := a
  obtain ⟨n', l'⟩ := b
  simp only [seconds, subsecond, inserted] at h h'
  cases l <;> cases l' <;>
    simp only [Bool.false_eq_true, if_true, if_false, mk.injEq, reduceCtorEq, and_true,
      and_false] at h h' ⊢
  all_goals omega

theorem not_lt_trans (h : ¬ b < a) (h' : ¬ c < b) : ¬ c < a := by
  change ¬ (b.seconds < a.seconds ∨ b.seconds = a.seconds ∧ b.subsecond < a.subsecond) at h
  change ¬ (c.seconds < b.seconds ∨ c.seconds = b.seconds ∧ c.subsecond < b.subsecond) at h'
  change ¬ (c.seconds < a.seconds ∨ c.seconds = a.seconds ∧ c.subsecond < a.subsecond)
  omega

/-- Among the readings of a kind, the last that is not after a reading. -/
structure LastOf (kind : Reading → Prop) (r b : Reading) : Prop where
  holds : kind b
  not_after : ¬ r < b
  last : ∀ c, kind c → ¬ r < c → ¬ b < c

namespace LastOf

theorem unique (h : LastOf kind r b) (h' : LastOf kind r b') : b = b' :=
  eq_of_not_lt (h.last b' h'.holds h'.not_after) (h'.last b h.holds h.not_after)

theorem mono (h : LastOf kind r b) (h' : LastOf kind r' b') (hr : ¬ r' < r) : ¬ b' < b :=
  h'.last b h.holds (not_lt_trans h.not_after hr)

theorem self (h : kind r) : LastOf kind r r where
  holds := h
  not_after := fun hlt => lt_asymm hlt hlt
  last := fun _ _ hc => hc

theorem congr (h : ∀ c, kind c ↔ kind' c) (hb : LastOf kind r b) : LastOf kind' r b where
  holds := (h b).mp hb.holds
  not_after := hb.not_after
  last := fun c hc => hb.last c ((h c).mpr hc)

theorem ahead_iff (offset : Int) : LastOf (fun c => kind (c.ahead offset)) r b ↔
    LastOf kind (r.ahead offset) (b.ahead offset) := by
  constructor
  · intro h
    refine ⟨h.holds, (ahead_lt_ahead_iff offset).not.mpr h.not_after, fun c hc hrc => ?_⟩
    have hback : (c.ahead (-offset)).ahead offset = c := by
      rw [ahead_ahead, Int.add_left_neg, ahead_zero]
    rw [← hback, ahead_lt_ahead_iff] at hrc ⊢
    exact h.last _ (hback.symm ▸ hc) hrc
  · intro h
    refine ⟨h.holds, (ahead_lt_ahead_iff offset).not.mp h.not_after, fun c hc hrc => ?_⟩
    rw [← ahead_lt_ahead_iff offset] at hrc ⊢
    exact h.last _ hc hrc

end LastOf

/-! ### Midnights -/

def AtMidnight (r : Reading) : Prop := r.hour = 0 ∧ r.minute = 0 ∧ r.second = 0 ∧ r.fraction = 0

theorem second_of_leap (h : r.leap = true) : r.second ≠ 0 := by
  simp [second, h]

theorem atMidnight_iff : r.AtMidnight ↔ r = .midnight r.day := by
  obtain ⟨n, l⟩ := r
  cases l with
  | false =>
    simp only [AtMidnight, hour, minute, second, fraction, secondOfDay, timeOfDay, midnight, day,
      mk.injEq, and_true, Bool.false_eq_true, if_false]
    omega
  | true =>
    have hsecond : (⟨n, true⟩ : Reading).second ≠ 0 := second_of_leap rfl
    simp [AtMidnight, midnight, hsecond]

theorem lt_whole_iff {second : Int} :
    r < ⟨1000000000 * second, false⟩ ↔ r.seconds < second := by
  change r.seconds < (⟨1000000000 * second, false⟩ : Reading).seconds ∨
    r.seconds = (⟨1000000000 * second, false⟩ : Reading).seconds ∧
      r.subsecond < (⟨1000000000 * second, false⟩ : Reading).subsecond ↔ _
  have hinserted : 0 ≤ r.inserted := by
    unfold inserted
    split <;> omega
  simp only [seconds, subsecond] at hinserted ⊢
  simp only [inserted, Bool.false_eq_true, if_false] at hinserted ⊢
  omega

theorem not_lt_midnight_iff {date : Int} : ¬ r < .midnight date ↔ date ≤ r.day := by
  have hwhole : midnight date = ⟨1000000000 * (86400 * date), false⟩ := by
    simp only [midnight, mk.injEq, and_true]
    omega
  rw [hwhole, lt_whole_iff]
  simp only [seconds, day]
  omega

theorem seconds_le_of_not_lt (h : ¬ r < b) : b.seconds ≤ r.seconds :=
  Int.not_lt.mp fun hlt => h (.inl hlt)

theorem day_le_of_not_lt (h : ¬ r < b) : b.day ≤ r.day := by
  have hle := seconds_le_of_not_lt h
  simp only [seconds] at hle
  simp only [day]
  omega

theorem lastOf_midnight (first : Int → Int) (hle : ∀ day, first day ≤ day)
    (hmono : ∀ day day', day ≤ day' → first day ≤ first day')
    (hagain : ∀ day, first (first day) = first day) (r : Reading) :
    LastOf (fun c => c.AtMidnight ∧ first c.day = c.day) r (.midnight (first r.day)) where
  holds := by
    rw [atMidnight_iff, midnight_day]
    exact ⟨rfl, hagain r.day⟩
  not_after := not_lt_midnight_iff.mpr (hle r.day)
  last := by
    rintro c ⟨hc, hday⟩ hrc
    rw [atMidnight_iff.mp hc, not_lt_midnight_iff, midnight_day, ← hday]
    exact hmono c.day r.day (day_le_of_not_lt hrc)

/-! ### Where units begin -/

/-- The clock shows that one of the units begins. A week is not told from a day. -/
def Begins (r : Reading) : TimeUnit → Prop
  | .milliseconds => r.fraction % 1000000 = 0
  | .seconds => r.fraction = 0
  | .minutes => r.second = 0 ∧ r.fraction = 0
  | .hours => r.minute = 0 ∧ r.second = 0 ∧ r.fraction = 0
  | .days => r.AtMidnight
  | .weeks => r.AtMidnight
  | .months => r.AtMidnight ∧ (Date.ofDay r.day).day = 1
  | .years => r.AtMidnight ∧ (Date.ofDay r.day).month = 1 ∧ (Date.ofDay r.day).day = 1

theorem begins_elapsed_iff {nanos : Int} (hu : u.stride = .elapsed nanos) (hl : r.leap = false) :
    r.Begins u ↔ r.nanos % nanos = 0 := by
  obtain ⟨n, l⟩ := r
  obtain rfl : l = false := hl
  rcases TimeUnit.elapsed_cases hu with ⟨rfl, rfl⟩ | ⟨rfl, rfl⟩ | ⟨rfl, rfl⟩ | ⟨rfl, rfl⟩ <;>
    simp only [Begins, minute, second, fraction, secondOfDay, timeOfDay, Bool.false_eq_true,
      if_false] <;> omega

theorem begins_of_leap {nanos : Int} (hu : u.stride = .elapsed nanos) (hl : r.leap = true)
    (h : r.Begins u) : 1000000000 % nanos = 0 := by
  rcases TimeUnit.elapsed_cases hu with ⟨rfl, rfl⟩ | ⟨rfl, rfl⟩ | ⟨rfl, -⟩ | ⟨rfl, -⟩
  · decide
  · decide
  · exact absurd h.1 (second_of_leap hl)
  · exact absurd h.2.1 (second_of_leap hl)

theorem begins_date_iff (hu : u.MovesDate) :
    r.Begins u ↔ r.AtMidnight ∧ u.firstDate r.day = r.day := by
  have hle := monthStart_monthOf_le r.day
  rcases hu with rfl | rfl | rfl | rfl
  · exact (and_iff_left rfl).symm
  · exact (and_iff_left rfl).symm
  · simp only [Begins, Date.ofDay, TimeUnit.firstDate, TimeUnit.stride, Int.ediv_one, Int.one_mul,
      and_congr_right_iff]
    omega
  · simp only [Begins, Date.ofDay, TimeUnit.firstDate, TimeUnit.stride, and_congr_right_iff]
    intro _
    constructor
    · rintro ⟨hmonth, hday⟩
      rw [show 12 * (monthOf r.day / 12) = monthOf r.day by omega]
      omega
    · intro h
      have hjanuary : monthOf r.day = 12 * (monthOf r.day / 12) := by
        conv => lhs; rw [← h]
        exact monthOf_monthStart _
      rw [← hjanuary] at h
      omega

theorem startOf_elapsed {nanos : Int} (hu : u.stride = .elapsed nanos) (hl : r.leap = false) :
    r.startOf u = ⟨r.nanos - r.nanos % nanos, false⟩ := by
  simp only [startOf, hu, after_of_not_leap hl, Int.sub_eq_add_neg]

theorem startOf_leap (hl : r.leap = false) (u : TimeUnit) : (r.startOf u).leap = false := by
  cases hu : u.stride with
  | elapsed nanos => rw [startOf_elapsed hu hl]
  | days count => simp only [startOf, hu, midnight]
  | months count => simp only [startOf, hu, midnight]

/-- Taking off elapsed time. An inserted second that lies before the reading lies before the whole
of the second that the reading is in. -/
theorem lastOf_elapsed {nanos : Int} (hu : u.stride = .elapsed nanos) (hl : r.leap = false) :
    LastOf (·.Begins u) r (r.startOf u) := by
  rw [startOf_elapsed hu hl]
  have hcases := TimeUnit.elapsed_cases hu
  refine ⟨(begins_elapsed_iff hu rfl).mpr ?_, ?_, ?_⟩
  · simp only
    rcases hcases with ⟨-, rfl⟩ | ⟨-, rfl⟩ | ⟨-, rfl⟩ | ⟨-, rfl⟩ <;> omega
  · rw [lt_iff_of_not_leap hl rfl]
    simp only
    rcases hcases with ⟨-, rfl⟩ | ⟨-, rfl⟩ | ⟨-, rfl⟩ | ⟨-, rfl⟩ <;> omega
  · intro c hc hrc
    cases hleap : c.leap with
    | false =>
      have hzero := (begins_elapsed_iff hu hleap).mp hc
      rw [lt_iff_of_not_leap hl hleap] at hrc
      rw [lt_iff_of_not_leap rfl hleap]
      simp only
      rcases hcases with ⟨-, rfl⟩ | ⟨-, rfl⟩ | ⟨-, rfl⟩ | ⟨-, rfl⟩ <;> omega
    | true =>
      have hdivides := begins_of_leap hu hleap hc
      change ¬ (r.seconds < c.seconds ∨ r.seconds = c.seconds ∧ r.subsecond < c.subsecond) at hrc
      change ¬ (_ < c.seconds ∨ _ = c.seconds ∧ _ < c.subsecond)
      simp only [seconds, subsecond, inserted, hl, hleap, if_true, Bool.false_eq_true, if_false]
        at hrc ⊢
      rcases hcases with ⟨-, rfl⟩ | ⟨-, rfl⟩ | ⟨-, rfl⟩ | ⟨-, rfl⟩ <;> omega

theorem lastOf_startOf (hl : r.leap = false) (u : TimeUnit) :
    LastOf (·.Begins u) r (r.startOf u) := by
  by_cases hu : u.MovesDate
  · rw [startOf_of_movesDate hu]
    exact (lastOf_midnight u.firstDate u.firstDate_le (fun _ _ => u.firstDate_mono)
      u.firstDate_again r).congr fun c => (begins_date_iff hu).symm
  · obtain ⟨nanos, hnanos⟩ := TimeUnit.exists_elapsed hu
    exact lastOf_elapsed hnanos hl

theorem begins_firstDay (u : TimeUnit) : (midnight firstDay).Begins u := by
  cases u <;> simp only [Begins, AtMidnight] <;> decide +kernel

/-- The calendar begins with a year, so that no unit begins before it. -/
theorem LastOf.inRange (h : LastOf (·.Begins u) r b) (hr : r.InRange) : b.InRange := by
  have hfirst := h.last _ (begins_firstDay u) (not_lt_midnight_iff.mpr hr.1)
  have hlast := day_le_of_not_lt h.not_after
  exact ⟨not_lt_midnight_iff.mp hfirst, Int.le_trans hlast hr.2⟩

end Reading

namespace Instant

variable {i j : Instant} {zone : Zone} {offset : Int} {u : TimeUnit} {b : Reading}

theorem startOf_elapsed_constant_iff (h : zone.Unchanging offset) (hi : i.zone = zone)
    (hu : ¬ u.MovesDate) : i.startOf u = .ok j ↔ j.zone = zone ∧ j.face = i.face.startOf u := by
  constructor
  · exact face_of_startOf h hi
  · rintro ⟨hzone, hface⟩
    obtain ⟨nanos, hnanos⟩ := TimeUnit.exists_elapsed hu
    simp only [Reading.startOf, hnanos] at hface
    rw [face_constant h.rules_eq hzone, face_constant h.rules_eq hi, Reading.ahead_after,
      Reading.ahead_eq_iff, Reading.ahead_ahead, Int.add_right_neg, Reading.ahead_zero,
      ← face_constant h.rules_eq hi] at hface
    exact (startOf_elapsed_eq_ok_iff hnanos).mpr ⟨hzone.trans hi.symm, hface⟩

theorem startOf_constant_iff (h : zone.Unchanging offset) (hi : i.zone = zone)
    (hd : i.face.InRange) :
    i.startOf u = .ok j ↔ j.zone = zone ∧ j.face = i.face.startOf u := by
  by_cases hu : u.MovesDate
  · rw [startOf_date_eq_ok_iff hu, hi, Reading.startOf_of_movesDate hu,
      Zone.resolve_constant_iff h.rules_eq h.bounds]
    exact and_iff_right hd
  · exact startOf_elapsed_constant_iff h hi hu

/-! ### From the wall clock to the instant -/

section Shown

variable {kind : Reading → Prop} {shown : Reading}

theorem lastOf_utc_iff (h : zone.Unchanging offset) (hi : i.zone = zone)
    (hshown : Reading.LastOf kind i.face shown) :
    Reading.LastOf (fun c => kind (c.ahead offset)) i.utc b ↔ b.ahead offset = shown := by
  rw [Reading.LastOf.ahead_iff, ← face_constant h.rules_eq hi]
  constructor
  · intro hb
    exact hb.unique hshown
  · intro hb
    exact hb ▸ hshown

theorem exists_lastOf_utc (h : zone.Unchanging offset) (hi : i.zone = zone)
    (hshown : Reading.LastOf kind i.face shown) :
    ∃ b, Reading.LastOf (fun c => kind (c.ahead offset)) i.utc b := by
  refine ⟨shown.ahead (-offset), (lastOf_utc_iff h hi hshown).mpr ?_⟩
  rw [Reading.ahead_ahead, Int.add_left_neg, Reading.ahead_zero]

/-- An operation that gives the instant that shows the last one gives the last instant, and where no
instant shows it, this is reported. -/
theorem ok_or_reported {act : Answer Instant} (h : zone.Unchanging offset) (hi : i.zone = zone)
    (hact : ∀ j, act = .ok j ↔ j.zone = zone ∧ j.face = shown) (htransforms : act.Transforms)
    (hdates : act ≠ .error .unshowable) (hshown : Reading.LastOf kind i.face shown)
    (hb : Reading.LastOf (fun c => kind (c.ahead offset)) i.utc b) :
    (∀ hr : b.InRange, act = .ok ⟨b, zone, hr⟩) ∧
      (¬ b.InRange → ∃ e, act = .error (.reported e) ∧ e.kind = .transform) := by
  have hlast := (lastOf_utc_iff h hi hshown).mp hb
  constructor
  · intro hr
    rw [hact, face_constant h.rules_eq rfl]
    exact ⟨rfl, hlast⟩
  · intro hr
    cases act with
    | ok j =>
      obtain ⟨hzone, hface⟩ := (hact j).mp rfl
      rw [face_constant h.rules_eq hzone] at hface
      obtain rfl := hb.unique ((lastOf_utc_iff h hi hshown).mpr hface)
      exact absurd j.inRange hr
    | error f =>
      cases f with
      | reported e => exact ⟨e, rfl, htransforms e rfl⟩
      | unshowable => exact absurd rfl hdates

end Shown

theorem lastOf_face (hl : i.utc.leap = false) (u : TimeUnit) :
    Reading.LastOf (·.Begins u) i.face (i.face.startOf u) :=
  Reading.lastOf_startOf (r := i.face) hl u

theorem lastOf_of_startOf (h : zone.Unchanging offset) (hi : i.zone = zone)
    (hl : i.utc.leap = false) (hj : i.startOf u = .ok j) :
    Reading.LastOf (fun c => (c.ahead offset).Begins u) i.utc j.utc := by
  obtain ⟨hzone, hface⟩ := face_of_startOf h hi hj
  rw [lastOf_utc_iff h hi (lastOf_face hl u), ← face_constant h.rules_eq hzone, hface]

theorem startOf_ne_unshowable (hd : i.face.InRange) (u : TimeUnit) :
    i.startOf u ≠ .error .unshowable := by
  intro h
  exact (startOf_unshowable_iff.mp h).2 hd

theorem startOf_startOf (h : zone.Unchanging offset) (hi : i.zone = zone)
    (hl : i.utc.leap = false) (hd : i.face.InRange) (hj : i.startOf u = .ok j) :
    j.startOf u = .ok j := by
  obtain ⟨hzone, hface⟩ := face_of_startOf h hi hj
  have hlast : Reading.LastOf (·.Begins u) i.face j.face := hface ▸ lastOf_face hl u
  have hplain : j.face.leap = false := hface ▸ Reading.startOf_leap (r := i.face) hl u
  have hagain := (Reading.LastOf.self hlast.holds).unique (Reading.lastOf_startOf hplain u)
  exact (startOf_constant_iff h hzone (hlast.inRange hd)).mpr ⟨hzone, hagain⟩

/-- Under a fixed offset, the start of a unit is the last instant, not after the given one, at which
the wall clock shows that one of the units begins, and there is always a last one. If it has no date
in UTC, this is reported. So the start is never later, starts itself, and for a later instant is not
earlier. -/
theorem startOf_isFloor (h : zone.Unchanging offset) (hi : i.zone = zone)
    (hl : i.utc.leap = false) (hd : i.face.InRange) (u : TimeUnit) :
    (∃ b, Reading.LastOf (fun c => (c.ahead offset).Begins u) i.utc b) ∧
    (∀ b, Reading.LastOf (fun c => (c.ahead offset).Begins u) i.utc b →
      (∀ hb : b.InRange, i.startOf u = .ok ⟨b, zone, hb⟩) ∧
      (¬ b.InRange → ∃ e, i.startOf u = .error (.reported e) ∧ e.kind = .transform)) ∧
    ∀ j, i.startOf u = .ok j → ¬ i.utc < j.utc ∧ j.startOf u = .ok j ∧
      ∀ i' j' : Instant, i'.zone = zone → i'.utc.leap = false → i'.startOf u = .ok j' →
        ¬ i'.utc < i.utc → ¬ j'.utc < j.utc := by
  have hshown := lastOf_face hl u
  refine ⟨exists_lastOf_utc h hi hshown, fun b hb => ?_, fun j hj => ⟨?_, ?_, ?_⟩⟩
  · exact ok_or_reported h hi (fun j => startOf_constant_iff h hi hd) (i.startOf_transforms u)
      (startOf_ne_unshowable hd u) hshown hb
  · exact (lastOf_of_startOf h hi hl hj).not_after
  · exact startOf_startOf h hi hl hd hj
  · intro i' j' hi' hl' hj' hlater
    exact (lastOf_of_startOf h hi hl hj).mono (lastOf_of_startOf h hi' hl' hj') hlater

/-- The first hours of a year before the first, on a clock whose new year in UTC is in the year
before. -/
theorem startOf_isFloor_before_first_year :
    ∃ (zone : Zone) (i j : Instant) (b : Reading), zone.Unchanging 20700 ∧ i.zone = zone ∧
      i.utc.leap = false ∧ i.face.InRange ∧ (Date.ofDay i.face.day).year = -4 ∧
      Reading.LastOf (fun c => (c.ahead 20700).Begins .years) i.utc b ∧
      i.startOf .years = .ok j ∧ j.utc = b ∧ b = ⟨-62293470300000000000, false⟩ := by
  have hu : (Zone.fixed ⟨20700, by decide, by decide⟩).Unchanging 20700 := ⟨rfl, by decide⟩
  obtain ⟨⟨b, hb⟩, hfloor, -⟩ := startOf_isFloor
    (i := ⟨⟨-62293459499876543211, false⟩, .fixed ⟨20700, by decide, by decide⟩, by decide⟩)
    hu rfl rfl (by decide) .years
  have hface := (lastOf_utc_iff hu rfl (lastOf_face rfl .years)).mp hb
  have hvalue : b = ⟨-62293470300000000000, false⟩ :=
    (Reading.ahead_eq_iff.mp hface).trans (by decide)
  have hr : b.InRange := by
    rw [hvalue]
    decide
  exact ⟨_, _, _, b, hu, rfl, rfl, by decide, by decide, hb, (hfloor b hb).1 hr, rfl, hvalue⟩

/-- East of UTC the first hours of the calendar have no start of the day. -/
example :
    let i : Instant := ⟨⟨-8334601228800000000000, false⟩, .fixed ⟨3600, by decide, by decide⟩,
      by decide⟩
    i.face.InRange ∧ i.startOf .hours = .ok i ∧
      i.startOf .days = .error (.reported (.readingOutOfRange (.midnight firstDay))) := by
  decide +kernel

end Instant

end RelativeTime

/-!
The Gregorian calendar by months, extended in both directions without end.

Days are counted from 1 January 1970, months from January of year 0: `12 * year + month - 1`.
`monthStart` and `monthOf` are adjoint (`monthStart_le_iff`), and this alone places every day in
exactly one month. A leap day stands at the end of a year that begins in March, so that the lengths
of the months before it do not depend on the year.
-/
namespace RelativeTime.Calendar

/-- Leap days in the years from 0 up to `y`: one in four years, less one in a hundred, plus one
in four hundred. -/
def leapDays (y : Int) : Int :=
  let fours := y / 4
  let centuries := fours / 25
  fours - centuries + centuries / 4

/-- The first day of a month. From March on, five months in a row have 153 days. -/
def monthStart (m : Int) : Int :=
  let y := (m - 2) / 12
  365 * y + leapDays y + (153 * ((m - 2) % 12) + 2) / 5 - 719468

/-- The month of a day. 4800 months have 146097 days, and a guess by that proportion is the month
or the next one. -/
def monthOf (day : Int) : Int :=
  let guess := (4800 * day + 3453750000) / 146097
  if day < monthStart guess then guess - 1 else guess

def monthLength (m : Int) : Int := monthStart (m + 1) - monthStart m

theorem le_monthStart (m : Int) : 146097 * m - 3453750000 ≤ 4800 * monthStart m := by
  simp only [monthStart, leapDays]
  omega

theorem monthStart_le (m : Int) : 4800 * monthStart m ≤ 146097 * m - 3453720000 := by
  simp only [monthStart, leapDays]
  omega

theorem monthLength_bounds (m : Int) : 28 ≤ monthLength m ∧ monthLength m ≤ 31 := by
  have hr : 0 ≤ (m - 2) % 12 ∧ (m - 2) % 12 < 12 := by omega
  have h : (m + 1 - 2) % 12 = (m - 2) % 12 + 1 ∧ (m + 1 - 2) / 12 = (m - 2) / 12 ∨
      (m - 2) % 12 = 11 ∧ (m + 1 - 2) % 12 = 0 ∧ (m + 1 - 2) / 12 = (m - 2) / 12 + 1 := by omega
  simp only [monthLength, monthStart, leapDays]
  rcases h with ⟨h, h'⟩ | ⟨h, h', h''⟩
  · rw [h, h']
    omega
  · rw [h, h', h'']
    omega

theorem monthStart_mono {a b : Int} (h : a ≤ b) : monthStart a ≤ monthStart b := by
  obtain ⟨k, rfl⟩ : ∃ k : Nat, b = a + k := ⟨(b - a).toNat, by omega⟩
  clear h
  induction k with
  | zero => simp
  | succ k ih =>
    have step := (monthLength_bounds (a + k)).1
    rw [show a + ((k + 1 : Nat) : Int) = a + k + 1 by omega]
    unfold monthLength at step
    omega

theorem monthStart_le_iff {m day : Int} : monthStart m ≤ day ↔ m ≤ monthOf day := by
  have below := monthStart_le ((4800 * day + 3453750000) / 146097 - 1)
  have above := le_monthStart ((4800 * day + 3453750000) / 146097 + 1)
  unfold monthOf
  generalize hg : (4800 * day + 3453750000) / 146097 = g at *
  simp only
  split
  · refine ⟨fun h => ?_, fun h => ?_⟩
    · by_cases hm : m < g
      · omega
      · have := monthStart_mono (Int.not_lt.1 hm)
        omega
    · have := monthStart_mono h
      omega
  · refine ⟨fun h => ?_, fun h => ?_⟩
    · by_cases hm : m < g + 1
      · omega
      · have := monthStart_mono (Int.not_lt.1 hm)
        omega
    · have := monthStart_mono h
      omega

theorem monthStart_monthOf_le (day : Int) : monthStart (monthOf day) ≤ day :=
  monthStart_le_iff.2 (Int.le_refl _)

theorem lt_monthStart_monthOf_succ (day : Int) : day < monthStart (monthOf day + 1) := by
  by_cases h : day < monthStart (monthOf day + 1)
  · exact h
  · have := monthStart_le_iff.1 (Int.not_lt.1 h)
    omega

theorem monthOf_eq_iff {m day : Int} :
    monthOf day = m ↔ monthStart m ≤ day ∧ day < monthStart (m + 1) := by
  constructor
  · rintro rfl
    exact ⟨monthStart_monthOf_le day, lt_monthStart_monthOf_succ day⟩
  · rintro ⟨h, h'⟩
    have h₁ := monthStart_le_iff.1 h
    have h₂ : ¬ m + 1 ≤ monthOf day := fun hc => by
      have := monthStart_le_iff.2 hc
      omega
    omega

theorem monthOf_monthStart (m : Int) : monthOf (monthStart m) = m := by
  have := (monthLength_bounds m).1
  unfold monthLength at this
  exact monthOf_eq_iff.2 ⟨Int.le_refl _, by omega⟩

end RelativeTime.Calendar

import RelativeTime.Proofs.Calendar.Moves

/-! The 29 February, and the months by which it is left and reached. A year on from it is the 28th,
and from there no number of years leads back. -/
namespace RelativeTime.Calendar

def IsLeapDay (day : Int) : Prop := (Date.ofDay day).month = 2 ∧ (Date.ofDay day).day = 29

instance (day : Int) : Decidable (IsLeapDay day) := inferInstanceAs (Decidable (_ ∧ _))

theorem isLeapDay_iff {day : Int} :
    IsLeapDay day ↔ monthOf day % 12 = 1 ∧ day = monthStart (monthOf day) + 28 := by
  have := monthStart_monthOf_le day
  simp only [IsLeapDay, Date.ofDay]
  omega

theorem monthLength_eq (m : Int) : monthLength m =
    if m % 12 = 1 then 28 + (leapDays ((m - 2) / 12 + 1) - leapDays ((m - 2) / 12))
    else (153 * ((m - 2) % 12 + 1) + 2) / 5 - (153 * ((m - 2) % 12) + 2) / 5 := by
  have h : (m + 1 - 2) % 12 = (m - 2) % 12 + 1 ∧ (m + 1 - 2) / 12 = (m - 2) / 12 ∧ m % 12 ≠ 1 ∨
      (m - 2) % 12 = 11 ∧ (m + 1 - 2) % 12 = 0 ∧ (m + 1 - 2) / 12 = (m - 2) / 12 + 1 ∧
        m % 12 = 1 := by omega
  simp only [monthLength, monthStart]
  rcases h with ⟨h, h', h''⟩ | ⟨h, h', h'', h'''⟩
  · rw [h, h', if_neg h'']
    omega
  · rw [h, h', h'', if_pos h''']
    omega

theorem february_of_monthLength_lt {m : Int} (h : monthLength m < monthLength (m + 12)) :
    m % 12 = 1 ∧ monthLength m = 28 := by
  have h₁ := monthLength_eq m
  have h₂ := monthLength_eq (m + 12)
  have hyear : (m + 12 - 2) / 12 = (m - 2) / 12 + 1 := by omega
  have hplace : (m + 12 - 2) % 12 = (m - 2) % 12 := by omega
  rw [hyear, hplace, Int.add_emod_right] at h₂
  by_cases hm : m % 12 = 1
  · rw [if_pos hm] at h₁ h₂
    simp only [leapDays] at h₁ h₂
    omega
  · rw [if_neg hm] at h₁ h₂
    omega

theorem monthLength_february_le {m : Int} (hm : m % 12 = 1) : monthLength m ≤ 29 := by
  have h := monthLength_eq m
  rw [if_pos hm] at h
  simp only [leapDays] at h
  omega

theorem monthLength_before_leap {m : Int} (hm : m % 12 = 1) (h : monthLength m = 29) :
    monthLength (m - 12) = 28 := by
  have h₁ := monthLength_eq m
  have h₂ := monthLength_eq (m - 12)
  have hyear : (m - 12 - 2) / 12 = (m - 2) / 12 - 1 := by omega
  have hplace : (m - 12 - 2) % 12 = (m - 2) % 12 := by omega
  rw [hyear, hplace, Int.sub_emod_right] at h₂
  rw [if_pos hm] at h₁ h₂
  simp only [leapDays] at h₁ h₂
  omega

theorem IsLeapDay.monthLength {day : Int} (h : IsLeapDay day) :
    Calendar.monthLength (monthOf day) = 29 := by
  obtain ⟨hm, hd⟩ := isLeapDay_iff.mp h
  have hle := monthLength_february_le hm
  have hlt := lt_monthStart_monthOf_succ day
  unfold Calendar.monthLength at hle ⊢
  omega

/-- Two moves by months never lead beyond one, since each may cut the day of the month. -/
theorem monthsOn_monthsOn_le (day m n : Int) :
    monthsOn (monthsOn day m) n ≤ monthsOn day (m + n) := by
  have h := (monthLength_bounds (monthOf day + m + n)).1
  rw [monthsOn, monthOf_monthsOn, monthsOn, monthsOn, ← Int.add_assoc]
  omega

theorem leapDay_of_monthsOn_lt (day years : Int)
    (h : monthsOn (monthsOn day (years * 12)) 12 < monthsOn day ((years + 1) * 12)) :
    IsLeapDay day ∧ IsLeapDay (monthsOn day ((years + 1) * 12)) ∧
      monthsOn (monthsOn day (years * 12)) 12 = monthsOn day ((years + 1) * 12) - 1 := by
  have hmonth := monthOf_monthsOn day ((years + 1) * 12)
  have hlt := lt_monthStart_monthOf_succ day
  have htwice : monthsOn (monthsOn day (years * 12)) 12 =
      monthStart (monthOf day + years * 12 + 12) +
        min (min (day - monthStart (monthOf day))
          (Calendar.monthLength (monthOf day + years * 12) - 1))
          (Calendar.monthLength (monthOf day + years * 12 + 12) - 1) := by
    rw [monthsOn, monthOf_monthsOn, monthsOn]
    omega
  have hindex : monthOf day + (years + 1) * 12 = monthOf day + years * 12 + 12 := by omega
  have honce : monthsOn day ((years + 1) * 12) = monthStart (monthOf day + years * 12 + 12) +
      min (day - monthStart (monthOf day))
        (Calendar.monthLength (monthOf day + years * 12 + 12) - 1) := by
    rw [monthsOn, hindex]
  have hcut : Calendar.monthLength (monthOf day + years * 12) <
      Calendar.monthLength (monthOf day + years * 12 + 12) := by omega
  obtain ⟨hfeb, hshort⟩ := february_of_monthLength_lt hcut
  have hlen := monthLength_february_le (m := monthOf day) (by omega)
  have hlen' := monthLength_february_le (m := monthOf day + years * 12 + 12) (by omega)
  rw [isLeapDay_iff, isLeapDay_iff, hmonth, htwice, honce, hindex]
  unfold Calendar.monthLength at hlen
  omega

/-- The years from one 29 February to another lead there at once, but the last of them taken alone
leads to the day before. -/
theorem IsLeapDay.monthsOn_eq {day leap : Int} (hday : IsLeapDay day) (hleap : IsLeapDay leap)
    {years : Int} (h : monthOf leap = monthOf day + years * 12) :
    monthsOn day (years * 12) = leap ∧
      monthsOn (monthsOn day ((years - 1) * 12)) 12 = leap - 1 := by
  have hlen := hleap.monthLength
  obtain ⟨hfeb, hd'⟩ := isLeapDay_iff.mp hleap
  obtain ⟨-, hd⟩ := isLeapDay_iff.mp hday
  have hbefore := monthLength_before_leap hfeb hlen
  have hyear : monthOf day + (years - 1) * 12 = monthOf leap - 12 := by omega
  have hearlier : monthsOn day ((years - 1) * 12) = monthStart (monthOf leap - 12) + 27 := by
    rw [monthsOn, hyear, hbefore]
    omega
  constructor
  · rw [monthsOn, ← h, hlen]
    omega
  · rw [monthsOn, monthOf_monthsOn, hearlier, hyear, Int.sub_add_cancel, hlen]
    omega

end RelativeTime.Calendar

import Mathlib.Algebra.Group.Nat.Defs
import Mathlib.Data.List.TakeWhile
import RelativeTime.Timestamp.Printer

/-! Timestamps as they are written: a date, then the first `T`. -/
namespace RelativeTime

open Calendar

namespace Digits

theorem isDigit_of_mem_padded {width n : Nat} {c : Char} (h : c ∈ padded width n) :
    c.isDigit = true := by
  rcases List.mem_append.mp h with h | h
  · rw [List.eq_of_mem_replicate h]
    rfl
  · exact isDigit_of_mem_text h

theorem value_padded (width n : Nat) : value (padded width n) = n := by
  rw [value, padded, List.leftpad, Nat.ofDigitChars_append, Nat.ofDigitChars_replicate_zero,
    Nat.mul_zero]
  exact value_text n

theorem length_padded {width n : Nat} (hw : 0 < width) (h : n < 10 ^ width) :
    (padded width n).length = width := by
  have hlen : (text n).length ≤ width := (Nat.length_toDigits_le_iff (by decide) hw).mpr h
  rw [padded, List.leftpad, List.length_append, List.length_replicate]
  omega

end Digits

namespace Date

theorem not_T_of_mem_chars {d : Date} {c : Char} (h : c ∈ d.chars) : c ≠ 'T' := by
  have hdigit {width n : Nat} (h : c ∈ Digits.padded width n) : c ≠ 'T' := by
    rintro rfl
    have := Digits.isDigit_of_mem_padded h
    revert this
    decide
  have hyear (h : c ∈ yearChars d.year) : c ≠ 'T' := by
    unfold yearChars at h
    split at h
    · exact hdigit h
    · rcases List.mem_cons.mp h with rfl | h
      · cases Sign.ofInt d.year <;> decide
      · exact hdigit h
  simp only [chars, List.mem_append, List.mem_cons] at h
  rcases h with (h | rfl | h) | rfl | h
  · exact hyear h
  · decide
  · exact hdigit h
  · decide
  · exact hdigit h

theorem day_eq_of_chars {d d' : Date} (h : d.chars = d'.chars) (hd : d.day < 100)
    (hd' : d'.day < 100) : d.day = d'.day := by
  have hlen : ('-' :: Digits.padded 2 d.day).length = ('-' :: Digits.padded 2 d'.day).length := by
    rw [List.length_cons, List.length_cons, Digits.length_padded (by decide) hd,
      Digits.length_padded (by decide) hd']
  have hday := (List.append_inj' h hlen).2
  rw [← Digits.value_padded 2 d.day, (List.cons.inj hday).2, Digits.value_padded]

end Date

theorem takeWhile_stampChars (r : Reading) (offset : Int) :
    (stampChars r offset).takeWhile (· != 'T') = (Date.ofDay r.day).chars := by
  simp only [stampChars, Reading.faceChars, List.append_assoc, List.cons_append]
  rw [List.takeWhile_append_of_pos fun c hc => by simpa using Date.not_T_of_mem_chars hc,
    List.takeWhile_cons_of_neg (by simp), List.append_nil]

theorem dayOfMonth_succ_ne (day : Int) : (Date.ofDay (day + 1)).day ≠ (Date.ofDay day).day := by
  have h := monthStart_monthOf_le day
  have h' := monthStart_monthOf_le (day + 1)
  have hlt := lt_monthStart_monthOf_succ (day + 1)
  have hlen := (monthLength_bounds (monthOf day)).1
  unfold monthLength at hlen
  rcases Int.lt_or_le (day + 1) (monthStart (monthOf day + 1)) with hlt | hge
  · have hm : monthOf (day + 1) = monthOf day := monthOf_eq_iff.mpr ⟨by omega, hlt⟩
    simp only [Date.ofDay, hm]
    omega
  · have hend := lt_monthStart_monthOf_succ day
    have hfirst : day + 1 = monthStart (monthOf day + 1) := by omega
    have hm : monthOf (day + 1) = monthOf day + 1 := by rw [hfirst, monthOf_monthStart]
    simp only [Date.ofDay, hm]
    omega

theorem Instant.format_eq_ok_iff {i : Instant} {text : String} : i.format = .ok text ↔
    i.face.InRange ∧ text = String.ofList (stampChars i.face i.offset) := by
  unfold Instant.format Instant.wall
  split
  · rename_i h
    constructor
    · intro hf
      exact ⟨h, (Except.ok.inj hf).symm⟩
    · rintro ⟨-, rfl⟩
      rfl
  · rename_i h
    constructor
    · intro hf
      cases hf
    · intro hf
      exact absurd hf.1 h

theorem Instant.format_ne_of_next_day {i j : Instant} {text : String}
    (h : j.face.day = i.face.day + 1) (hi : i.format = .ok text) : j.format ≠ .ok text := by
  intro hj
  obtain ⟨-, rfl⟩ := Instant.format_eq_ok_iff.mp hi
  have hstamp := String.ofList_injective (Instant.format_eq_ok_iff.mp hj).2
  have hchars := congrArg (List.takeWhile (· != 'T')) hstamp
  rw [takeWhile_stampChars, takeWhile_stampChars, h] at hchars
  have hday (day : Int) : (Date.ofDay day).day < 100 := by
    have := (Date.valid_ofDay day).2.2.2
    have := (monthLength_bounds (Date.ofDay day).monthIndex).2
    omega
  exact dayOfMonth_succ_ne i.face.day (Date.day_eq_of_chars hchars (hday _) (hday _)).symm

end RelativeTime

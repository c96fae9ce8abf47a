import RelativeTime.Proofs.Exactness
import RelativeTime.Proofs.Instruction.Grammar

/-! Shifts written with any number of digits. What is read of the digits is a word of 64 bits, the
largest one if the number is longer, and what is shifted by is a signed word. Neither limit can be
told from a result: an amount that is no signed word leads out of the calendar from wherever it
starts, and it is reported before anything is computed with what is left of it. -/
namespace RelativeTime

open Calendar Instruction MachineWord

def FarAmount (n : Int) : Prop := 0x8000000000000000 ≤ n.natAbs

def Instruction.Numeral.signed (n : Numeral) (sign : Option Sign) : Int :=
  (sign.getD .plus).apply n.value

/-! ### Amounts that lead out of the calendar -/

namespace TimeUnit

variable {u : TimeUnit} {day n : Int}

theorem not_dayInRange_move (hu : u.MovesDate) (hd : DayInRange day) (hn : FarAmount n) :
    ¬ DayInRange (u.stride.move day n) := by
  have hmonth := dayInRange_iff_month.mp hd
  rw [DayInRange, firstDay_eq, lastDay_eq] at hd
  rw [FarAmount] at hn
  rcases hu with rfl | rfl | rfl | rfl
  · rw [DayInRange, firstDay_eq, lastDay_eq]
    simp only [stride, Stride.move]
    omega
  · rw [DayInRange, firstDay_eq, lastDay_eq]
    simp only [stride, Stride.move]
    omega
  · rw [dayInRange_iff_month]
    simp only [stride, Stride.move, monthOf_monthsOn]
    omega
  · rw [dayInRange_iff_month]
    simp only [stride, Stride.move, monthOf_monthsOn]
    omega

end TimeUnit

namespace Reading

variable {r s : Reading} {u : TimeUnit} {n : Int}

theorem not_inRange_after (hr : r.InRange) {nanos : Int} (hu : u.stride = .elapsed nanos)
    (hn : FarAmount n) : ¬ (r.after (n * nanos)).InRange := by
  -- A millisecond is the shortest unit.
  have hfar : 0x8000000000000000 * 1000000 ≤ (n * nanos).natAbs := by
    rw [FarAmount] at hn
    rw [Int.natAbs_mul]
    refine Nat.mul_le_mul hn ?_
    rcases TimeUnit.elapsed_cases hu with ⟨-, rfl⟩ | ⟨-, rfl⟩ | ⟨-, rfl⟩ | ⟨-, rfl⟩ <;> decide
  have hbounds := r.after_nanos_bounds (n * nanos)
  simp only [InRange, DayInRange, day, firstDay_eq, lastDay_eq] at hr ⊢
  omega

theorem not_inRange_of_far (hr : r.InRange) (hn : FarAmount n) (hs : r.ShiftsTo u n s) :
    ¬ s.InRange := by
  obtain rfl := shiftsTo_iff.mp hs
  by_cases hu : u.MovesDate
  · rw [plus_of_movesDate hu, InRange, onDay_day]
    exact TimeUnit.not_dayInRange_move hu hr hn
  · obtain ⟨nanos, hnanos⟩ := TimeUnit.exists_elapsed hu
    simp only [plus, hnanos]
    exact not_inRange_after hr hnanos hn

end Reading

theorem Instant.plus_ne_ok_of_far {i : Instant} {u : TimeUnit} {n : Int} (hn : FarAmount n)
    (j : Instant) : i.plus u n ≠ .ok j := by
  intro h
  by_cases hu : u.MovesDate
  · obtain ⟨hd, -⟩ := resolve_of_plus hu h
    exact TimeUnit.not_dayInRange_move hu hd hn (dayInRange_of_plus hu h)
  · obtain ⟨nanos, hnanos⟩ := TimeUnit.exists_elapsed hu
    have hutc := ((plus_elapsed_eq_ok_iff hnanos).mp h).2
    exact Reading.not_inRange_after i.inRange hnanos hn (hutc ▸ j.inRange)

/-! ### What is left of a number -/

namespace Delta

variable {sign : Sign} {value : Nat} {u : TimeUnit} {i : Instant}

theorem apply_saturating_of_le (h : value ≤ 0x7fffffffffffffff) :
    (saturating sign value u).apply i = i.plus u (sign.apply value) := by
  have hwhole : min value 0xFFFFFFFFFFFFFFFF = value := by omega
  simp only [apply, amount?, saturating, hwhole]
  rw [if_pos (by omega)]

theorem apply_saturating_of_lt (h : 0x7fffffffffffffff < value) :
    (saturating sign value u).apply i =
      .error (.reported (.oversizedMagnitude (saturating sign value u))) := by
  have hnone : (saturating sign value u).amount? = none := if_neg (by simp only [saturating]; omega)
  simp only [apply, hnone]

end Delta

namespace Instruction

variable {sign : Option Sign} {n : Numeral} {w : Word} {i : Instant}

theorem parse_written_shift (sign : Option Sign) (n : Numeral) (w : Word) :
    parse (spell [.delta sign n w]) =
      .ok [.delta (.saturating (sign.getD .plus) n.value w.unit)] :=
  parse_spell_iff.mpr ⟨List.isChain_singleton _, rfl⟩

theorem Numeral.long?_signed (h : n.value ≤ 0x7fffffffffffffff) :
    long? (n.signed sign) = some (n.signed sign) := by
  have hsize := (sign.getD .plus).natAbs_apply n.value
  refine between?_eq_some_iff.mpr ⟨rfl, ?_⟩
  rw [Numeral.signed]
  omega

theorem Numeral.farAmount_signed (h : 0x7fffffffffffffff < n.value) :
    FarAmount (n.signed sign) := by
  have hsize := (sign.getD .plus).natAbs_apply n.value
  rw [FarAmount, Numeral.signed, hsize]
  exact h

/-- Digits behind a sign or none, and a word for a unit, are one shift. It is evaluated in signed
words, which hold the amount and whatever comes of it, if the number is below the end of these, and
reported if it is not: the exact result has no date then, in UTC or on the wall clock. So a result
is always that of the number as it is written. -/
theorem evaluate_written_shift (sign : Option Sign) (n : Numeral) (w : Word)
    (hd : i.face.InRange) :
    ∃ d : Delta, parse (spell [.delta sign n w]) = .ok [.delta d] ∧
      (n.value ≤ 0x7fffffffffffffff →
        long? (n.signed sign) = some (n.signed sign) ∧
        evaluate i [.delta d] = i.plusInWords w.unit (n.signed sign) ∧
        i.plusInWords w.unit (n.signed sign) = i.plus w.unit (n.signed sign)) ∧
      (0x7fffffffffffffff < n.value →
        (∃ e, evaluate i [.delta d] = .error (.reported e) ∧ e.kind = .transform ∧
          e = .oversizedMagnitude d) ∧
        ∀ s, i.utc.ShiftsTo w.unit (n.signed sign) s ∨ i.face.ShiftsTo w.unit (n.signed sign) s →
          ¬ s.InRange) ∧
      ∀ j, evaluate i [.delta d] = .ok j ↔ i.plus w.unit (n.signed sign) = .ok j := by
  refine ⟨_, parse_written_shift sign n w, fun hsmall => ?_, fun hlarge => ?_, fun j => ?_⟩
  · have happly : evaluate i [.delta (.saturating (sign.getD .plus) n.value w.unit)] =
        i.plus w.unit (n.signed sign) :=
      (i.evaluate_singleton _).trans (Delta.apply_saturating_of_le hsmall)
    have hwords := i.plusInWords_eq w.unit (n.signed sign)
    exact ⟨Numeral.long?_signed hsmall, happly.trans hwords.symm, hwords⟩
  · have hfar : FarAmount (n.signed sign) := Numeral.farAmount_signed hlarge
    refine ⟨⟨_, ?_, rfl, rfl⟩, fun s hs => ?_⟩
    · exact (i.evaluate_singleton _).trans (Delta.apply_saturating_of_lt hlarge)
    · rcases hs with hs | hs
      · exact Reading.not_inRange_of_far i.inRange hfar hs
      · exact Reading.not_inRange_of_far hd hfar hs
  · rw [i.evaluate_singleton]
    rcases Nat.lt_or_ge 0x7fffffffffffffff n.value with hlarge | hsmall
    · have hrefused : (Token.delta (.saturating (sign.getD .plus) n.value w.unit)).apply i =
          .error _ := Delta.apply_saturating_of_lt hlarge
      rw [hrefused]
      exact iff_of_false nofun (Instant.plus_ne_ok_of_far (Numeral.farAmount_signed hlarge) j)
    · exact iff_of_eq (congrArg (· = _) (Delta.apply_saturating_of_le hsmall))

/-- The least signed word, with zeros in front. As an amount it would fit, but it is read without
its sign. -/
theorem evaluate_least_word :
    ∃ (n : Numeral) (w : Word) (i : Instant), i.zone = .named "America/Chicago" Zone.Table.chicago ∧
      i.face.InRange ∧ spell [.delta (some .minus) n w] = "-0009223372036854775808ms" ∧
      long? (n.signed (some .minus)) = some (-0x8000000000000000) ∧
      ∃ d : Delta, parse "-0009223372036854775808ms" = .ok [.delta d] ∧
        (∃ e, evaluate i [.delta d] = .error (.reported e) ∧ e.kind = .transform) ∧
        ∀ s, i.face.ShiftsTo .milliseconds (-0x8000000000000000) s → ¬ s.InRange := by
  let n : Numeral := ⟨"0009223372036854775808".toList, by decide, List.all_eq_true.mp rfl⟩
  let w : Word := ⟨.milliseconds, "ms", by decide⟩
  let i : Instant := ⟨⟨315532800000000000, false⟩, .named "America/Chicago" Zone.Table.chicago,
    by decide⟩
  have hd : i.face.InRange := by decide +kernel
  have htext : spell [.delta (some .minus) n w] = "-0009223372036854775808ms" := by decide
  have hamount : n.signed (some .minus) = -0x8000000000000000 := by decide
  obtain ⟨d, hparse, -, hlarge, -⟩ := evaluate_written_shift (some .minus) n w hd
  obtain ⟨⟨e, he, hkind, -⟩, hout⟩ := hlarge (by decide)
  refine ⟨n, w, i, rfl, hd, htext, by rw [hamount]; decide, d, htext ▸ hparse, ⟨e, he, hkind⟩,
    fun s hs => hout s (.inr (hamount.symm ▸ hs))⟩

end Instruction

end RelativeTime
